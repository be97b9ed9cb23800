import IrPitCrew.Server.WebServer
import Mathlib.Tactic.Ring

/-!
# WebSocket frames

`libwebsocket_rx_sm` takes a connection's bytes one at a time and hands the payload
to the callback as it comes: a frame at its end, or what fills the receive buffer.
`libwebsocket_write` builds the frames that it reads.
-/

open IrPitCrew.Text

namespace IrPitCrew.WebServer

/-! ## The receiver -/

/-- `LWS_MAX_SOCKET_IO_BUF`: no protocol of the server gives a size of its own. -/
def maxSocketIoBuf : ℕ := 102400

/-- `LWS_RXPS_*`. The states that take the bytes of a number or of the key one by one
carry the place of the byte. -/
inductive RxParseState
  | new
  | frameHdrLen
  | frameHdrLen16 (n : ℕ)
  | frameHdrLen64 (n : ℕ)
  | collectFrameKey (n : ℕ)
  | payloadUntilLengthExhausted
  deriving DecidableEq

def opText : UInt8 := 1
def opBinary : UInt8 := 2
def opContinuation : UInt8 := 0
def opClose : UInt8 := 8
def opPing : UInt8 := 9
def opPong : UInt8 := 10

/-- `rxUserBuffer` is the receive buffer up to its head. -/
structure RxState where
  parseState : RxParseState := .new
  awaitingCloseAck : Bool := false
  opcode : UInt8 := 0
  thisFrameMasked : Bool := false
  rxPacketLength : ℕ := 0
  frameMaskingNonce : List UInt8 := [0, 0, 0, 0]
  frameMaskIndex : ℕ := 0
  allZeroNonce : Bool := false
  rxUserBuffer : List UInt8 := []

/-- What the server does on account of a frame. -/
inductive RxAction
  | receive (payload : List UInt8)
  | pong (payload : List UInt8)
  | closeReply (payload : List UInt8)

inductive RxResult
  | more (s : RxState) (out : Option RxAction)
  | closed (out : Option RxAction)

/-- The label `spill`: the buffer is given away and emptied. -/
def spill (s : RxState) : RxResult :=
  let emptied := { s with rxUserBuffer := [] }
  if s.opcode = opClose then
    .closed (if s.awaitingCloseAck then none else some (.closeReply s.rxUserBuffer))
  else if s.opcode = opPing then .more emptied (some (.pong s.rxUserBuffer))
  else if s.opcode = opPong then .more emptied none
  else if s.opcode = opText ∨ s.opcode = opBinary ∨ s.opcode = opContinuation then
    .more emptied (if s.rxUserBuffer ≠ [] then some (.receive s.rxUserBuffer) else none)
  else .more emptied none

/-- The state after an extended length. An empty payload is not looked for here. -/
def afterLength (s : RxState) : RxState :=
  { s with
    parseState := if s.thisFrameMasked then .collectFrameKey 1 else .payloadUntilLengthExhausted }

/-- One less, in a `size_t` of 32 bits. -/
def decrement (n : ℕ) : ℕ := if n = 0 then 2 ^ 32 - 1 else n - 1

/-- A payload byte is unmasked with the next byte of the key. -/
def unmask (s : RxState) (c : UInt8) : UInt8 :=
  if s.allZeroNonce then c else c ^^^ s.frameMaskingNonce.getD (s.frameMaskIndex % 4) 0

/-- `libwebsocket_rx_sm`, for version 13 of the protocol. -/
def rxSm (s : RxState) (c : UInt8) : RxResult :=
  match s.parseState with
  | .new => .more { s with allZeroNonce := true, opcode := c &&& 0x0f, parseState := .frameHdrLen } none
  | .frameHdrLen =>
    let s : RxState := { s with thisFrameMasked := (c &&& 0x80) ≠ 0 }
    if (c &&& 0x7f) = 126 then
      -- control frames are not allowed to have big lengths
      if (s.opcode &&& 8) ≠ 0 then .closed none
      else .more { s with parseState := .frameHdrLen16 2 } none
    else if (c &&& 0x7f) = 127 then
      if (s.opcode &&& 8) ≠ 0 then .closed none
      else .more { s with parseState := .frameHdrLen64 8 } none
    else
      let s := { s with rxPacketLength := (c &&& 0x7f).toNat }
      if s.thisFrameMasked then .more { s with parseState := .collectFrameKey 1 } none
      else if s.rxPacketLength ≠ 0 then .more { s with parseState := .payloadUntilLengthExhausted } none
      else spill { s with parseState := .new }
  | .frameHdrLen16 n =>
    if n = 2 then
      .more { s with rxPacketLength := c.toNat <<< 8, parseState := .frameHdrLen16 1 } none
    else .more (afterLength { s with rxPacketLength := s.rxPacketLength ||| c.toNat }) none
  | .frameHdrLen64 n =>
    -- b63 of length must be zero; the upper half of the length is dropped
    if n = 8 ∧ (c &&& 0x80) ≠ 0 then .closed none
    else
      let length :=
        if n = 8 then 0
        else if n > 4 then s.rxPacketLength
        else s.rxPacketLength ||| c.toNat <<< (8 * (n - 1))
      let s := { s with rxPacketLength := length }
      .more (if n > 1 then { s with parseState := .frameHdrLen64 (n - 1) } else afterLength s) none
  | .collectFrameKey n =>
    let s :=
      { s with
        frameMaskingNonce := s.frameMaskingNonce.set (n - 1) c
        allZeroNonce := s.allZeroNonce && c = 0 }
    if n < 4 then .more { s with parseState := .collectFrameKey (n + 1) } none
    else
      let s := { s with frameMaskIndex := 0 }
      if s.rxPacketLength = 0 then spill { s with parseState := .new }
      else .more { s with parseState := .payloadUntilLengthExhausted } none
  | .payloadUntilLengthExhausted =>
    let s :=
      { s with
        rxUserBuffer := s.rxUserBuffer ++ [unmask s c]
        frameMaskIndex := if s.allZeroNonce then s.frameMaskIndex else (s.frameMaskIndex + 1) % 256
        rxPacketLength := decrement s.rxPacketLength }
    if s.rxPacketLength = 0 then spill { s with parseState := .new }
    else if s.rxUserBuffer.length ≠ maxSocketIoBuf then .more s none
    else spill s

/-- `libwebsocket_interpret_incoming_packet`: what is done for some bytes, and the
state after them unless the connection is closed. -/
def rxBytes (s : RxState) : List UInt8 → List RxAction × Option RxState
  | [] => ([], some s)
  | c :: cs =>
    match rxSm s c with
    | .more s out => ((out.toList ++ (rxBytes s cs).1), (rxBytes s cs).2)
    | .closed out => (out.toList, none)

/-! ## The sender -/

/-- The kinds of frames that `libwebsocket_write` is asked for, but the closing one. -/
inductive WriteProtocol
  | text
  | binary
  | continuation
  | ping
  | pong
  deriving DecidableEq

def WriteProtocol.opcode : WriteProtocol → UInt8
  | .text => opText
  | .binary => opBinary
  | .continuation => opContinuation
  | .ping => opPing
  | .pong => opPong

def WriteProtocol.IsControl (p : WriteProtocol) : Prop := p = .ping ∨ p = .pong

/-- A frame, with the key that masks it on the way from client to server. -/
structure Frame where
  protocol : WriteProtocol
  fin : Bool := true
  nonce : Option (UInt8 × UInt8 × UInt8 × UInt8) := none
  payload : List UInt8
  length_lt : payload.length < 2 ^ 32
  control_lt : protocol.IsControl → payload.length < 126

def maskBit (masked : Bool) : UInt8 := if masked then 0x80 else 0

def firstByte (opcode : UInt8) (fin : Bool) : UInt8 := opcode ||| if fin then 0x80 else 0

/-- The bytes before the key. Only four bytes of a long length are written. -/
def frameHeader (opcode : UInt8) (fin masked : Bool) (len : ℕ) : List UInt8 :=
  if len < 126 then [firstByte opcode fin, .ofNat len ||| maskBit masked]
  else if len < 65536 then
    [firstByte opcode fin, 126 ||| maskBit masked, .ofNat (len >>> 8), .ofNat len]
  else
    [firstByte opcode fin, 127 ||| maskBit masked, 0, 0, 0, 0, .ofNat (len >>> 24), .ofNat (len >>> 16),
      .ofNat (len >>> 8), .ofNat len]

/-- The payload with the key over it, from place `i` of the key on. -/
def maskFrom (nonce : List UInt8) (i : ℕ) : List UInt8 → List UInt8
  | [] => []
  | b :: bs => (b ^^^ nonce.getD (i % 4) 0) :: maskFrom nonce (i + 1) bs

/-- The bytes of a frame on the wire. -/
def Frame.bytes (f : Frame) : List UInt8 :=
  match f.nonce with
  | none => frameHeader f.protocol.opcode f.fin false f.payload.length ++ f.payload
  | some (k₀, k₁, k₂, k₃) =>
    frameHeader f.protocol.opcode f.fin true f.payload.length ++
      ([k₀, k₁, k₂, k₃] ++ maskFrom [k₀, k₁, k₂, k₃] 0 f.payload)

/-! ## Bytes of a header -/

theorem opcode_of_first (p : WriteProtocol) (fin : Bool) :
    firstByte p.opcode fin &&& 0x0f = p.opcode := by
  cases p <;> cases fin <;> decide

theorem control_bit (p : WriteProtocol) : (p.opcode &&& 8) ≠ 0 ↔ p.IsControl := by
  cases p <;> simp [WriteProtocol.IsControl, WriteProtocol.opcode] <;> decide

theorem toNat_ofNat_of_lt (n : ℕ) (h : n < 256) : (UInt8.ofNat n).toNat = n := by
  rw [UInt8.toNat_ofNat']
  exact Nat.mod_eq_of_lt h

theorem length_bits (n : ℕ) (masked : Bool) (h : n < 128) :
    (UInt8.ofNat n ||| maskBit masked) &&& 0x7f = UInt8.ofNat n ∧
      ((UInt8.ofNat n ||| maskBit masked) &&& 0x80 ≠ 0 ↔ masked = true) := by
  have hall : ∀ n < 128, ∀ masked, (UInt8.ofNat n ||| maskBit masked) &&& 0x7f = UInt8.ofNat n ∧
      ((UInt8.ofNat n ||| maskBit masked) &&& 0x80 ≠ 0 ↔ masked = true) := by decide +kernel
  exact hall n h masked

theorem or_byte (a b i : ℕ) (h : b < 2 ^ i) : a <<< i ||| b = a * 2 ^ i + b := by
  rw [← Nat.shiftLeft_add_eq_or_of_lt h, Nat.shiftLeft_eq]

theorem sixteen_bits (n : ℕ) (h : n < 65536) :
    (UInt8.ofNat (n >>> 8)).toNat <<< 8 ||| (UInt8.ofNat n).toNat = n := by
  rw [or_byte _ _ 8 (UInt8.toNat_lt _), UInt8.toNat_ofNat', UInt8.toNat_ofNat', Nat.shiftRight_eq_div_pow]
  omega

theorem or_shift (a b i : ℕ) : a <<< (8 + i) ||| b <<< i = (a <<< 8 ||| b) <<< i := by
  rw [Nat.shiftLeft_or_distrib, Nat.shiftLeft_add]

theorem thirtyTwo_bits (n : ℕ) (h : n < 2 ^ 32) :
    (UInt8.ofNat (n >>> 24)).toNat <<< 24 ||| (UInt8.ofNat (n >>> 16)).toNat <<< 16 |||
      (UInt8.ofNat (n >>> 8)).toNat <<< 8 ||| (UInt8.ofNat n).toNat = n := by
  rw [or_shift _ _ 16, or_shift _ _ 8, or_byte _ _ 8 (UInt8.toNat_lt _), or_byte _ _ 8 (UInt8.toNat_lt _),
    or_byte _ _ 8 (UInt8.toNat_lt _)]
  simp only [UInt8.toNat_ofNat', Nat.shiftRight_eq_div_pow]
  omega

/-! ## Reading bytes -/

theorem rxBytes_append (s : RxState) (a b : List UInt8) :
    rxBytes s (a ++ b) =
      match (rxBytes s a).2 with
      | some s' => ((rxBytes s a).1 ++ (rxBytes s' b).1, (rxBytes s' b).2)
      | none => rxBytes s a := by
  induction a generalizing s with
  | nil => rfl
  | cons c a ih =>
    rw [List.cons_append, rxBytes, rxBytes]
    cases rxSm s c with
    | closed out => rfl
    | more s' out =>
      dsimp only
      rw [ih s']
      cases h : (rxBytes s' a).2 with
      | none => simp only [h]
      | some s'' => simp only [List.append_assoc]

/-- The state after bytes for which nothing is done. -/
theorem rxBytes_cons_of_silent {s s' : RxState} {c : UInt8} (cs : List UInt8)
    (h : rxSm s c = .more s' none) : rxBytes s (c :: cs) = rxBytes s' cs := by
  rw [rxBytes, h]
  rfl

/-! ## The header of a frame -/

/-- Between two frames nothing is kept of what was received. -/
structure Between (s : RxState) : Prop where
  parseState : s.parseState = .new
  rxUserBuffer : s.rxUserBuffer = []
  nonceLength : s.frameMaskingNonce.length = 4

/-- After the length of a frame. -/
structure LengthRead (s : RxState) (p : WriteProtocol) (masked : Bool) (len : ℕ) : Prop where
  opcode : s.opcode = p.opcode
  rxPacketLength : s.rxPacketLength = len
  rxUserBuffer : s.rxUserBuffer = []
  allZeroNonce : s.allZeroNonce = true
  nonceLength : s.frameMaskingNonce.length = 4
  parseState : s.parseState = if masked then .collectFrameKey 1 else .payloadUntilLengthExhausted

/-- The state after the first byte of a frame. -/
def afterFirst (s : RxState) (p : WriteProtocol) : RxState :=
  { s with allZeroNonce := true, opcode := p.opcode, parseState := .frameHdrLen }

theorem rxSm_first {s : RxState} (hb : Between s) (p : WriteProtocol) (fin : Bool) :
    rxSm s (firstByte p.opcode fin) = .more (afterFirst s p) none := by
  unfold rxSm afterFirst
  rw [hb.parseState]
  simp only [opcode_of_first]

theorem rxSm_short {s : RxState} (hb : Between s) (p : WriteProtocol) (masked : Bool) (len : ℕ)
    (hlen : len < 126) (hpos : masked = true ∨ len ≠ 0) :
    ∃ s', rxSm (afterFirst s p) (.ofNat len ||| maskBit masked) = .more s' none ∧
      LengthRead s' p masked len := by
  obtain ⟨hbits, hmask⟩ := length_bits len masked (by omega)
  have hnat : (UInt8.ofNat len).toNat = len := toNat_ofNat_of_lt len (by omega)
  have h126 : UInt8.ofNat len ≠ 126 := fun h => by
    have : (UInt8.ofNat len).toNat = 126 := by rw [h]; rfl
    omega
  have h127 : UInt8.ofNat len ≠ 127 := fun h => by
    have : (UInt8.ofNat len).toNat = 127 := by rw [h]; rfl
    omega
  unfold rxSm afterFirst
  simp only [hbits, if_neg h126, if_neg h127, hnat]
  cases masked with
  | true =>
    simp only [hmask, decide_true, if_true]
    exact ⟨_, rfl, rfl, rfl, hb.rxUserBuffer, rfl, hb.nonceLength, rfl⟩
  | false =>
    have hne : len ≠ 0 := hpos.resolve_left (by simp)
    simp only [hmask, hne, Bool.false_eq_true, decide_false, ne_eq, not_false_eq_true, if_true, if_false]
    exact ⟨_, rfl, rfl, rfl, hb.rxUserBuffer, rfl, hb.nonceLength, rfl⟩

/-- The state while an extended length is read. -/
def extended (s : RxState) (p : WriteProtocol) (masked : Bool) (parseState : RxParseState)
    (length : ℕ) : RxState :=
  { afterFirst s p with thisFrameMasked := masked, parseState := parseState, rxPacketLength := length }

theorem rxSm_extended (s : RxState) (p : WriteProtocol) (masked : Bool) (hdata : ¬ p.IsControl) :
    rxSm (afterFirst s p) (126 ||| maskBit masked) =
        .more (extended s p masked (.frameHdrLen16 2) s.rxPacketLength) none ∧
      rxSm (afterFirst s p) (127 ||| maskBit masked) =
        .more (extended s p masked (.frameHdrLen64 8) s.rxPacketLength) none := by
  have hop : ¬ (p.opcode &&& 8) ≠ 0 := by rwa [control_bit]
  have h126 : ((126 : UInt8) ||| maskBit masked) &&& 0x7f = 126 := (length_bits 126 masked (by omega)).1
  have h127 : ((127 : UInt8) ||| maskBit masked) &&& 0x7f = 127 := (length_bits 127 masked (by omega)).1
  have hmask126 : decide (((126 : UInt8) ||| maskBit masked) &&& 0x80 ≠ 0) = masked := by
    rw [Bool.eq_iff_iff, decide_eq_true_iff]
    exact (length_bits 126 masked (by omega)).2
  have hmask127 : decide (((127 : UInt8) ||| maskBit masked) &&& 0x80 ≠ 0) = masked := by
    rw [Bool.eq_iff_iff, decide_eq_true_iff]
    exact (length_bits 127 masked (by omega)).2
  constructor
  · unfold rxSm extended afterFirst
    simp only [h126, if_true, if_neg hop, hmask126]
  · unfold rxSm extended afterFirst
    simp only [h127, show ¬ (127 : UInt8) = 126 by decide, if_true, if_false, if_neg hop, hmask127]

theorem lengthRead_extended {s : RxState} (hb : Between s) (p : WriteProtocol) (masked : Bool)
    (parseState : RxParseState) (length : ℕ) :
    LengthRead (afterLength (extended s p masked parseState length)) p masked length :=
  ⟨rfl, rfl, hb.rxUserBuffer, rfl, hb.nonceLength, rfl⟩

theorem rxBytes_twoBytes (s : RxState) (p : WriteProtocol) (masked : Bool) (n : ℕ) (b₁ b₀ : UInt8)
    (rest : List UInt8) :
    rxBytes (extended s p masked (.frameHdrLen16 2) n) (b₁ :: b₀ :: rest) =
      rxBytes (afterLength (extended s p masked (.frameHdrLen16 1) (b₁.toNat <<< 8 ||| b₀.toNat)))
        rest := by
  have h1 : rxSm (extended s p masked (.frameHdrLen16 2) n) b₁ =
      .more (extended s p masked (.frameHdrLen16 1) (b₁.toNat <<< 8)) none := rfl
  have h0 : rxSm (extended s p masked (.frameHdrLen16 1) (b₁.toNat <<< 8)) b₀ =
      .more (afterLength (extended s p masked (.frameHdrLen16 1) (b₁.toNat <<< 8 ||| b₀.toNat)))
        none := rfl
  rw [rxBytes_cons_of_silent _ h1, rxBytes_cons_of_silent _ h0]

/-- The upper four bytes of a long length are read over. -/
theorem rxBytes_upperBytes (s : RxState) (p : WriteProtocol) (masked : Bool) (n : ℕ)
    (rest : List UInt8) :
    rxBytes (extended s p masked (.frameHdrLen64 8) n) (0 :: 0 :: 0 :: 0 :: rest) =
      rxBytes (extended s p masked (.frameHdrLen64 4) 0) rest := by
  have h8 : rxSm (extended s p masked (.frameHdrLen64 8) n) 0 =
      .more (extended s p masked (.frameHdrLen64 7) 0) none := rfl
  have h7 : rxSm (extended s p masked (.frameHdrLen64 7) 0) 0 =
      .more (extended s p masked (.frameHdrLen64 6) 0) none := rfl
  have h6 : rxSm (extended s p masked (.frameHdrLen64 6) 0) 0 =
      .more (extended s p masked (.frameHdrLen64 5) 0) none := rfl
  have h5 : rxSm (extended s p masked (.frameHdrLen64 5) 0) 0 =
      .more (extended s p masked (.frameHdrLen64 4) 0) none := rfl
  rw [rxBytes_cons_of_silent _ h8, rxBytes_cons_of_silent _ h7, rxBytes_cons_of_silent _ h6,
    rxBytes_cons_of_silent _ h5]

theorem rxBytes_fourBytes (s : RxState) (p : WriteProtocol) (masked : Bool) (b₃ b₂ b₁ b₀ : UInt8)
    (rest : List UInt8) :
    rxBytes (extended s p masked (.frameHdrLen64 4) 0) (b₃ :: b₂ :: b₁ :: b₀ :: rest) =
      rxBytes (afterLength (extended s p masked (.frameHdrLen64 1)
        (b₃.toNat <<< 24 ||| b₂.toNat <<< 16 ||| b₁.toNat <<< 8 ||| b₀.toNat))) rest := by
  have h4 : rxSm (extended s p masked (.frameHdrLen64 4) 0) b₃ =
      .more (extended s p masked (.frameHdrLen64 3) (0 ||| b₃.toNat <<< 24)) none := rfl
  rw [Nat.zero_or] at h4
  have h3 : ∀ n, rxSm (extended s p masked (.frameHdrLen64 3) n) b₂ =
      .more (extended s p masked (.frameHdrLen64 2) (n ||| b₂.toNat <<< 16)) none := fun _ => rfl
  have h2 : ∀ n, rxSm (extended s p masked (.frameHdrLen64 2) n) b₁ =
      .more (extended s p masked (.frameHdrLen64 1) (n ||| b₁.toNat <<< 8)) none := fun _ => rfl
  have h1 : ∀ n, rxSm (extended s p masked (.frameHdrLen64 1) n) b₀ =
      .more (afterLength (extended s p masked (.frameHdrLen64 1) (n ||| b₀.toNat))) none := fun _ => rfl
  rw [rxBytes_cons_of_silent _ h4, rxBytes_cons_of_silent _ (h3 _), rxBytes_cons_of_silent _ (h2 _),
    rxBytes_cons_of_silent _ (h1 _)]

theorem rxBytes_header {s : RxState} (hb : Between s) (p : WriteProtocol) (fin masked : Bool)
    (len : ℕ) (hlen : len < 2 ^ 32) (hctl : p.IsControl → len < 126)
    (hpos : masked = true ∨ len ≠ 0) (rest : List UInt8) :
    ∃ s', rxBytes s (frameHeader p.opcode fin masked len ++ rest) = rxBytes s' rest ∧
      LengthRead s' p masked len := by
  have hfirst := rxSm_first hb p fin
  unfold frameHeader
  split
  · rename_i hshort
    obtain ⟨s', hsecond, hread⟩ := rxSm_short hb p masked len hshort hpos
    refine ⟨s', ?_, hread⟩
    rw [List.cons_append, rxBytes_cons_of_silent _ hfirst, List.cons_append,
      rxBytes_cons_of_silent _ hsecond, List.nil_append]
  · have hdata : ¬ p.IsControl := fun h => absurd (hctl h) ‹_›
    obtain ⟨h126, h127⟩ := rxSm_extended s p masked hdata
    split
    · rename_i h16
      refine ⟨_, ?_, lengthRead_extended hb p masked (.frameHdrLen16 1) len⟩
      simp only [List.cons_append, List.nil_append]
      rw [rxBytes_cons_of_silent _ hfirst, rxBytes_cons_of_silent _ h126, rxBytes_twoBytes,
        sixteen_bits len h16]
    · refine ⟨_, ?_, lengthRead_extended hb p masked (.frameHdrLen64 1) len⟩
      simp only [List.cons_append, List.nil_append]
      rw [rxBytes_cons_of_silent _ hfirst, rxBytes_cons_of_silent _ h127, rxBytes_upperBytes,
        rxBytes_fourBytes, thirtyTwo_bits len hlen]

/-! ## The key -/

/-- The state while the key is read. -/
def keyState (s : RxState) (n : ℕ) (nonce : List UInt8) (allZero : Bool) : RxState :=
  { s with parseState := .collectFrameKey n, frameMaskingNonce := nonce, allZeroNonce := allZero }

theorem eq_keyState {s : RxState} {p : WriteProtocol} {len : ℕ} (h : LengthRead s p true len) :
    s = keyState s 1 s.frameMaskingNonce true := by
  obtain ⟨-, -, -, hzero, -, hstate⟩ := h
  cases s
  dsimp only at hzero hstate
  rw [hzero, hstate]
  rfl

theorem set_four (l : List UInt8) (h : l.length = 4) (k₀ k₁ k₂ k₃ : UInt8) :
    (((l.set 0 k₀).set 1 k₁).set 2 k₂).set 3 k₃ = [k₀, k₁, k₂, k₃] := by
  obtain _ | ⟨a, _ | ⟨b, _ | ⟨c, _ | ⟨d, _ | ⟨e, l⟩⟩⟩⟩⟩ := l <;> simp at h
  rfl

/-- A masked byte is unmasked in place `i` of the key. Without a key, or with one of
zeros, bytes are taken as they come. -/
inductive Unmasks (s : RxState) (i : ℕ) (mask : List UInt8) : Prop
  | plain : s.allZeroNonce = true → (∀ k, mask.getD k 0 = 0) → Unmasks s i mask
  | key : s.allZeroNonce = false → s.frameMaskingNonce = mask →
      s.frameMaskIndex % 4 = i % 4 → Unmasks s i mask

theorem unmask_maskFrom {s : RxState} {i : ℕ} {mask : List UInt8} (h : Unmasks s i mask) (b : UInt8) :
    unmask s (b ^^^ mask.getD (i % 4) 0) = b := by
  unfold unmask
  cases h with
  | plain hzero hmask => rw [if_pos hzero, hmask, UInt8.xor_zero]
  | key hzero hnonce hindex =>
    rw [if_neg (by simp [hzero]), hnonce, hindex, UInt8.xor_assoc, UInt8.xor_self, UInt8.xor_zero]

theorem maskFrom_nil (i : ℕ) (bs : List UInt8) : maskFrom [] i bs = bs := by
  induction bs generalizing i with
  | nil => rfl
  | cons b bs ih =>
    rw [maskFrom, ih]
    simp

/-- The state in the payload of a frame, with `left` bytes to come. -/
structure InPayload (s : RxState) (p : WriteProtocol) (left : ℕ) : Prop where
  parseState : s.parseState = .payloadUntilLengthExhausted
  opcode : s.opcode = p.opcode
  rxPacketLength : s.rxPacketLength = left
  nonceLength : s.frameMaskingNonce.length = 4

/-- What is done for the bytes in the buffer. -/
def WriteProtocol.given : WriteProtocol → List UInt8 → List RxAction
  | .ping, held => [.pong held]
  | .pong, _ => []
  | _, held => if held ≠ [] then [.receive held] else []

theorem spill_given {s : RxState} (p : WriteProtocol) (h : s.opcode = p.opcode) :
    ∃ out, spill s = .more { s with rxUserBuffer := [] } out ∧
      out.toList = p.given s.rxUserBuffer := by
  unfold spill
  rw [h]
  cases p with
  | text => exact ⟨_, rfl, by simp only [WriteProtocol.given]; split <;> rfl⟩
  | binary => exact ⟨_, rfl, by simp only [WriteProtocol.given]; split <;> rfl⟩
  | continuation => exact ⟨_, rfl, by simp only [WriteProtocol.given]; split <;> rfl⟩
  | ping => exact ⟨_, rfl, rfl⟩
  | pong => exact ⟨_, rfl, rfl⟩

theorem rxSm_key (s : RxState) (nonce : List UInt8) (allZero : Bool) (k : UInt8) :
    rxSm (keyState s 1 nonce allZero) k =
        .more (keyState s 2 (nonce.set 0 k) (allZero && k = 0)) none ∧
      rxSm (keyState s 2 nonce allZero) k =
        .more (keyState s 3 (nonce.set 1 k) (allZero && k = 0)) none ∧
      rxSm (keyState s 3 nonce allZero) k =
        .more (keyState s 4 (nonce.set 2 k) (allZero && k = 0)) none :=
  ⟨rfl, rfl, rfl⟩

/-- The state after the last byte of the key. -/
def afterKey (s : RxState) (nonce : List UInt8) (allZero : Bool) (k : UInt8)
    (parseState : RxParseState) : RxState :=
  { keyState s 4 (nonce.set 3 k) (allZero && k = 0) with frameMaskIndex := 0, parseState := parseState }

theorem rxSm_lastKey (s : RxState) (nonce : List UInt8) (allZero : Bool) (k : UInt8) :
    rxSm (keyState s 4 nonce allZero) k =
      if s.rxPacketLength = 0 then spill (afterKey s nonce allZero k .new)
      else .more (afterKey s nonce allZero k .payloadUntilLengthExhausted) none := rfl

theorem rxBytes_key {s : RxState} {p : WriteProtocol} {len : ℕ} (h : LengthRead s p true len)
    (k₀ k₁ k₂ k₃ : UInt8) (rest : List UInt8) :
    ∃ s', rxBytes s (k₀ :: k₁ :: k₂ :: k₃ :: rest) = rxBytes s' (k₃ :: rest) ∧
      s' = keyState s 4 (((s.frameMaskingNonce.set 0 k₀).set 1 k₁).set 2 k₂)
        (true && k₀ = 0 && k₁ = 0 && k₂ = 0) := by
  refine ⟨_, ?_, rfl⟩
  conv_lhs => rw [eq_keyState h]
  rw [rxBytes_cons_of_silent _ (rxSm_key s _ _ k₀).1,
    rxBytes_cons_of_silent _ (rxSm_key s _ _ k₁).2.1,
    rxBytes_cons_of_silent _ (rxSm_key s _ _ k₂).2.2]

/-- After the whole key, for a payload that is not empty. -/
theorem rxBytes_wholeKey {s : RxState} {p : WriteProtocol} {len : ℕ} (h : LengthRead s p true len)
    (hlen : len ≠ 0) (k₀ k₁ k₂ k₃ : UInt8) (rest : List UInt8) :
    ∃ s', rxBytes s (k₀ :: k₁ :: k₂ :: k₃ :: rest) = rxBytes s' rest ∧ InPayload s' p len ∧
      s'.rxUserBuffer = [] ∧ Unmasks s' 0 [k₀, k₁, k₂, k₃] := by
  obtain ⟨s', hrun, rfl⟩ := rxBytes_key h k₀ k₁ k₂ k₃ rest
  have hfour := set_four s.frameMaskingNonce h.nonceLength k₀ k₁ k₂ k₃
  have hlast := rxSm_lastKey s (((s.frameMaskingNonce.set 0 k₀).set 1 k₁).set 2 k₂)
    (true && k₀ = 0 && k₁ = 0 && k₂ = 0) k₃
  rw [h.rxPacketLength, if_neg hlen] at hlast
  refine ⟨_, hrun.trans (rxBytes_cons_of_silent rest hlast),
    ⟨rfl, h.opcode, h.rxPacketLength, ?_⟩, h.rxUserBuffer, ?_⟩
  · change ((((s.frameMaskingNonce.set 0 k₀).set 1 k₁).set 2 k₂).set 3 k₃).length = 4
    rw [hfour]
    rfl
  · by_cases hzero : k₀ = 0 ∧ k₁ = 0 ∧ k₂ = 0 ∧ k₃ = 0
    · obtain ⟨rfl, rfl, rfl, rfl⟩ := hzero
      refine .plain (by rfl) fun k => ?_
      obtain _ | _ | _ | _ | k := k <;> rfl
    · refine .key ?_ hfour rfl
      change (true && decide (k₀ = 0) && decide (k₁ = 0) && decide (k₂ = 0) && decide (k₃ = 0)) =
        false
      simpa [and_assoc] using hzero

/-! ## The payload -/

/-- The payload as it is given away: a piece for each time the buffer fills up, and
the rest of it at the end. -/
def pieces (held : List UInt8) : List UInt8 → List (List UInt8)
  | [] => [held]
  | b :: bs =>
    if bs ≠ [] ∧ (held ++ [b]).length = maxSocketIoBuf then (held ++ [b]) :: pieces [] bs
    else pieces (held ++ [b]) bs

theorem decrement_succ (n : ℕ) : decrement (n + 1) = n := rfl

/-- The state after a payload byte, before the buffer is looked at. -/
def afterByte (s : RxState) (b : UInt8) : RxState :=
  { s with
    rxUserBuffer := s.rxUserBuffer ++ [b]
    frameMaskIndex := if s.allZeroNonce then s.frameMaskIndex else (s.frameMaskIndex + 1) % 256
    rxPacketLength := decrement s.rxPacketLength }

@[simp] theorem afterByte_allZeroNonce (s : RxState) (b : UInt8) :
    (afterByte s b).allZeroNonce = s.allZeroNonce := rfl

@[simp] theorem afterByte_frameMaskingNonce (s : RxState) (b : UInt8) :
    (afterByte s b).frameMaskingNonce = s.frameMaskingNonce := rfl

@[simp] theorem afterByte_opcode (s : RxState) (b : UInt8) : (afterByte s b).opcode = s.opcode := rfl

@[simp] theorem afterByte_parseState (s : RxState) (b : UInt8) :
    (afterByte s b).parseState = s.parseState := rfl

@[simp] theorem afterByte_rxUserBuffer (s : RxState) (b : UInt8) :
    (afterByte s b).rxUserBuffer = s.rxUserBuffer ++ [b] := rfl

theorem rxSm_payload {s : RxState} {p : WriteProtocol} {left : ℕ} (h : InPayload s p (left + 1))
    (c : UInt8) :
    rxSm s c =
      if left = 0 then spill { afterByte s (unmask s c) with parseState := .new }
      else if (s.rxUserBuffer ++ [unmask s c]).length ≠ maxSocketIoBuf then
        .more (afterByte s (unmask s c)) none
      else spill (afterByte s (unmask s c)) := by
  have hdec : decrement s.rxPacketLength = left := by
    rw [h.rxPacketLength, decrement_succ]
  unfold rxSm afterByte
  rw [h.parseState]
  simp only [hdec]

theorem Unmasks.afterByte {s : RxState} {i : ℕ} {mask : List UInt8} (h : Unmasks s i mask) (b : UInt8) :
    Unmasks (afterByte s b) (i + 1) mask := by
  cases h with
  | plain hzero hmask => exact .plain (by rw [afterByte_allZeroNonce, hzero]) hmask
  | key hzero hnonce hindex =>
    refine .key (by rw [afterByte_allZeroNonce, hzero]) (by rw [afterByte_frameMaskingNonce, hnonce]) ?_
    unfold WebServer.afterByte
    dsimp only
    rw [if_neg (by simp [hzero])]
    omega

theorem Unmasks.emptied {s : RxState} {i : ℕ} {mask : List UInt8} (h : Unmasks s i mask) :
    Unmasks { s with rxUserBuffer := [] } i mask := by
  cases h with
  | plain hzero hmask => exact .plain hzero hmask
  | key hzero hnonce hindex => exact .key hzero hnonce hindex

theorem InPayload.afterByte {s : RxState} {p : WriteProtocol} {left : ℕ} (h : InPayload s p (left + 1))
    (b : UInt8) : InPayload (afterByte s b) p left := by
  refine ⟨by rw [afterByte_parseState, h.parseState], by rw [afterByte_opcode, h.opcode], ?_,
    by rw [afterByte_frameMaskingNonce, h.nonceLength]⟩
  unfold WebServer.afterByte
  dsimp only
  rw [h.rxPacketLength, decrement_succ]

theorem rxBytes_cons_of_spill {s s' : RxState} {p : WriteProtocol} {c : UInt8} (cs : List UInt8)
    (hop : s'.opcode = p.opcode) (h : rxSm s c = spill s') :
    rxBytes s (c :: cs) =
      (p.given s'.rxUserBuffer ++ (rxBytes { s' with rxUserBuffer := [] } cs).1,
        (rxBytes { s' with rxUserBuffer := [] } cs).2) := by
  obtain ⟨out, hspill, hout⟩ := spill_given p hop
  rw [rxBytes, h, hspill, ← hout]

theorem rxBytes_last {s s' : RxState} {p : WriteProtocol} {c : UInt8} (h : rxSm s c = spill s')
    (hop : s'.opcode = p.opcode) :
    rxBytes s [c] = (p.given s'.rxUserBuffer, some { s' with rxUserBuffer := [] }) := by
  rw [rxBytes_cons_of_spill [] hop h, rxBytes, List.append_nil]

/-- Each byte joins the buffer, which is given away when it is full and at the end. -/
theorem rxBytes_payload {s : RxState} {p : WriteProtocol} {mask : List UInt8} {i : ℕ} (b : UInt8)
    (bs : List UInt8) (h : InPayload s p (bs.length + 1)) (hmask : Unmasks s i mask) :
    ∃ s', rxBytes s (maskFrom mask i (b :: bs)) =
      ((pieces s.rxUserBuffer (b :: bs)).flatMap p.given, some s') ∧ Between s' := by
  induction bs generalizing s i b with
  | nil =>
    have hstep := rxSm_payload h (b ^^^ mask.getD (i % 4) 0)
    rw [unmask_maskFrom hmask, if_pos List.length_nil] at hstep
    refine ⟨{ afterByte s b with parseState := .new, rxUserBuffer := [] }, ?_, rfl, rfl, h.nonceLength⟩
    rw [maskFrom, maskFrom, rxBytes_last (p := p) hstep h.opcode]
    simp [pieces]
  | cons c cs ih =>
    have hstep := rxSm_payload h (b ^^^ mask.getD (i % 4) 0)
    rw [unmask_maskFrom hmask, if_neg (by simp)] at hstep
    have hnext := h.afterByte b
    rw [maskFrom, pieces]
    by_cases hfull : (s.rxUserBuffer ++ [b]).length = maxSocketIoBuf
    · rw [if_neg (not_not.2 hfull)] at hstep
      rw [if_pos ⟨by simp, hfull⟩]
      obtain ⟨s', hrun, hb⟩ := ih c (s := { afterByte s b with rxUserBuffer := [] }) (i := i + 1)
        ⟨hnext.parseState, hnext.opcode, hnext.rxPacketLength, hnext.nonceLength⟩
        (hmask.afterByte b).emptied
      refine ⟨s', ?_, hb⟩
      rw [rxBytes_cons_of_spill (p := p) _ hnext.opcode hstep, hrun, List.flatMap_cons]
      rfl
    · rw [if_pos hfull] at hstep
      rw [if_neg (fun hand => hfull hand.2), rxBytes_cons_of_silent _ hstep]
      exact ih c hnext (hmask.afterByte b)

/-! ## Whole frames -/

/-- What is done for a frame. -/
def Frame.actions (f : Frame) : List RxAction := (pieces [] f.payload).flatMap f.protocol.given

/-- The header of a frame without key or payload ends it. -/
theorem rxBytes_bare {s : RxState} (hb : Between s) (p : WriteProtocol) (fin : Bool) :
    ∃ s', rxBytes s (frameHeader p.opcode fin false 0) = (p.given [], some s') ∧ Between s' := by
  have hstep : rxSm (afterFirst s p) (.ofNat 0 ||| maskBit false) =
      spill { extended s p false .new 0 with parseState := .new } := rfl
  refine ⟨{ extended s p false .new 0 with rxUserBuffer := [] }, ?_, rfl, rfl, hb.nonceLength⟩
  rw [frameHeader, if_pos (by omega), rxBytes_cons_of_silent _ (rxSm_first hb p fin),
    rxBytes_last (p := p) hstep rfl]
  have hbuffer : (extended s p false .new 0).rxUserBuffer = [] := hb.rxUserBuffer
  dsimp only
  rw [hbuffer]
  rfl

theorem rxBytes_frame {s : RxState} (hb : Between s) (f : Frame) :
    ∃ s', rxBytes s f.bytes = (f.actions, some s') ∧ Between s' := by
  obtain ⟨p, fin, nonce, payload, hlen, hctl⟩ := f
  unfold Frame.bytes Frame.actions
  dsimp only
  cases nonce with
  | none =>
    cases payload with
    | nil =>
      obtain ⟨s', hrun, hb'⟩ := rxBytes_bare hb p fin
      refine ⟨s', ?_, hb'⟩
      rw [List.append_nil, List.length_nil, hrun, pieces, List.flatMap_singleton]
    | cons b bs =>
      obtain ⟨s₁, hhead, hread⟩ :=
        rxBytes_header hb p fin false _ hlen hctl (.inr (by simp)) (b :: bs)
      have hplain : Unmasks s₁ 0 [] := .plain hread.allZeroNonce (by simp)
      obtain ⟨s', hrun, hb'⟩ := rxBytes_payload b bs
        ⟨hread.parseState, hread.opcode, hread.rxPacketLength, hread.nonceLength⟩ hplain
      rw [maskFrom_nil, hread.rxUserBuffer] at hrun
      exact ⟨s', hhead.trans hrun, hb'⟩
  | some key =>
    obtain ⟨k₀, k₁, k₂, k₃⟩ := key
    dsimp only
    obtain ⟨s₁, hhead, hread⟩ := rxBytes_header hb p fin true _ hlen hctl (.inl rfl)
      ([k₀, k₁, k₂, k₃] ++ maskFrom [k₀, k₁, k₂, k₃] 0 payload)
    rw [hhead]
    cases payload with
    | nil =>
      obtain ⟨s₂, hkey, rfl⟩ := rxBytes_key hread k₀ k₁ k₂ k₃ []
      have hlast := rxSm_lastKey s₁ (((s₁.frameMaskingNonce.set 0 k₀).set 1 k₁).set 2 k₂)
        (true && k₀ = 0 && k₁ = 0 && k₂ = 0) k₃
      have hzero : s₁.rxPacketLength = 0 := hread.rxPacketLength
      rw [if_pos hzero] at hlast
      have hend := hkey.trans (rxBytes_last (p := p) hlast hread.opcode)
      have hbuffer : ∀ nonce zero, (afterKey s₁ nonce zero k₃ .new).rxUserBuffer = [] :=
        fun _ _ => hread.rxUserBuffer
      rw [hbuffer] at hend
      refine ⟨_, hend.trans (by rw [pieces, List.flatMap_singleton]), rfl, rfl, ?_⟩
      change ((((s₁.frameMaskingNonce.set 0 k₀).set 1 k₁).set 2 k₂).set 3 k₃).length = 4
      rw [set_four s₁.frameMaskingNonce hread.nonceLength]
      rfl
    | cons b bs =>
      obtain ⟨s₂, hkey, hin, hbuffer, hmask⟩ := rxBytes_wholeKey hread (by simp) k₀ k₁ k₂ k₃
        (maskFrom [k₀, k₁, k₂, k₃] 0 (b :: bs))
      obtain ⟨s', hrun, hb'⟩ := rxBytes_payload b bs hin hmask
      rw [hbuffer] at hrun
      exact ⟨s', hkey.trans hrun, hb'⟩

theorem rxBytes_flatMap_frames {s : RxState} (hb : Between s) (fs : List Frame) :
    ∃ s', rxBytes s (fs.flatMap Frame.bytes) = (fs.flatMap Frame.actions, some s') ∧ Between s' := by
  induction fs generalizing s with
  | nil => exact ⟨s, rfl, hb⟩
  | cons f fs ih =>
    obtain ⟨s₁, hf, hb₁⟩ := rxBytes_frame hb f
    obtain ⟨s', hfs, hb'⟩ := ih hb₁
    refine ⟨s', ?_, hb'⟩
    rw [List.flatMap_cons, List.flatMap_cons, rxBytes_append, hf]
    dsimp only
    rw [hfs]

theorem between_initial : Between {} := ⟨rfl, rfl, rfl⟩

/-- Frames are read back one by one, whatever the keys: a stream of them leaves nothing
behind and does what each of them asks for, in order. -/
theorem rxBytes_frames (fs : List Frame) :
    ∃ s', rxBytes {} (fs.flatMap Frame.bytes) = (fs.flatMap Frame.actions, some s') ∧ Between s' :=
  rxBytes_flatMap_frames between_initial fs

/-! ## The receive buffer -/

/-- The buffer has room for a byte, and is empty outside of a payload. -/
structure Bounded (s : RxState) : Prop where
  lt : s.rxUserBuffer.length < maxSocketIoBuf
  empty : s.parseState ≠ .payloadUntilLengthExhausted → s.rxUserBuffer = []

/-- What is given away fits in the buffer, and no empty message is received. -/
def RxAction.Fits : RxAction → Prop
  | .receive payload => payload ≠ [] ∧ payload.length ≤ maxSocketIoBuf
  | .pong payload => payload.length ≤ maxSocketIoBuf
  | .closeReply payload => payload.length ≤ maxSocketIoBuf

def RxResult.Good : RxResult → Prop
  | .more s out => Bounded s ∧ ∀ a ∈ out, a.Fits
  | .closed out => ∀ a ∈ out, a.Fits

theorem Bounded.of_nil {s : RxState} (h : s.rxUserBuffer = []) : Bounded s where
  lt := by
    rw [h]
    decide
  empty _ := h

theorem more_good {s : RxState} (h : s.rxUserBuffer = []) : (RxResult.more s none).Good :=
  ⟨.of_nil h, by simp⟩

theorem spill_good {s : RxState} (h : s.rxUserBuffer.length ≤ maxSocketIoBuf) : (spill s).Good := by
  have hempty : Bounded { s with rxUserBuffer := [] } := .of_nil rfl
  unfold spill
  split
  · intro a ha
    split at ha
    · simp at ha
    · obtain rfl := Option.mem_some.1 ha
      exact h
  · split
    · refine ⟨hempty, fun a ha => ?_⟩
      obtain rfl := Option.mem_some.1 ha
      exact h
    · split
      · exact ⟨hempty, by simp⟩
      · split
        · refine ⟨hempty, fun a ha => ?_⟩
          split at ha
          · rename_i hne
            obtain rfl := Option.mem_some.1 ha
            exact ⟨hne, h⟩
          · simp at ha
        · exact ⟨hempty, by simp⟩

theorem rxSm_good {s : RxState} (c : UInt8) (h : Bounded s) : (rxSm s c).Good := by
  have hlt := h.lt
  unfold rxSm
  split
  · rename_i hstate
    exact more_good (h.empty (by simp [hstate]))
  · rename_i hstate
    have hnil := h.empty (by simp [hstate])
    dsimp only
    split
    · split
      · exact fun a ha => by simp at ha
      · exact more_good hnil
    · split
      · split
        · exact fun a ha => by simp at ha
        · exact more_good hnil
      · split
        · exact more_good hnil
        · split
          · exact more_good hnil
          · exact spill_good hlt.le
  · rename_i hstate
    have hnil := h.empty (by simp [hstate])
    split
    · exact more_good hnil
    · exact more_good hnil
  · rename_i hstate
    have hnil := h.empty (by simp [hstate])
    split
    · exact fun a ha => by simp at ha
    · dsimp only
      split
      · exact more_good hnil
      · exact more_good hnil
  · rename_i hstate
    have hnil := h.empty (by simp [hstate])
    dsimp only
    split
    · exact more_good hnil
    · split
      · exact spill_good hlt.le
      · exact more_good hnil
  · have hle : (s.rxUserBuffer ++ [unmask s c]).length ≤ maxSocketIoBuf := by
      rw [List.length_append, List.length_singleton]
      exact hlt
    dsimp only
    split
    · exact spill_good hle
    · split
      · rename_i hne
        exact ⟨⟨lt_of_le_of_ne hle hne, fun hstate' => absurd ‹_› hstate'⟩, by simp⟩
      · exact spill_good hle

/-- Whatever is sent, the buffer is never written past its end. -/
theorem rxBytes_bounded {s : RxState} (bytes : List UInt8) (h : Bounded s) :
    (∀ s' ∈ (rxBytes s bytes).2, Bounded s') ∧ ∀ a ∈ (rxBytes s bytes).1, a.Fits := by
  induction bytes generalizing s with
  | nil =>
    refine ⟨fun s' hs' => ?_, by simp [rxBytes]⟩
    obtain rfl := Option.mem_some.1 hs'
    exact h
  | cons c cs ih =>
    have hgood := rxSm_good c h
    rw [rxBytes]
    cases hstep : rxSm s c with
    | closed out =>
      rw [hstep] at hgood
      exact ⟨by simp, fun a ha => hgood a (Option.mem_toList.1 ha)⟩
    | more s' out =>
      rw [hstep] at hgood
      obtain ⟨hrest, hacts⟩ := ih hgood.1
      refine ⟨hrest, fun a ha => ?_⟩
      rcases List.mem_append.1 ha with ha | ha
      · exact hgood.2 a (Option.mem_toList.1 ha)
      · exact hacts a ha

/-- On every connection, whatever bytes come in. -/
theorem rxBytes_fits (bytes : List UInt8) :
    (∀ s' ∈ (rxBytes {} bytes).2, s'.rxUserBuffer.length < maxSocketIoBuf) ∧
      ∀ a ∈ (rxBytes {} bytes).1, a.Fits := by
  obtain ⟨hstate, hacts⟩ := rxBytes_bounded (s := {}) bytes (.of_nil rfl)
  exact ⟨fun s' hs' => (hstate s' hs').lt, hacts⟩

end IrPitCrew.WebServer
