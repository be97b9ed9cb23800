import IrPitCrew.Client.PitCrew
import IrPitCrew.Lib.Run
import Mathlib.Logic.Function.Basic

/-!
# The heartbeat between the page and the server

Every two seconds the page sends a heartbeat, or opens another socket when the
last one was not answered. The server writes each heartbeat back to the socket
that it came from.
-/

open IrPitCrew.Text IrPitCrew.Run IrPitCrew.WebServer IrPitCrew.Client

namespace IrPitCrew.Heartbeat

/-! ## The system -/

/-- `readyState` of a web socket. -/
inductive ReadyState
  | connecting | connected | closing | closed
  deriving DecidableEq

/-- A socket of the page, whether the server has accepted it, and the frames on their way. -/
structure Socket where
  readyState : ReadyState := .connecting
  isEstablished : Bool := false
  toServer : List Str := []
  toClient : List Str := []
  deriving DecidableEq

/-- `websocket` is the socket numbered `current`. The page has made those before it as well. -/
structure System where
  isHeartbeatSet : Bool := false
  current : Nat := 0
  sockets : Nat → Socket := fun _ => {}
  server : WebServerLWS := {}

inductive Event where
  /-- The interval of the page. -/
  | heartbeatSend
  | sendPitSettings (p : PitSettings)
  /-- `LWS_CALLBACK_ESTABLISHED`. -/
  | established (i : Nat)
  | onWebSocketOpen (i : Nat)
  /-- The server receives the next frame of a socket. -/
  | receive (i : Nat)
  | serverWriteable (i : Nat)
  /-- The page receives the next frame of a socket. -/
  | onWebSocketMessage (i : Nat)
  | onWebSocketClose (i : Nat)
  /-- The main loop and the thread of the server change its state. -/
  | serverState (server : WebServerLWS)

namespace Socket

/-- Frames are sent only by an open socket. Before it opens `send` throws, later it does nothing. -/
def send (k : Socket) (frame : Str) : Socket :=
  if k.readyState = .connected then { k with toServer := k.toServer ++ [frame] } else k

def close (k : Socket) : Socket :=
  if k.readyState = .closed then k else { k with readyState := .closing }

def isLeft (k : Socket) : Bool := k.readyState = .closing ∨ k.readyState = .closed

/-- The heartbeats on their way, and the answers. -/
def heartbeats (k : Socket) : Nat := k.toServer.count heartbeat + k.toClient.count heartbeat

end Socket

namespace System

def updateSocket (s : System) (i : Nat) (k : Socket) : System :=
  { s with sockets := Function.update s.sockets i k }

def websocket (s : System) : Socket := s.sockets s.current

def sendFrame (s : System) (frame : Str) : System :=
  s.updateSocket s.current (s.websocket.send frame)

def heartbeatSend (s : System) : System :=
  if s.isHeartbeatSet = false then { s with isHeartbeatSet := true }.sendFrame heartbeat
  else
    let s := s.updateSocket s.current s.websocket.close
    { s with current := s.current + 1 }

/-- The callback of the server, and what it writes to the socket. -/
def callback (s : System) (i : Nat) (k : Socket) (reason : CallbackReason) : System :=
  let (server, output) := callbackIracingData s.server reason
  { s with server }.updateSocket i { k with toClient := k.toClient ++ output.toList }

end System

/-- The callback and the events of a socket need that it was made, accepted, or opened. -/
def step (s : System) : Event → System
  | .heartbeatSend => s.heartbeatSend
  | .sendPitSettings p => s.sendFrame p.message
  | .established i =>
    let k := s.sockets i
    if i ≤ s.current ∧ k.isEstablished = false ∧ k.readyState ≠ .closed then
      s.callback i { k with isEstablished := true } .established
    else s
  | .onWebSocketOpen i =>
    let k := s.sockets i
    if k.isEstablished ∧ k.readyState = .connecting then
      { s with isHeartbeatSet := false }.updateSocket i { k with readyState := .connected }
    else s
  | .receive i =>
    let k := s.sockets i
    match k.toServer with
    | [] => s
    | frame :: rest =>
      if k.isEstablished then s.callback i { k with toServer := rest } (.receive frame) else s
  | .serverWriteable i =>
    let k := s.sockets i
    if k.isEstablished then s.callback i k .serverWriteable else s
  | .onWebSocketMessage i =>
    let k := s.sockets i
    match k.toClient with
    | [] => s
    | frame :: rest =>
      let s := s.updateSocket i { k with toClient := rest }
      if k.readyState = .connected ∧ frame = heartbeat then { s with isHeartbeatSet := false } else s
  | .onWebSocketClose i => if i ≤ s.current then s.updateSocket i { readyState := .closed } else s
  | .serverState server => { s with server }

/-! ## What is on its way -/

theorem newline_mem_serverWriteable (w : WebServerLWS) : '\n' ∈ w.serverWriteable.1 := by
  unfold WebServerLWS.serverWriteable
  dsimp only
  rw [stripUnicode_append, stripUnicode_append, stripUnicode_newline]
  simp

/-- A frame that is no heartbeat starts with a newline. -/
def IsFrame (frame : Str) : Prop := frame = heartbeat ∨ frame.head? = some '\n'

theorem ne_heartbeat {frame : Str} (h : frame.head? = some '\n') : frame ≠ heartbeat := by
  rintro rfl
  exact absurd h (by decide)

/-- The server answers a heartbeat, and nothing else, with a heartbeat. -/
theorem count_output_receive (w : WebServerLWS) (frame : Str) (h : IsFrame frame) :
    (callbackIracingData w (.receive frame)).2.toList.count heartbeat = [frame].count heartbeat := by
  rcases h with rfl | hnewline
  · rfl
  · obtain ⟨rest, rfl⟩ : ∃ rest, frame = '\n' :: rest := by
      cases frame with
      | nil => simp at hnewline
      | cons c rest => exact ⟨rest, by simpa using hnewline⟩
    have hframe : '\n' :: rest ≠ heartbeat := ne_heartbeat rfl
    have hinput : ('\n' :: rest).takeWhile (· ≠ '\x00') ≠ heartbeat := ne_heartbeat rfl
    simp only [callbackIracingData, reduceCtorEq, if_false, hinput]
    simp [hframe]

theorem count_output_serverWriteable (w : WebServerLWS) :
    (callbackIracingData w .serverWriteable).2.toList.count heartbeat = 0 := by
  have hne : w.serverWriteable.1 ≠ heartbeat := by
    intro h
    have hmem := newline_mem_serverWriteable w
    rw [h] at hmem
    exact absurd hmem (by decide)
  simp [callbackIracingData, hne]

/-! ## The invariant -/

/-- The sockets before the one in use are left. On the one in use at most one heartbeat or answer is
on its way, and only while one is waited for. -/
structure ConnectionOk (s : System) : Prop where
  older : ∀ i, i < s.current → (s.sockets i).isLeft = true
  later : ∀ i, s.current < i → s.sockets i = {}
  frames : ∀ i, ∀ frame ∈ (s.sockets i).toServer, IsFrame frame
  connecting : s.websocket.readyState = .connecting → s.websocket.heartbeats = 0
  heartbeats : s.websocket.heartbeats ≤ if s.isHeartbeatSet then 1 else 0

/-- What a socket may do without the page waiting for another answer. -/
structure Quiet (k k' : Socket) : Prop where
  left : k.isLeft = true → k'.isLeft = true
  frames : ∀ frame ∈ k'.toServer, frame ∈ k.toServer ∨ IsFrame frame
  connecting : k'.readyState = .connecting → k.readyState = .connecting
  heartbeats : k'.heartbeats ≤ k.heartbeats

namespace ConnectionOk

theorem le_current {s : System} (hs : ConnectionOk s) {i : Nat} (h : s.sockets i ≠ {}) :
    i ≤ s.current := by
  by_contra hi
  exact h (hs.later i (by omega))

/-- A socket that is not left is the one in use. -/
theorem eq_current {s : System} (hs : ConnectionOk s) {i : Nat} (h : s.sockets i ≠ {})
    (hleft : (s.sockets i).isLeft = false) : i = s.current := by
  have hle := hs.le_current h
  by_contra hne
  have holder := hs.older i (by omega)
  rw [hleft] at holder
  contradiction

theorem updateSocket {s : System} (hs : ConnectionOk s) {i : Nat} {k : Socket} (hi : i ≤ s.current)
    (hk : Quiet (s.sockets i) k) (server : WebServerLWS) :
    ConnectionOk ({ s with server }.updateSocket i k) := by
  have hcurrent : ∀ P : Socket → Prop, (P (s.sockets s.current) → i = s.current → P k) →
      P s.websocket → P (({ s with server }.updateSocket i k).websocket) := by
    intro P hP hold
    by_cases heq : s.current = i
    · subst heq
      simpa [System.websocket, System.updateSocket] using hP hold rfl
    · simpa [System.websocket, System.updateSocket, Function.update_of_ne heq] using hold
  constructor
  · intro j hj
    by_cases heq : j = i
    · subst heq
      simpa [System.updateSocket] using hk.left (hs.older j hj)
    · simpa [System.updateSocket, Function.update_of_ne heq] using hs.older j hj
  · intro j hj
    have hlt : s.current < j := hj
    have heq : j ≠ i := by omega
    simpa [System.updateSocket, Function.update_of_ne heq] using hs.later j hlt
  · intro j frame hframe
    by_cases heq : j = i
    · subst heq
      simp only [System.updateSocket, Function.update_self] at hframe
      rcases hk.frames frame hframe with hold | hnew
      · exact hs.frames j frame hold
      · exact hnew
    · simp only [System.updateSocket, Function.update_of_ne heq] at hframe
      exact hs.frames j frame hframe
  · refine hcurrent (fun k => k.readyState = .connecting → k.heartbeats = 0) ?_ hs.connecting
    rintro hold rfl hconnecting
    have hle := hk.heartbeats
    have hzero := hold (hk.connecting hconnecting)
    omega
  · refine hcurrent (fun k => k.heartbeats ≤ if s.isHeartbeatSet then 1 else 0) ?_ hs.heartbeats
    rintro hold rfl
    exact hk.heartbeats.trans hold

end ConnectionOk

/-! ## What each socket does -/

theorem quiet_send (k : Socket) {frame : Str} (h : frame.head? = some '\n') : Quiet k (k.send frame) := by
  unfold Socket.send
  split
  · refine ⟨id, ?_, id, ?_⟩
    · intro other hother
      rcases List.mem_append.mp hother with hold | hnew
      · exact .inl hold
      · rw [List.mem_singleton.mp hnew]
        exact .inr (.inr h)
    · simp [Socket.heartbeats, ne_heartbeat h]
  · exact ⟨id, fun _ => .inl, id, le_rfl⟩

/-- The server writes what is no heartbeat. -/
theorem quiet_write (k : Socket) (isEstablished : Bool) (output : List Str)
    (h : output.count heartbeat = 0) :
    Quiet k { k with isEstablished, toClient := k.toClient ++ output } := by
  refine ⟨id, fun _ => .inl, id, ?_⟩
  simp [Socket.heartbeats, h]

theorem count_heartbeat_cons (frame : Str) (rest : List Str) :
    (frame :: rest).count heartbeat = [frame].count heartbeat + rest.count heartbeat := by
  rw [← List.count_append, List.singleton_append]

/-- A heartbeat becomes its answer. -/
theorem quiet_receive {k : Socket} {frame : Str} {rest : List Str} (w : WebServerLWS)
    (hframe : IsFrame frame) (h : k.toServer = frame :: rest) :
    Quiet k { k with
      toServer := rest
      toClient := k.toClient ++ (callbackIracingData w (.receive frame)).2.toList } := by
  refine ⟨id, ?_, id, ?_⟩
  · intro other hother
    rw [h]
    exact .inl (List.mem_cons_of_mem _ hother)
  · have houtput := count_output_receive w frame hframe
    unfold Socket.heartbeats
    dsimp only
    rw [List.count_append, houtput, h, count_heartbeat_cons frame rest]
    omega

theorem heartbeats_cons {k : Socket} {frame : Str} {rest : List Str} (h : k.toClient = frame :: rest) :
    k.heartbeats = { k with toClient := rest }.heartbeats + [frame].count heartbeat := by
  unfold Socket.heartbeats
  dsimp only
  rw [h, count_heartbeat_cons frame rest]
  omega

theorem quiet_pop {k : Socket} {frame : Str} {rest : List Str} (h : k.toClient = frame :: rest) :
    Quiet k { k with toClient := rest } := by
  refine ⟨id, fun _ => .inl, id, ?_⟩
  rw [heartbeats_cons h]
  omega

theorem quiet_closed (k : Socket) : Quiet k { readyState := .closed } := by
  refine ⟨fun _ => rfl, ?_, ?_, ?_⟩
  · intro frame hframe
    simp at hframe
  · intro h
    contradiction
  · simp [Socket.heartbeats]

/-! ## One event -/

namespace ConnectionOk

theorem sendFrame {s : System} (hs : ConnectionOk s) {frame : Str} (h : frame.head? = some '\n') :
    ConnectionOk (s.sendFrame frame) :=
  hs.updateSocket le_rfl (quiet_send s.websocket h) s.server

theorem heartbeatSend_answered {s : System} (hs : ConnectionOk s) (h : s.isHeartbeatSet = false) :
    ConnectionOk s.heartbeatSend := by
  have hnone : s.websocket.heartbeats = 0 := by
    have hle := hs.heartbeats
    simpa [h] using hle
  have hsend : s.heartbeatSend =
      { s with isHeartbeatSet := true }.updateSocket s.current (s.websocket.send heartbeat) := by
    rw [System.heartbeatSend, if_pos h]
    rfl
  have hother : ∀ j, j ≠ s.current → s.heartbeatSend.sockets j = s.sockets j := by
    intro j hj
    rw [hsend]
    exact Function.update_of_ne hj _ _
  have hsocket : s.heartbeatSend.websocket = s.websocket.send heartbeat := by
    rw [hsend]
    exact Function.update_self _ _ _
  have hcurrent : s.heartbeatSend.current = s.current := by
    rw [hsend]
    rfl
  constructor
  · intro j hj
    rw [hcurrent] at hj
    rw [hother j (by omega)]
    exact hs.older j hj
  · intro j hj
    rw [hcurrent] at hj
    rw [hother j (by omega)]
    exact hs.later j hj
  · intro j frame hframe
    by_cases hj : j = s.current
    · subst hj
      rw [← hcurrent] at hframe
      change frame ∈ s.heartbeatSend.websocket.toServer at hframe
      rw [hsocket, Socket.send] at hframe
      split at hframe
      · rcases List.mem_append.mp hframe with hold | hnew
        · exact hs.frames _ frame hold
        · exact .inl (List.mem_singleton.mp hnew)
      · exact hs.frames _ frame hframe
    · rw [hother j hj] at hframe
      exact hs.frames j frame hframe
  · rw [hsocket]
    unfold Socket.send
    split
    · rename_i hconnected
      intro hconnecting
      rw [hconnected] at hconnecting
      contradiction
    · exact hs.connecting
  · have hset : s.heartbeatSend.isHeartbeatSet = true := by
      rw [hsend]
      rfl
    rw [hsocket, if_pos hset]
    unfold Socket.send
    split
    · have hone : [heartbeat].count heartbeat = 1 := rfl
      unfold Socket.heartbeats at hnone ⊢
      dsimp only
      rw [List.count_append, hone]
      omega
    · rw [hnone]
      exact Nat.zero_le _

theorem heartbeatSend_missed {s : System} (hs : ConnectionOk s) (h : s.isHeartbeatSet = true) :
    ConnectionOk s.heartbeatSend := by
  have hopen : s.heartbeatSend =
      { s.updateSocket s.current s.websocket.close with current := s.current + 1 } := by
    rw [System.heartbeatSend, if_neg (by simp [h])]
    rfl
  have hother : ∀ j, j ≠ s.current → s.heartbeatSend.sockets j = s.sockets j := by
    intro j hj
    rw [hopen]
    exact Function.update_of_ne hj _ _
  have hclosed : s.heartbeatSend.sockets s.current = s.websocket.close := by
    rw [hopen]
    exact Function.update_self _ _ _
  have hcurrent : s.heartbeatSend.current = s.current + 1 := by rw [hopen]
  have hnew : s.heartbeatSend.websocket = {} := by
    rw [System.websocket, hcurrent, hother _ (by omega)]
    exact hs.later _ (by omega)
  constructor
  · intro j hj
    rw [hcurrent] at hj
    by_cases heq : j = s.current
    · rw [heq, hclosed]
      unfold Socket.close Socket.isLeft
      split
      · rename_i hready
        simp [hready]
      · rfl
    · rw [hother j heq]
      exact hs.older j (by omega)
  · intro j hj
    rw [hcurrent] at hj
    rw [hother j (by omega)]
    exact hs.later j (by omega)
  · intro j frame hframe
    by_cases heq : j = s.current
    · rw [heq, hclosed] at hframe
      unfold Socket.close at hframe
      split at hframe
      · exact hs.frames _ frame hframe
      · exact hs.frames _ frame hframe
    · rw [hother j heq] at hframe
      exact hs.frames j frame hframe
  · intro _
    rw [hnew]
    rfl
  · rw [hnew]
    exact Nat.zero_le _

/-- The socket in use opens. Nothing was sent on it before. -/
theorem onWebSocketOpen {s : System} (hs : ConnectionOk s) (h : s.websocket.readyState = .connecting) :
    ConnectionOk ({ s with isHeartbeatSet := false }.updateSocket s.current
      { s.websocket with readyState := .connected }) := by
  have hnone := hs.connecting h
  have hquiet : Quiet s.websocket { s.websocket with readyState := .connected } := by
    refine ⟨?_, fun _ => .inl, fun _ => h, le_rfl⟩
    intro hleft
    simp [Socket.isLeft, h] at hleft
  have hupdated := hs.updateSocket le_rfl hquiet s.server
  refine ⟨hupdated.older, hupdated.later, hupdated.frames, hupdated.connecting, ?_⟩
  have hsocket : ({ s with isHeartbeatSet := false }.updateSocket s.current
      { s.websocket with readyState := .connected }).websocket =
      { s.websocket with readyState := .connected } := Function.update_self _ _ _
  rw [hsocket]
  exact hnone.le

/-- The socket in use brings the answer. It was the only one on its way. -/
theorem answered {s : System} (hs : ConnectionOk s) {rest : List Str}
    (h : s.websocket.toClient = heartbeat :: rest) :
    ConnectionOk ({ s with isHeartbeatSet := false }.updateSocket s.current
      { s.websocket with toClient := rest }) := by
  have hupdated := hs.updateSocket le_rfl (quiet_pop h) s.server
  refine ⟨hupdated.older, hupdated.later, hupdated.frames, hupdated.connecting, ?_⟩
  have hsocket : ({ s with isHeartbeatSet := false }.updateSocket s.current
      { s.websocket with toClient := rest }).websocket = { s.websocket with toClient := rest } :=
    Function.update_self _ _ _
  have hone : [heartbeat].count heartbeat = 1 := rfl
  have hcount := heartbeats_cons h
  have hle := hs.heartbeats
  rw [hcount, hone] at hle
  rw [hsocket]
  split at hle
  · exact Nat.le_of_succ_le_succ hle
  · omega

end ConnectionOk

theorem ne_default_of_isEstablished {s : System} {i : Nat} (h : (s.sockets i).isEstablished = true) :
    s.sockets i ≠ {} := by
  intro heq
  simp [heq] at h

theorem connectionOk_step (s : System) (e : Event) (hs : ConnectionOk s) : ConnectionOk (step s e) := by
  cases e with
  | heartbeatSend =>
    cases hflag : s.isHeartbeatSet with
    | false => exact hs.heartbeatSend_answered hflag
    | true => exact hs.heartbeatSend_missed hflag
  | sendPitSettings p => exact hs.sendFrame rfl
  | established i =>
    simp only [step]
    split
    · rename_i h
      exact hs.updateSocket h.1 (quiet_write _ true _ rfl) _
    · exact hs
  | onWebSocketOpen i =>
    simp only [step]
    split
    · rename_i h
      obtain rfl := hs.eq_current (ne_default_of_isEstablished h.1) (by simp [Socket.isLeft, h.2])
      exact hs.onWebSocketOpen h.2
    · exact hs
  | receive i =>
    simp only [step]
    split
    · exact hs
    · rename_i frame rest hframes
      split
      · rename_i h
        have hle := hs.le_current (ne_default_of_isEstablished h)
        have hframe : IsFrame frame := hs.frames i frame (by simp [hframes])
        exact hs.updateSocket hle (quiet_receive s.server hframe hframes) _
      · exact hs
  | serverWriteable i =>
    simp only [step]
    split
    · rename_i h
      have hle := hs.le_current (ne_default_of_isEstablished h)
      exact hs.updateSocket hle
        (quiet_write _ (s.sockets i).isEstablished _ (count_output_serverWriteable s.server)) _
    · exact hs
  | onWebSocketMessage i =>
    simp only [step]
    split
    · exact hs
    · rename_i frame rest hframes
      have hne : s.sockets i ≠ {} := by
        intro heq
        simp [heq] at hframes
      split
      · rename_i h
        obtain ⟨hconnected, rfl⟩ := h
        obtain rfl := hs.eq_current hne (by simp [Socket.isLeft, hconnected])
        exact hs.answered hframes
      · exact hs.updateSocket (hs.le_current hne) (quiet_pop hframes) s.server
  | onWebSocketClose i =>
    simp only [step]
    split
    · rename_i h
      exact hs.updateSocket h (quiet_closed _) s.server
    · exact hs
  | serverState server => exact ⟨hs.older, hs.later, hs.frames, hs.connecting, hs.heartbeats⟩

theorem connectionOk_init : ConnectionOk {} := by
  refine ⟨?_, fun _ _ => rfl, ?_, fun _ => rfl, le_rfl⟩
  · intro i hi
    exact absurd hi (Nat.not_lt_zero i)
  · intro i frame hframe
    simp at hframe

/-- **One connection.** In every run only the socket in use is open, and at most one heartbeat or
answer is on its way on it, none when the page does not wait. -/
theorem one_connection (es : List Event) :
    (∀ i, ((run step {} es).sockets i).readyState = .connected → i = (run step {} es).current) ∧
      (run step {} es).websocket.heartbeats ≤ if (run step {} es).isHeartbeatSet then 1 else 0 := by
  have hok : ConnectionOk (run step {} es) := run_invariant_of_step connectionOk_step es connectionOk_init
  refine ⟨?_, hok.heartbeats⟩
  intro i hi
  refine hok.eq_current ?_ (by simp [Socket.isLeft, hi])
  intro heq
  simp [heq] at hi

/-! ## When the page connects again -/

def IsTick (_ : System) : Event → Prop
  | .heartbeatSend => True
  | _ => False

/-- The socket in use opens, or brings an answer. -/
def Answered (s : System) : Event → Prop
  | .onWebSocketOpen i =>
    i = s.current ∧ s.websocket.isEstablished = true ∧ s.websocket.readyState = .connecting
  | .onWebSocketMessage i =>
    i = s.current ∧ s.websocket.readyState = .connected ∧ s.websocket.toClient.head? = some heartbeat
  | _ => False

theorem isHeartbeatSet_heartbeatSend (s : System) : s.heartbeatSend.isHeartbeatSet = true := by
  unfold System.heartbeatSend
  split
  · rfl
  · rename_i h
    simpa [System.updateSocket] using h

theorem isHeartbeatSet_of_answered (s : System) (e : Event) (h : Answered s e) :
    (step s e).isHeartbeatSet = false := by
  cases e with
  | onWebSocketOpen i =>
    obtain ⟨rfl, hestablished, hconnecting⟩ := h
    simp only [step]
    rw [if_pos ⟨hestablished, hconnecting⟩]
    rfl
  | onWebSocketMessage i =>
    obtain ⟨rfl, hconnected, hhead⟩ := h
    obtain ⟨rest, hframes⟩ := List.head?_eq_some_iff.mp hhead
    unfold System.websocket at hconnected hframes
    simp only [step]
    rw [hframes]
    dsimp only
    rw [if_pos ⟨hconnected, rfl⟩]
  | _ => exact h.elim

theorem isHeartbeatSet_of_not_answered {s : System} (hs : ConnectionOk s) (e : Event)
    (htick : ¬ IsTick s e) (h : ¬ Answered s e) : (step s e).isHeartbeatSet = s.isHeartbeatSet := by
  cases e with
  | heartbeatSend => exact absurd trivial htick
  | onWebSocketOpen i =>
    simp only [step]
    split
    · rename_i hopen
      -- Only the socket in use can still open.
      obtain rfl := hs.eq_current (ne_default_of_isEstablished hopen.1) (by simp [Socket.isLeft, hopen.2])
      exact absurd ⟨rfl, hopen⟩ h
    · rfl
  | onWebSocketMessage i =>
    simp only [step]
    split
    · rfl
    · rename_i frame rest hframes
      split
      · rename_i hanswer
        obtain ⟨hconnected, rfl⟩ := hanswer
        have hne : s.sockets i ≠ {} := by
          intro heq
          simp [heq] at hframes
        obtain rfl := hs.eq_current hne (by simp [Socket.isLeft, hconnected])
        exact absurd ⟨rfl, hconnected, congrArg List.head? hframes⟩ h
      · rfl
  | receive i =>
    simp only [step]
    split
    · rfl
    · split <;> rfl
  | established i | serverWriteable i | onWebSocketClose i =>
    simp only [step]
    split <;> rfl
  | sendPitSettings p => rfl
  | serverState server => rfl

theorem isHeartbeatSet_iff (es : List Event) :
    (run step {} es).isHeartbeatSet = true ↔ Since step IsTick Answered {} es := by
  refine run_iff_since (P := fun s : System => s.isHeartbeatSet = true) connectionOk_step ?_ ?_ ?_ es
    connectionOk_init (by decide)
  · intro s e _ htick
    cases e with
    | heartbeatSend => exact isHeartbeatSet_heartbeatSend s
    | _ => exact htick.elim
  · intro s e _ hanswered
    rw [isHeartbeatSet_of_answered s e hanswered]
    decide
  · intro s e hs htick hanswered
    rw [isHeartbeatSet_of_not_answered hs e htick hanswered]

/-- **Reconnects.** The page opens another socket at exactly those ticks before which the socket in use
neither opened nor brought an answer since the last one. -/
theorem reconnects_iff (es : List Event) :
    (step (run step {} es) .heartbeatSend).current = (run step {} es).current + 1 ↔
      Since step IsTick Answered {} es := by
  rw [← isHeartbeatSet_iff]
  simp only [step, System.heartbeatSend]
  split
  · rename_i h
    simp [h, System.sendFrame, System.updateSocket]
  · rename_i h
    simp [h, System.updateSocket]

/-- Data that comes in time is no answer. -/
example : (run step {} [.established 0, .onWebSocketOpen 0, .heartbeatSend, .serverWriteable 0,
    .onWebSocketMessage 0, .heartbeatSend]).current = 1 := by decide

end IrPitCrew.Heartbeat
