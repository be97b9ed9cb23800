import IrPitCrew.Server.Frames

/-!
# From the wire to the mailbox

The payload of a data frame that fits in the receive buffer reaches the callback in
one piece. All but heartbeats are stored as the message for the main loop, so the
last of them is the one that waits there.
-/

open IrPitCrew.Text

namespace IrPitCrew.WebServer

/-! ## Pieces -/

theorem pieces_of_le (held bs : List UInt8) (h : held.length + bs.length ≤ maxSocketIoBuf) :
    pieces held bs = [held ++ bs] := by
  induction bs generalizing held with
  | nil => rw [pieces, List.append_nil]
  | cons b bs ih =>
    rw [List.length_cons] at h
    have hroom : ¬ (bs ≠ [] ∧ (held ++ [b]).length = maxSocketIoBuf) := by
      rintro ⟨hne, hfull⟩
      have hpos := List.length_pos_iff.2 hne
      rw [List.length_append, List.length_singleton] at hfull
      omega
    have hheld : (held ++ [b]).length + bs.length ≤ maxSocketIoBuf := by
      rw [List.length_append, List.length_singleton]
      omega
    rw [pieces, if_neg hroom, ih (held ++ [b]) hheld, List.append_assoc, List.singleton_append]

/-! ## What the callback is given -/

def textOf (payload : List UInt8) : Str := payload.map fun b => Char.ofNat b.toNat

/-- `LWS_CALLBACK_RECEIVE` is the only action that the server's own code sees. -/
def RxAction.input : RxAction → Option Str
  | .receive payload => some (textOf payload)
  | _ => none

/-- The inputs of the callback on a new connection. -/
def inputs (bytes : List UInt8) : List Str := (rxBytes {} bytes).1.filterMap RxAction.input

/-- A frame that carries a message. -/
def Frame.IsMessage (f : Frame) : Prop := ¬ f.protocol.IsControl ∧ f.payload ≠ []

instance (p : WriteProtocol) : Decidable p.IsControl := inferInstanceAs (Decidable (_ ∨ _))

instance (f : Frame) : Decidable f.IsMessage := inferInstanceAs (Decidable (_ ∧ _))

theorem input_given (p : WriteProtocol) (held : List UInt8) :
    (p.given held).filterMap RxAction.input =
      if ¬ p.IsControl ∧ held ≠ [] then [textOf held] else [] := by
  have hdata : ∀ held : List UInt8,
      (if held ≠ [] then [RxAction.receive held] else []).filterMap RxAction.input =
        if held ≠ [] then [textOf held] else [] := by
    intro held
    split <;> rfl
  cases p with
  | text => simpa [WriteProtocol.given, WriteProtocol.IsControl] using hdata held
  | binary => simpa [WriteProtocol.given, WriteProtocol.IsControl] using hdata held
  | continuation => simpa [WriteProtocol.given, WriteProtocol.IsControl] using hdata held
  | ping => simp [WriteProtocol.given, WriteProtocol.IsControl, RxAction.input]
  | pong => simp [WriteProtocol.given, WriteProtocol.IsControl]

theorem inputs_frame (f : Frame) (h : f.payload.length ≤ maxSocketIoBuf) :
    f.actions.filterMap RxAction.input = if f.IsMessage then [textOf f.payload] else [] := by
  unfold Frame.actions Frame.IsMessage
  rw [pieces_of_le [] f.payload (by simpa using h), List.nil_append, List.flatMap_singleton, input_given]
  exact if_congr Iff.rfl rfl rfl

/-- The messages that frames carry reach the callback whole and in order. -/
theorem inputs_frames (fs : List Frame) (h : ∀ f ∈ fs, f.payload.length ≤ maxSocketIoBuf) :
    inputs (fs.flatMap Frame.bytes) =
      (fs.filter fun f => decide f.IsMessage).map fun f => textOf f.payload := by
  obtain ⟨s', hrun, -⟩ := rxBytes_flatMap_frames between_initial fs
  unfold inputs
  rw [hrun]
  clear hrun
  induction fs with
  | nil => rfl
  | cons f fs ih =>
    dsimp only at ih ⊢
    rw [List.flatMap_cons, List.filterMap_append, inputs_frame f (h f List.mem_cons_self),
      ih fun g hg => h g (List.mem_cons_of_mem f hg), List.filter_cons]
    split <;> simp_all

/-! ## The mailbox -/

/-- The callback reads its input as a C string. -/
def cString (input : Str) : Str := input.takeWhile (· ≠ '\x00')

/-- The server after the callback was called for each of the inputs. -/
def receiveAll (w : WebServerLWS) (inputs : List Str) : WebServerLWS :=
  inputs.foldl (fun w input => (callbackIracingData w (.receive input)).1) w

theorem fuelMessage_receiveAll (w : WebServerLWS) (inputs : List Str)
    (hne : ∀ input ∈ inputs, input ≠ []) :
    (receiveAll w inputs).sharedData.fuelMessage =
      ((inputs.map cString).filter (· ≠ heartbeat)).getLastD w.sharedData.fuelMessage := by
  induction inputs generalizing w with
  | nil => rfl
  | cons input inputs ih =>
    have hrest := fun i hi => hne i (List.mem_cons_of_mem input hi)
    have hinput := hne input List.mem_cons_self
    unfold receiveAll at ih ⊢
    rw [List.foldl_cons, ih _ hrest, List.map_cons]
    by_cases hbeat : cString input = heartbeat
    · have hcall : (callbackIracingData w (.receive input)).1 = w := by
        unfold cString at hbeat
        simp only [callbackIracingData, if_neg hinput, if_pos hbeat]
      rw [hcall, List.filter_cons_of_neg (by simp [hbeat])]
    · have hcall :
          (callbackIracingData w (.receive input)).1.sharedData.fuelMessage = cString input := by
        unfold cString at hbeat ⊢
        simp only [callbackIracingData, if_neg hinput, if_neg hbeat]
        rfl
      rw [hcall, List.filter_cons_of_pos (by simpa using hbeat), List.getLastD_cons]

/-- Whatever frames a client sends, the message that waits for the main loop is that of
the last data frame that is not a heartbeat. -/
theorem fuelMessage_frames (w : WebServerLWS) (fs : List Frame)
    (h : ∀ f ∈ fs, f.payload.length ≤ maxSocketIoBuf) :
    (receiveAll w (inputs (fs.flatMap Frame.bytes))).sharedData.fuelMessage =
      (((fs.filter fun f => decide f.IsMessage).map fun f => cString (textOf f.payload)).filter
        (· ≠ heartbeat)).getLastD w.sharedData.fuelMessage := by
  rw [inputs_frames fs h, fuelMessage_receiveAll, List.map_map]
  · rfl
  · intro input hin
    obtain ⟨f, hf, rfl⟩ := List.mem_map.1 hin
    have hmsg : f.IsMessage := by simpa using (List.mem_filter.1 hf).2
    unfold textOf
    simpa using hmsg.2

def maskedText (payload : List UInt8) (h : payload.length < 126) : Frame where
  protocol := .text
  nonce := some (7, 0, 201, 64)
  payload := payload
  length_lt := by omega
  control_lt _ := h

/-- No fuel is asked for, and a heartbeat follows. -/
def fuelAndHeartbeat : List Frame :=
  [maskedText [124, 70, 117, 101, 108, 59, 48, 124] (by decide),
    maskedText [104, 101, 97, 114, 116, 98, 101, 97, 116] (by decide)]

theorem fuelMessage_frames_heartbeat :
    (receiveAll {} (inputs (fuelAndHeartbeat.flatMap Frame.bytes))).sharedData.fuelMessage =
      "|Fuel;0|".toList :=
  (fuelMessage_frames {} fuelAndHeartbeat (by decide)).trans (by decide)

end IrPitCrew.WebServer
