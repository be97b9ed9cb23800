import IrPitCrew.Lib.Run
import IrPitCrew.Server.WebServer
import Mathlib.Data.List.Flatten

/-!
# The first message of a connection

One flag asks for a full message, and any connection's next message answers it.
A client that missed a heartbeat opens a connection before its last one is closed.
-/

open IrPitCrew.Text IrPitCrew.Run IrPitCrew.WebServer

namespace IrPitCrew.Snapshot

/-! ## The system -/

/-- The server, and for each open connection the data messages written to it, in order. -/
structure System where
  server : WebServerLWS := {}
  connections : Nat → Option (List Str) := fun _ => none

inductive Event where
  | setSessionInfo (sessionInfo : Str)
  | setData (dataStrMap : StrMap)
  | resetConnection
  | updateClient
  | runThread
  | established (id : Nat)
  | receive (input : Str)
  | serverWriteable (id : Nat)
  | closed (id : Nat)

def step (sys : System) : Event → System
  | .setSessionInfo s =>
    { sys with server.sharedData := sys.server.sharedData.setSessionInfo s }
  | .setData m => { sys with server.sharedData := sys.server.sharedData.setData m }
  | .resetConnection => { sys with server := sys.server.resetConnection }
  | .updateClient => { sys with server := sys.server.updateClient }
  | .runThread => { sys with server := sys.server.runThread.1 }
  | .established id =>
    { server := (callbackIracingData sys.server .established).1
      connections := Function.update sys.connections id (some []) }
  | .receive input => { sys with server := (callbackIracingData sys.server (.receive input)).1 }
  | .serverWriteable id =>
    match sys.connections id with
    | none => sys -- The connection is not open, so no callback.
    | some ms =>
      let (server, output) := callbackIracingData sys.server .serverWriteable
      { server, connections := Function.update sys.connections id (some (ms ++ output.toList)) }
  | .closed id => { sys with connections := Function.update sys.connections id none }

/-! ## The full message -/

def fullMessage (d : SharedData) : Str :=
  stripUnicode (d.getSessionInfo ++ ['\n'] ++ dataTag ++ ['\n'] ++ ['\n'] ++
    d.getData.entries.flatMap dataLine)

/-- The session info, and a line for every entry of the map, as they are sent. -/
structure HoldsAll (d : SharedData) (message : Str) : Prop where
  session : stripUnicode d.getSessionInfo <:+: message
  entries : ∀ p ∈ d.getData.entries, '\n' :: stripUnicode (dataLine p) <:+: message

theorem sentEntries_empty (m : StrMap) : sentEntries .empty m = m.entries := by
  simp [sentEntries, isSendValue, StrMap.empty]

theorem serverWriteable_of_reset (w : WebServerLWS) (h : w.sConnectionReset = true) :
    w.serverWriteable.1 = fullMessage w.sharedData := by
  simp only [WebServerLWS.serverWriteable, h, if_true, sentEntries_empty, fullMessage]

theorem length_stripUnicode_sentEntries_le (last m : StrMap) :
    (stripUnicode ((sentEntries last m).flatMap dataLine)).length ≤
      (stripUnicode (m.entries.flatMap dataLine)).length := by
  have hsub : List.Sublist (sentEntries last m) m.entries := List.filter_sublist
  exact ((hsub.flatMap dataLine).filter _).length_le

/-- Without the flag the message is shorter: no newline of the session info. -/
theorem serverWriteable_of_not_reset (w : WebServerLWS) (h : w.sConnectionReset = false) :
    w.serverWriteable.1 ≠ fullMessage w.sharedData := by
  intro heq
  have hlen := congrArg List.length heq
  have hle := length_stripUnicode_sentEntries_le w.sLastSentDataStrMap w.sharedData.getData
  simp only [WebServerLWS.serverWriteable, h, Bool.false_eq_true, if_false, fullMessage,
    stripUnicode_append, List.length_append, stripUnicode_nil, List.length_nil, stripUnicode_newline,
    List.length_singleton] at hlen
  omega

theorem serverWriteable_eq_fullMessage_iff (w : WebServerLWS) :
    w.serverWriteable.1 = fullMessage w.sharedData ↔ w.sConnectionReset = true := by
  constructor
  · intro h
    by_contra hreset
    exact serverWriteable_of_not_reset w (eq_false_of_ne_true hreset) h
  · exact serverWriteable_of_reset w

/-- A line of the message follows a newline. -/
theorem isInfix_dataLine (es : List (Str × Str)) (p : Str × Str) (hp : p ∈ es) :
    '\n' :: stripUnicode (dataLine p) <:+: '\n' :: stripUnicode (es.flatMap dataLine) := by
  obtain ⟨before, after, rfl⟩ := List.append_of_mem hp
  rw [List.flatMap_append, List.flatMap_cons, stripUnicode_append, stripUnicode_append]
  -- The line before ends with a newline, or the line is the first one.
  rcases List.eq_nil_or_concat before with rfl | ⟨init, q, rfl⟩
  · exact ⟨[], stripUnicode (after.flatMap dataLine), by simp⟩
  · obtain ⟨line, hline⟩ : ∃ line, stripUnicode (dataLine q) = line ++ ['\n'] := by
      refine ⟨stripUnicode (q.1 ++ ';' :: q.2), ?_⟩
      rw [dataLine, stripUnicode_append, stripUnicode_newline]
    refine ⟨'\n' :: (stripUnicode (init.flatMap dataLine) ++ line),
      stripUnicode (after.flatMap dataLine), ?_⟩
    simp [hline]

theorem holdsAll_fullMessage (d : SharedData) : HoldsAll d (fullMessage d) := by
  have hsplit : fullMessage d = stripUnicode (d.getSessionInfo ++ ['\n'] ++ dataTag ++ ['\n']) ++
      ('\n' :: stripUnicode (d.getData.entries.flatMap dataLine)) := by
    rw [fullMessage, stripUnicode_append, stripUnicode_append, stripUnicode_newline,
      List.append_assoc, List.singleton_append]
  constructor
  · rw [hsplit]
    simp only [stripUnicode_append, List.append_assoc]
    exact (List.prefix_append _ _).isInfix
  · intro p hp
    rw [hsplit]
    exact (isInfix_dataLine _ p hp).trans (List.suffix_append _ _).isInfix

/-! ## Who takes the flag -/

def RaisesReset (sys : System) : Event → Prop
  | .established _ => True
  | .runThread => sys.server.mUpdateClient = true ∧ sys.server.mResetConnection = true
  | _ => False

def Writes (sys : System) : Event → Prop
  | .serverWriteable id => ∃ ms, sys.connections id = some ms
  | _ => False

theorem sConnectionReset_of_raises (sys : System) (e : Event) (h : RaisesReset sys e) :
    (step sys e).server.sConnectionReset = true := by
  cases e with
  | established id => rfl
  | runThread =>
    obtain ⟨hupdate, hreset⟩ := h
    simp [step, WebServerLWS.runThread, hupdate, hreset]
  | setSessionInfo | setData | resetConnection | updateClient | receive | serverWriteable | closed =>
    exact h.elim

theorem sConnectionReset_of_writes (sys : System) (e : Event) (h : Writes sys e) :
    (step sys e).server.sConnectionReset = false := by
  cases e with
  | serverWriteable id =>
    obtain ⟨ms, hms⟩ := h
    simp [step, hms, callbackIracingData, WebServerLWS.serverWriteable]
  | setSessionInfo | setData | resetConnection | updateClient | runThread | established | receive |
    closed => exact h.elim

theorem sConnectionReset_of_neither (sys : System) (e : Event) (hwrites : ¬ Writes sys e)
    (hraises : ¬ RaisesReset sys e) :
    (step sys e).server.sConnectionReset = sys.server.sConnectionReset := by
  cases e with
  | serverWriteable id =>
    have hnone : sys.connections id = none := by
      rw [Option.eq_none_iff_forall_ne_some]
      intro ms hms
      exact hwrites ⟨ms, hms⟩
    simp [step, hnone]
  | runThread =>
    unfold step WebServerLWS.runThread
    dsimp only
    split
    · rename_i hupdate
      have hreset : sys.server.mResetConnection = false :=
        eq_false_of_ne_true fun hreset => hraises ⟨hupdate, hreset⟩
      simp [hreset]
    · rfl
  | established id => exact absurd trivial hraises
  | receive input =>
    unfold step callbackIracingData
    dsimp only
    split
    · rfl
    · split <;> rfl
  | setSessionInfo | setData | resetConnection | updateClient | closed => rfl

/-- The flag is down where a message was written and nothing has raised it since. -/
theorem sConnectionReset_iff (es : List Event) :
    (run step {} es).server.sConnectionReset = false ↔ Since step Writes RaisesReset {} es := by
  refine run_iff_since (P := fun sys : System => sys.server.sConnectionReset = false)
    (fun _ _ (_ : True) => trivial) ?_ ?_ ?_ es trivial (by decide)
  · exact fun sys e _ h => sConnectionReset_of_writes sys e h
  · intro sys e _ h hdown
    simp [sConnectionReset_of_raises sys e h] at hdown
  · intro sys e _ hwrites hraises
    rw [sConnectionReset_of_neither sys e hwrites hraises]

/-! ## One connection at a time -/

/-- A connection is opened when no other one is open. -/
def OpensAlone (sys : System) : Event → Prop
  | .established id => ∀ other, other ≠ id → sys.connections other = none
  | _ => True

structure SingleOk (sys : System) : Prop where
  single : ∀ i j, sys.connections i ≠ none → sys.connections j ≠ none → i = j
  fresh : ∀ i, sys.connections i = some [] → sys.server.sConnectionReset = true

theorem singleOk_init : SingleOk {} := ⟨fun i _ h => absurd rfl h, fun _ h => by cases h⟩

theorem eq_of_update_ne_none {connections : Nat → Option (List Str)} {id k : Nat}
    {received : Option (List Str)} (h : ∀ other, other ≠ id → connections other = none)
    (hk : Function.update connections id received k ≠ none) : k = id := by
  by_contra hne
  rw [Function.update_of_ne hne] at hk
  exact hk (h k hne)

theorem singleOk_serverWriteable (sys : System) (id : Nat) (hs : SingleOk sys) :
    SingleOk (step sys (.serverWriteable id)) := by
  cases hms : sys.connections id with
  | none => simpa [step, hms] using hs
  | some ms =>
    have hothers : ∀ other, other ≠ id → sys.connections other = none := by
      intro other hne
      by_contra hopen
      exact hne (hs.single other id hopen (by simp [hms]))
    simp only [step, hms]
    constructor
    · intro i j hi hj
      rw [eq_of_update_ne_none hothers hi, eq_of_update_ne_none hothers hj]
    · intro i hi
      dsimp only at hi
      have hid : i = id := eq_of_update_ne_none hothers (hi ▸ Option.some_ne_none [])
      rw [hid] at hi
      simp [callbackIracingData] at hi

theorem singleOk_step (sys : System) (e : Event) (he : OpensAlone sys e) (hs : SingleOk sys) :
    SingleOk (step sys e) := by
  cases e with
  | established id =>
    constructor
    · intro i j hi hj
      rw [eq_of_update_ne_none he hi, eq_of_update_ne_none he hj]
    · exact fun _ _ => rfl
  | serverWriteable id => exact singleOk_serverWriteable sys id hs
  | closed id =>
    have hsub : ∀ k ms, Function.update sys.connections id none k = some ms →
        sys.connections k = some ms := by
      intro k ms hk
      by_cases hid : k = id
      · subst hid
        simp at hk
      · rwa [Function.update_of_ne hid] at hk
    constructor
    · intro i j hi hj
      obtain ⟨ms, hms⟩ := Option.ne_none_iff_exists'.mp hi
      obtain ⟨ms', hms'⟩ := Option.ne_none_iff_exists'.mp hj
      exact hs.single i j (by simp [hsub i ms hms]) (by simp [hsub j ms' hms'])
    · exact fun i hi => hs.fresh i (hsub i [] hi)
  | runThread =>
    refine ⟨hs.single, ?_⟩
    intro i hi
    have hreset := hs.fresh i hi
    unfold step WebServerLWS.runThread
    dsimp only
    split <;> simp [hreset]
  | receive input =>
    refine ⟨hs.single, ?_⟩
    intro i hi
    rw [sConnectionReset_of_neither sys (.receive input) id id]
    exact hs.fresh i hi
  | setSessionInfo | setData | resetConnection | updateClient => exact ⟨hs.single, hs.fresh⟩

/-- **The first message is the full one** exactly where no connection was written to after the flag
was last raised. With one connection at a time it always is. -/
theorem first_message_full_iff (es : List Event) (id : Nat)
    (h : (run step {} es).connections id = some []) :
    ∃ message, (step (run step {} es) (.serverWriteable id)).connections id = some [message] ∧
      (message = fullMessage (run step {} es).server.sharedData ↔
        ¬ Since step Writes RaisesReset {} es) ∧
      (¬ Since step Writes RaisesReset {} es →
        HoldsAll (run step {} es).server.sharedData message) ∧
      (StepsOk step OpensAlone {} es → ¬ Since step Writes RaisesReset {} es) := by
  have hfull := serverWriteable_eq_fullMessage_iff (run step {} es).server
  rw [← sConnectionReset_iff, Bool.not_eq_false]
  refine ⟨(run step {} es).server.serverWriteable.1, ?_, hfull, ?_, ?_⟩
  · simp [step, h, callbackIracingData]
  · intro hreset
    rw [hfull.mpr hreset]
    exact holdsAll_fullMessage _
  · intro halone
    exact (run_invariant singleOk_step halone singleOk_init).fresh id h

/-! ## A client that connects again -/

def sampleMap : StrMap := ⟨[("FuelLevel".toList, "7".toList)], by decide⟩

def sampleSession : Str := "Track: Spa".toList

def connectedEvents : List Event :=
  [.setSessionInfo sampleSession, .setData sampleMap, .established 0, .updateClient, .runThread,
    .serverWriteable 0]

/-- The heartbeat was missed, and the first connection is still open. -/
def reconnectEvents : List Event := connectedEvents ++ [.established 1, .updateClient, .runThread]

theorem first_message_full_reconnect :
    ∃ message, (step (run step {} reconnectEvents) (.serverWriteable 1)).connections 1 = some [message] ∧
      HoldsAll (run step {} reconnectEvents).server.sharedData message := by
  obtain ⟨message, hmessage, -, hholds, -⟩ := first_message_full_iff reconnectEvents 1 (by decide)
  refine ⟨message, hmessage, hholds ?_⟩
  rw [← sConnectionReset_iff]
  decide

/-- The old connection is written first and takes the full message. -/
theorem first_message_empty :
    (run step {} (reconnectEvents ++ [.serverWriteable 0])).connections 1 = some [] ∧
    ∃ message, (step (run step {} (reconnectEvents ++ [.serverWriteable 0]))
        (.serverWriteable 1)).connections 1 = some [message] ∧
      ¬ HoldsAll (run step {} (reconnectEvents ++ [.serverWriteable 0])).server.sharedData message := by
  refine ⟨by decide, "***D.A.T.A***\n\n".toList, by decide, ?_⟩
  intro h
  exact absurd h.session (by decide)

end IrPitCrew.Snapshot
