import IrPitCrew.Lib.Mailbox
import IrPitCrew.PitSession

/-!
# The pit message as a mailbox

The shared data have place for one message. Of those that the pages send between
two ticks the plugin executes the last one, once.
-/

open IrPitCrew.Text IrPitCrew.WebServer IrPitCrew.Run IrPitCrew.Plugin

namespace IrPitCrew.PitSession

variable {K : Type*} [Field K] [LinearOrder K] [FloorRing K]

/-- What an event does to the message that waits. -/
def op (s : System K) : Event → Mailbox.Op Str
  | .receive input =>
    if System.isStored input then .put (input.takeWhile (· ≠ '\x00')) else .other
  | .dataReady f => if s.loop.session.isConnect f then .other else .take
  | .editConfig _ | .notConnected => .other

def ops : System K → List Event → List (Mailbox.Op Str)
  | _, [] => []
  | s, e :: es => op s e :: ops (step s e) es

/-- A message with the settings it is executed with. -/
structure Execution (K : Type*) where
  message : Str
  factor : K
  isSkipClearOnApply : Bool

def Execution.commands (x : Execution K) : List PitCommand :=
  handlePitCommandMessage .exact x.factor x.isSkipClearOnApply x.message

/-- What an event executes. -/
def execution (s : System K) (e : Event) : Option (Execution K) :=
  (executed s e).map fun x => ⟨x.1, x.2, s.loop.settings.gIsSkipClearOnApply⟩

/-- The messages that a run executes, oldest first. -/
def executions : System K → List Event → List (Execution K)
  | _, [] => []
  | s, e :: es => (execution s e).toList ++ executions (step s e) es

/-- The commands of a tick. -/
def commands (s : System K) : Event → List PitCommand
  | .dataReady f =>
    match (Plugin.step s.loop (.dataReady (s.tickFrame f))).2 with
    | .ticked v => v.commands
    | .quiet | .read _ => []
  | .receive _ | .editConfig _ | .notConnected => []

def issued : System K → List Event → List PitCommand
  | _, [] => []
  | s, e :: es => commands s e ++ issued (step s e) es

/-- The empty message stands for none. -/
def Waits (s : System K) (waiting : Option Str) : Prop := s.sharedData.fuelMessage = waiting.getD []

theorem waits_step {s : System K} {waiting : Option Str} (h : Waits s waiting) (e : Event) :
    Waits (step s e) ((op s e).after waiting) := by
  cases e with
  | receive input =>
    unfold op
    dsimp only
    split
    · rename_i hstored
      simp only [System.isStored, decide_eq_true_eq] at hstored
      unfold Waits step System.receive
      dsimp only
      rw [callbackIracingData, if_neg hstored.1]
      dsimp only
      rw [if_neg hstored.2]
      split <;> rfl
    · rename_i hstored
      exact (step_of_not_writes s (.receive input) hstored).1.trans h
  | editConfig file => exact h
  | dataReady f =>
    unfold op
    dsimp only
    split
    · rename_i hconnect
      exact (step_of_connect s (.dataReady f) hconnect).1.trans h
    · rename_i htick
      unfold step
      dsimp only
      rw [if_neg htick]
      rfl
  | notConnected => exact h

omit [LinearOrder K] [FloorRing K] in
theorem executed_eq_none {s : System K} {f : Frame} (h : s.loop.session.isConnect f = true) :
    executed s (.dataReady f) = none := if_pos (.inl h)

omit [LinearOrder K] [FloorRing K] in
theorem executed_waits {s : System K} {waiting : Option Str} (h : Waits s waiting) (e : Event) :
    ((executed s e).map Prod.fst).toList =
      (if (op s e).isTake then waiting.toList else []).filter (· ≠ []) := by
  cases e with
  | receive input =>
    unfold op
    dsimp only
    split <;> rfl
  | editConfig | notConnected => rfl
  | dataReady f =>
    have hop : op s (.dataReady f) = if s.loop.session.isConnect f then .other else .take := rfl
    by_cases hconnect : s.loop.session.isConnect f = true
    · rw [hop, if_pos hconnect, executed_eq_none hconnect]
      rfl
    · rw [hop, if_neg hconnect, executed, show s.sharedData.fuelMessage = waiting.getD [] from h]
      cases waiting with
      | none =>
        rw [if_pos (.inr rfl)]
        rfl
      | some message =>
        by_cases hempty : message = []
        · rw [if_pos (.inr hempty), hempty]
          rfl
        · rw [if_neg (by simp [hconnect, hempty])]
          simp [Mailbox.Op.isTake, hempty]

theorem executions_taken {s : System K} {waiting : Option Str} (h : Waits s waiting) (es : List Event) :
    (executions s es).map Execution.message =
      (Mailbox.taken waiting (ops s es)).filter (· ≠ []) := by
  induction es generalizing s waiting with
  | nil => rfl
  | cons e es ih =>
    have hnext := ih (waits_step h e)
    have hhere := executed_waits h e
    have hmap : (execution s e).toList.map Execution.message = ((executed s e).map Prod.fst).toList := by
      unfold execution
      cases executed s e <;> rfl
    rw [executions, List.map_append, hmap, hhere, hnext, ops, ← List.filter_append]
    congr 1
    cases op s e <;> rfl

theorem commands_eq (s : System K) (e : Event) :
    commands s e = (execution s e).toList.flatMap Execution.commands := by
  cases e with
  | receive | editConfig | notConnected => rfl
  | dataReady f =>
    obtain ⟨-, hcommands⟩ := step_dataReady s f
    obtain ⟨hconnect, hstep⟩ | ⟨-, hstep⟩ := Plugin.step_cases s.loop (s.tickFrame f)
    · have hnone : executed s (.dataReady f) = none := executed_eq_none hconnect
      rw [commands, hstep, execution, hnone]
      rfl
    · rw [commands, hstep]
      refine (hcommands _ (congrArg Prod.snd hstep)).trans ?_
      rw [execution]
      cases executed s (.dataReady f) with
      | none => rfl
      | some x => exact (List.append_nil _).symm

/-- **One message a tick.** A run executes, once and in order, the last message that was stored before
each tick and after the one before it, and its commands are those of these messages. -/
theorem executions_mailbox (l : Loop K) (es : List Event) :
    (executions (.init l) es).map Execution.message =
      (((ops (.init l) es).splitOnP Mailbox.Op.isTake).dropLast.filterMap Mailbox.lastPut).filter (· ≠ []) ∧
    issued (.init l) es = (executions (.init l) es).flatMap Execution.commands := by
  refine ⟨?_, ?_⟩
  · have hempty : Waits (System.init l) none := rfl
    rw [executions_taken hempty, Mailbox.taken_none]
  · generalize System.init l = s
    induction es generalizing s with
    | nil => rfl
    | cons e es ih => rw [issued, executions, List.flatMap_append, ih, commands_eq]

end IrPitCrew.PitSession
