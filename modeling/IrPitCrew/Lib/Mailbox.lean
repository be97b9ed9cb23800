import Mathlib.Data.List.Basic

/-!
# A mailbox of one place

A message that is put replaces the one that waits, and a take empties the place.
Of the messages between two takes only the last one is taken.
-/

namespace IrPitCrew.Mailbox

variable {M : Type*}

inductive Op (M : Type*) where
  | put (m : M)
  | take
  | other

namespace Op

def isTake : Op M → Bool
  | .take => true
  | _ => false

def message : Op M → Option M
  | .put m => some m
  | _ => none

/-- What waits after an operation. -/
def after (waiting : Option M) : Op M → Option M
  | .put m => some m
  | .take => none
  | .other => waiting

end Op

/-- The messages that are taken, when `waiting` waits at first. -/
def taken : Option M → List (Op M) → List M
  | _, [] => []
  | waiting, .take :: ops => waiting.toList ++ taken none ops
  | waiting, op :: ops => taken (op.after waiting) ops

/-- The message that is put last. -/
def lastPut (ops : List (Op M)) : Option M := (ops.filterMap Op.message).getLast?

/-- The last message of each part, and what waits for the first one. The part after the last take has
none that is taken. -/
def lastOfEach (waiting : Option M) : List (List (Op M)) → List M
  | [] => []
  | [_] => []
  | part :: next :: parts => ((lastPut part).or waiting).toList ++ lastOfEach none (next :: parts)

theorem lastPut_cons (op : Op M) (ops : List (Op M)) : lastPut (op :: ops) = (lastPut ops).or op.message := by
  unfold lastPut
  cases hop : op.message with
  | none => rw [List.filterMap_cons_none hop, Option.or_none]
  | some m =>
    rw [List.filterMap_cons_some hop, List.getLast?_cons]
    cases (ops.filterMap Op.message).getLast? <;> rfl

/-- What waits at first counts as a message that is put before. -/
theorem lastOfEach_cons {op : Op M} (hop : op.isTake = false) (waiting : Option M)
    (part : List (Op M)) (parts : List (List (Op M))) :
    lastOfEach waiting ((op :: part) :: parts) = lastOfEach (op.after waiting) (part :: parts) := by
  cases parts with
  | nil => rfl
  | cons next parts =>
    rw [lastOfEach, lastOfEach, lastPut_cons]
    cases op with
    | take => cases hop
    | put m => cases lastPut part <;> rfl
    | other => cases lastPut part <;> rfl

theorem taken_eq_lastOfEach (waiting : Option M) (ops : List (Op M)) :
    taken waiting ops = lastOfEach waiting (ops.splitOnP Op.isTake) := by
  induction ops generalizing waiting with
  | nil => rfl
  | cons op ops ih =>
    obtain ⟨part, parts, hparts⟩ := List.exists_cons_of_ne_nil (List.splitOnP_ne_nil Op.isTake ops)
    rw [List.splitOnP_cons_eq_if_modifyHead, hparts]
    cases hop : op.isTake with
    | true =>
      cases op with
      | take =>
        rw [if_pos rfl, taken, ih, hparts]
        rfl
      | put | other => cases hop
    | false =>
      have htaken : taken waiting (op :: ops) = taken (op.after waiting) ops := by
        cases op with
        | take => cases hop
        | put | other => rfl
      rw [if_neg Bool.false_ne_true, List.modifyHead_cons, lastOfEach_cons hop, htaken, ih, hparts]

theorem lastOfEach_none (parts : List (List (Op M))) :
    lastOfEach none parts = parts.dropLast.filterMap lastPut := by
  induction parts with
  | nil => rfl
  | cons part parts ih =>
    cases parts with
    | nil => rfl
    | cons next parts =>
      rw [lastOfEach, ih, Option.or_none, List.dropLast_cons_cons, List.filterMap_cons]
      cases lastPut part <;> rfl

/-- The messages taken from an empty mailbox: the last one of those before each take. -/
theorem taken_none (ops : List (Op M)) :
    taken none ops = (ops.splitOnP Op.isTake).dropLast.filterMap lastPut := by
  rw [taken_eq_lastOfEach, lastOfEach_none]

end IrPitCrew.Mailbox
