import IrPitCrew.Lib.Text

/-!
# Paths

A path is split at its separators, and the name of a file at its last `.`.
-/

open IrPitCrew.Text

namespace IrPitCrew.Path

/-! ## Parts of a path -/

section Split

variable {α : Type*} (p : α → Bool)

/-- The first part of a text is empty when the text is, or begins with a separator. -/
theorem splitOnP_head_eq_nil_iff (xs w : List α) (ws : List (List α)) (h : xs.splitOnP p = w :: ws) :
    w = [] ↔ ∀ c ∈ xs.head?, p c = true := by
  cases xs with
  | nil =>
    rw [List.splitOnP_nil] at h
    obtain ⟨rfl, -⟩ := List.cons.inj h
    simp
  | cons x xs =>
    rw [List.splitOnP_cons_eq_if_modifyHead] at h
    split at h
    · rename_i hx
      obtain ⟨rfl, -⟩ := List.cons.inj h
      simp [hx]
    · rename_i hx
      obtain ⟨v, vs, hv⟩ := List.exists_cons_of_ne_nil (List.splitOnP_ne_nil p xs)
      rw [hv, List.modifyHead_cons] at h
      obtain ⟨rfl, -⟩ := List.cons.inj h
      simp [hx]

/-- A text without separators before another text lengthens its first part. -/
theorem splitOnP_append (as xs w : List α) (ws : List (List α)) (ha : ∀ a ∈ as, p a = false)
    (h : xs.splitOnP p = w :: ws) : (as ++ xs).splitOnP p = (as ++ w) :: ws := by
  induction as with
  | nil => exact h
  | cons a as ih =>
    rw [List.cons_append, List.splitOnP_cons_eq_if_modifyHead, ha a List.mem_cons_self,
      ih (fun b hb => ha b (List.mem_cons_of_mem a hb))]
    rfl

end Split

/-! ## The extension of a file name -/

def rfind (c : Char) : Str → Option ℕ
  | [] => none
  | d :: s => (rfind c s).elim (if d = c then some 0 else none) fun n => some (n + 1)

theorem rfind_eq_none_iff (c : Char) (s : Str) : rfind c s = none ↔ c ∉ s := by
  induction s with
  | nil => simp [rfind]
  | cons d s ih =>
    rw [rfind, List.mem_cons, not_or, ← ih]
    cases rfind c s with
    | none => simp [eq_comm]
    | some n => simp

theorem rfind_append_cons (c : Char) (a b : Str) (h : c ∉ b) :
    rfind c (a ++ c :: b) = some a.length := by
  induction a with
  | nil =>
    rw [List.nil_append, rfind, (rfind_eq_none_iff c b).2 h]
    simp
  | cons d a ih =>
    rw [List.cons_append, rfind, ih]
    rfl

/-- The text from its last `.` on. -/
def extension (s : Str) : Str := (rfind '.' s).elim [] s.drop

theorem extension_eq_iff (e s : Str) (he : '.' ∉ e) : extension s = '.' :: e ↔ '.' :: e <:+ s := by
  constructor
  · intro h
    unfold extension at h
    cases hr : rfind '.' s with
    | none => simp [hr] at h
    | some n =>
      rw [hr, Option.elim_some] at h
      exact h ▸ List.drop_suffix n s
  · rintro ⟨a, rfl⟩
    unfold extension
    rw [rfind_append_cons '.' a e he, Option.elim_some, List.drop_left]

end IrPitCrew.Path
