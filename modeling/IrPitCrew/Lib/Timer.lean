import IrPitCrew.Lib.Run

/-!
# Timers that are stopped by a flag

A start sets a flag and the callback. A stop clears the flag and leaves the
callback, which ends by itself when it fires. A start before that finds two
callbacks pending, and the flag keeps both alive.
-/

namespace IrPitCrew

open IrPitCrew.Run

structure Timer where
  isOn : Bool := false
  pending : Nat := 0

namespace Timer

inductive Move where
  | start
  | stop
  | fire (isLast : Bool)
  | stay
  deriving DecidableEq

def move (t : Timer) : Move → Timer
  | .start => if t.isOn then t else { isOn := true, pending := t.pending + 1 }
  | .stop => { t with isOn := false }
  | .fire isLast =>
    if t.pending = 0 ∨ t.isOn ∧ !isLast then t else { isOn := false, pending := t.pending - 1 }
  | .stay => t

/-! ## One move -/

/-- At most one callback is pending, and one is while the timer is on. -/
structure IsSingle (t : Timer) : Prop where
  pending_le : t.pending ≤ 1
  pending_of_isOn : t.isOn = true → t.pending = 1

/-- The timer was stopped and its callback did not fire yet. -/
def IsLeft (t : Timer) : Prop := t.isOn = false ∧ t.pending ≠ 0

theorem isSingle_init : IsSingle {} := ⟨by simp, by simp⟩

theorem not_isLeft_init : ¬ IsLeft {} := by simp [IsLeft]

theorem isSingle_move {t : Timer} (ht : t.IsSingle) (m : Move) (hm : m = .start → ¬ t.IsLeft) :
    (t.move m).IsSingle := by
  obtain ⟨hle, hon⟩ := ht
  cases m with
  | start =>
    simp only [move]
    split
    · exact ⟨hle, hon⟩
    · rename_i hoff
      have hpending : t.pending = 0 := by
        by_contra hne
        exact hm rfl ⟨by simpa using hoff, hne⟩
      exact ⟨by simp [hpending], by simp [hpending]⟩
  | stop => exact ⟨hle, by simp [move]⟩
  | fire isLast =>
    simp only [move]
    split
    · exact ⟨hle, hon⟩
    · exact ⟨by dsimp only; omega, by simp⟩
  | stay => exact ⟨hle, hon⟩

/-- **Step.** A second callback comes from a start while one is left. -/
theorem pending_move_le_iff {t : Timer} (ht : t.IsSingle) (m : Move) :
    (t.move m).pending ≤ 1 ↔ (m = .start → ¬ t.IsLeft) := by
  constructor
  · rintro h rfl ⟨hoff, hpending⟩
    simp only [move, hoff, Bool.false_eq_true, if_false] at h
    omega
  · intro h
    exact (isSingle_move ht m h).pending_le

/-! ## Runs -/

section

variable {σ ε : Type*} {step : σ → ε → σ} (timer : σ → Timer) (moveOf : σ → ε → Move)

def Starts (s : σ) (e : ε) : Prop := (timer s).isOn = false ∧ moveOf s e = .start

def Stops (s : σ) (e : ε) : Prop := (timer s).isOn = true ∧ moveOf s e = .stop

def Fires (s : σ) (e : ε) : Prop := ∃ isLast, moveOf s e = .fire isLast

/-- No start of the run comes after a stop whose callback did not fire since. -/
def StartsSettled (step : σ → ε → σ) (s : σ) (es : List ε) : Prop :=
  ∀ fs e, fs ++ [e] <+: es → Starts timer moveOf (run step s fs) e →
    ¬ Since step (Stops timer moveOf) (Fires moveOf) s fs

variable {timer moveOf} (hmove : ∀ s e, timer (step s e) = (timer s).move (moveOf s e))

/-- No start of the run finds a callback left. -/
def StartsFree (timer : σ → Timer) (moveOf : σ → ε → Move) (s : σ) (e : ε) : Prop :=
  moveOf s e = .start → ¬ (timer s).IsLeft

include hmove

theorem isSingle_step (s : σ) (e : ε) (he : StartsFree timer moveOf s e) (hs : (timer s).IsSingle) :
    (timer (step s e)).IsSingle := by
  rw [hmove]
  exact isSingle_move hs _ he

/-- What is left is what was stopped and did not fire since. -/
theorem isLeft_iff_since {s : σ} {es : List ε} (hok : StepsOk step (StartsFree timer moveOf) s es)
    (hs : (timer s).IsSingle) (hleft : ¬ (timer s).IsLeft) :
    (timer (run step s es)).IsLeft ↔ Since step (Stops timer moveOf) (Fires moveOf) s es := by
  refine run_iff_since_of_stepsOk (P := fun s => (timer s).IsLeft) (isSingle_step hmove) ?_ ?_ ?_
    hok hs hleft
  · rintro s e - hs ⟨hon, hstop⟩
    rw [hmove, hstop]
    exact ⟨rfl, by simp [move, hs.pending_of_isOn hon]⟩
  · rintro s e - hs ⟨isLast, hfire⟩
    rw [hmove, hfire]
    rintro ⟨hoff, hpending⟩
    have hle := hs.pending_le
    simp only [move] at hoff hpending
    split at hpending
    · rename_i hsame
      rw [if_pos hsame] at hoff
      rcases hsame with hzero | ⟨hon, -⟩
      · exact hpending hzero
      · simp [hoff] at hon
    · dsimp only at hpending
      omega
  · intro s e he hs hstop hfire
    rw [hmove]
    cases hm : moveOf s e with
    | start =>
      have hleft := he hm
      refine iff_of_false ?_ hleft
      simp only [move]
      split
      · exact hleft
      · simp [IsLeft]
    | stop =>
      have hoff : (timer s).isOn = false := by
        rw [← Bool.not_eq_true]
        exact fun hon => hstop ⟨hon, hm⟩
      simp [move, IsLeft, hoff]
    | fire isLast => exact absurd ⟨isLast, hm⟩ hfire
    | stay => rfl

/-- The same condition on the runs, once on the state and once on the history. -/
theorem stepsOk_startsFree_iff {s : σ} (hs : (timer s).IsSingle) (hleft : ¬ (timer s).IsLeft)
    (es : List ε) :
    StepsOk step (StartsFree timer moveOf) s es ↔ StartsSettled timer moveOf step s es := by
  constructor
  · intro hok fs e hfs hstart
    obtain ⟨gs, rfl⟩ := hfs
    rw [List.append_assoc, stepsOk_append] at hok
    rw [← isLeft_iff_since hmove hok.1 hs hleft]
    exact hok.2.1 hstart.2
  · intro h
    induction es using List.reverseRecOn with
    | nil => trivial
    | append_singleton es e ih =>
      have hes := ih fun fs d hfs => h fs d (hfs.trans (List.prefix_append es [e]))
      rw [stepsOk_append]
      refine ⟨hes, fun hstart hafter => ?_, trivial⟩
      apply h es e List.prefix_rfl ⟨hafter.1, hstart⟩
      exact (isLeft_iff_since hmove hes hs hleft).mp hafter

/-- **At most one callback.** It stays so along exactly the runs in which each start comes after the
callback of the last stop. -/
theorem pending_le_one_iff {s : σ} (hs : (timer s).IsSingle) (hleft : ¬ (timer s).IsLeft)
    (es : List ε) :
    (∀ fs, fs <+: es → (timer (run step s fs)).pending ≤ 1) ↔
      StartsSettled timer moveOf step s es := by
  rw [← stepsOk_startsFree_iff hmove hs hleft]
  refine (stepsOk_iff_forall_of_invariant (P := fun s => (timer s).pending ≤ 1)
    (fun s e hi he => isSingle_step hmove s e he hi) ?_ es hs hs.pending_le).symm
  intro s e hi
  rw [hmove]
  exact pending_move_le_iff hi _

theorem isSingle_run {s : σ} (hs : (timer s).IsSingle) (hleft : ¬ (timer s).IsLeft) {es : List ε}
    (h : StartsSettled timer moveOf step s es) : (timer (run step s es)).IsSingle :=
  run_invariant (isSingle_step hmove) ((stepsOk_startsFree_iff hmove hs hleft es).mpr h) hs

end

end Timer

end IrPitCrew
