import Mathlib.Data.List.Induction
import Mathlib.Tactic.Common

/-!
# Runs of a step function

A run is a fold of the step over its events. A condition on the steps may look
at the state before the step. A property that every allowed step keeps holds at
the end of every run of allowed steps.
-/

namespace IrPitCrew.Run

variable {σ ε : Type*}

def run (step : σ → ε → σ) (s : σ) (es : List ε) : σ := es.foldl step s

@[simp] theorem run_nil (step : σ → ε → σ) (s : σ) : run step s [] = s := rfl

@[simp] theorem run_cons (step : σ → ε → σ) (s : σ) (e : ε) (es : List ε) :
    run step s (e :: es) = run step (step s e) es := rfl

theorem run_append (step : σ → ε → σ) (s : σ) (es fs : List ε) :
    run step s (es ++ fs) = run step (run step s es) fs := List.foldl_append

/-- Two systems in step stay related. -/
theorem run_simulates {τ : Type*} {step : σ → ε → σ} {step' : τ → ε → τ} {R : σ → τ → Prop}
    (h : ∀ s t e, R s t → R (step s e) (step' t e)) {s : σ} {t : τ} (es : List ε) (hst : R s t) :
    R (run step s es) (run step' t es) := by
  induction es generalizing s t with
  | nil => exact hst
  | cons e es ih => exact ih (h s t e hst)

/-- A part of the state that steps on its own. -/
theorem run_map {τ : Type*} {step : σ → ε → σ} {step' : τ → ε → τ} (part : σ → τ)
    (h : ∀ s e, part (step s e) = step' (part s) e) (s : σ) (es : List ε) :
    part (run step s es) = run step' (part s) es := by
  induction es generalizing s with
  | nil => rfl
  | cons e es ih => rw [run_cons, run_cons, ih, h]

/-- The events that change nothing can be left out. -/
theorem run_filter {step : σ → ε → σ} (p : ε → Bool) (h : ∀ s e, p e = false → step s e = s)
    (s : σ) (es : List ε) : run step s (es.filter p) = run step s es := by
  induction es generalizing s with
  | nil => rfl
  | cons e es ih =>
    cases hp : p e with
    | true => rw [List.filter_cons_of_pos hp, run_cons, run_cons, ih]
    | false => rw [List.filter_cons_of_neg (by simp [hp]), run_cons, h s e hp, ih]

/-- Each event of the run is allowed in the state it meets. -/
def StepsOk (step : σ → ε → σ) (ok : σ → ε → Prop) : σ → List ε → Prop
  | _, [] => True
  | s, e :: es => ok s e ∧ StepsOk step ok (step s e) es

instance StepsOk.instDecidable (step : σ → ε → σ) (ok : σ → ε → Prop)
    [∀ s e, Decidable (ok s e)] : ∀ s es, Decidable (StepsOk step ok s es)
  | _, [] => inferInstanceAs (Decidable True)
  | s, e :: es =>
    have := StepsOk.instDecidable step ok (step s e) es
    inferInstanceAs (Decidable (ok s e ∧ StepsOk step ok (step s e) es))

variable {step : σ → ε → σ} {ok : σ → ε → Prop}

theorem stepsOk_append (s : σ) (es fs : List ε) :
    StepsOk step ok s (es ++ fs) ↔ StepsOk step ok s es ∧ StepsOk step ok (run step s es) fs := by
  induction es generalizing s with
  | nil => simp [StepsOk]
  | cons e es ih => simp [StepsOk, ih, and_assoc]

theorem stepsOk_of_forall {okEvent : ε → Prop} (s : σ) (es : List ε) (h : ∀ e ∈ es, okEvent e) :
    StepsOk step (fun _ e => okEvent e) s es := by
  induction es generalizing s with
  | nil => trivial
  | cons e es ih => exact ⟨h e (by simp), ih _ (fun d hd => h d (by simp [hd]))⟩

theorem stepsOk_congr {ok' : σ → ε → Prop} (h : ∀ s e, ok s e ↔ ok' s e) (s : σ) (es : List ε) :
    StepsOk step ok s es ↔ StepsOk step ok' s es := by
  induction es generalizing s with
  | nil => exact Iff.rfl
  | cons e es ih => exact and_congr (h s e) (ih _)

/-- **Invariant rule.** -/
theorem run_invariant {Inv : σ → Prop} (hstep : ∀ s e, ok s e → Inv s → Inv (step s e))
    {s : σ} {es : List ε} (hok : StepsOk step ok s es) (hs : Inv s) : Inv (run step s es) := by
  induction es generalizing s with
  | nil => exact hs
  | cons e es ih => exact ih hok.2 (hstep s e hok.1 hs)

theorem run_invariant_of_forall {Inv : σ → Prop} {okEvent : ε → Prop}
    (hstep : ∀ s e, okEvent e → Inv s → Inv (step s e))
    {s : σ} {es : List ε} (hok : ∀ e ∈ es, okEvent e) (hs : Inv s) : Inv (run step s es) :=
  run_invariant hstep (stepsOk_of_forall s es hok) hs

theorem run_invariant_of_step {Inv : σ → Prop} (hstep : ∀ s e, Inv s → Inv (step s e))
    {s : σ} (es : List ε) (hs : Inv s) : Inv (run step s es) :=
  run_invariant (fun s e (_ : True) => hstep s e)
    (stepsOk_of_forall s es fun _ _ => trivial) hs

/-- What holds at the end of a run and not at its start, some event of the run brings about. -/
theorem exists_step_of_run {P : σ → Prop} {s : σ} (es : List ε) (hs : ¬ P s) (h : P (run step s es)) :
    ∃ fs e, fs ++ [e] <+: es ∧ ¬ P (run step s fs) ∧ P (run step s (fs ++ [e])) := by
  induction es using List.reverseRecOn with
  | nil => exact absurd h hs
  | append_singleton es e ih =>
    by_cases hes : P (run step s es)
    · obtain ⟨fs, d, hfs, hstep⟩ := ih hes
      exact ⟨fs, d, hfs.trans (List.prefix_append es [e]), hstep⟩
    · exact ⟨es, e, List.prefix_rfl, hes, h⟩

/-! ## Since -/

/-- An event of the first kind happened, and none of the second kind after it. -/
def Since (step : σ → ε → σ) (p q : σ → ε → Prop) (s : σ) (es : List ε) : Prop :=
  ∃ before e after, es = before ++ e :: after ∧ p (run step s before) e ∧
    StepsOk step (fun s e => ¬ q s e) (run step s (before ++ [e])) after

variable {p q : σ → ε → Prop}

theorem not_since_nil (s : σ) : ¬ Since step p q s [] := by
  rintro ⟨before, e, after, h, -⟩
  simp at h

theorem since_concat (s : σ) (es : List ε) (e : ε) :
    Since step p q s (es ++ [e]) ↔
      p (run step s es) e ∨ Since step p q s es ∧ ¬ q (run step s es) e := by
  constructor
  · rintro ⟨before, d, after, heq, hp, hafter⟩
    rcases List.eq_nil_or_concat after with rfl | ⟨after, c, rfl⟩
    · obtain ⟨rfl, hd⟩ := List.append_inj' heq rfl
      obtain rfl : e = d := by simpa using hd
      exact .inl hp
    · rw [List.concat_eq_append, ← List.cons_append, ← List.append_assoc] at heq
      obtain ⟨rfl, hc⟩ := List.append_inj' heq rfl
      obtain rfl : e = c := by simpa using hc
      rw [List.concat_eq_append, stepsOk_append] at hafter
      obtain ⟨hafter, hq, -⟩ := hafter
      rw [← run_append, List.append_assoc] at hq
      exact .inr ⟨⟨before, d, after, rfl, hp, hafter⟩, hq⟩
  · rintro (hp | ⟨⟨before, d, after, rfl, hp, hafter⟩, hq⟩)
    · exact ⟨es, e, [], rfl, hp, trivial⟩
    · refine ⟨before, d, after ++ [e], by simp, hp, ?_⟩
      rw [stepsOk_append]
      refine ⟨hafter, ?_, trivial⟩
      rw [← run_append, List.append_assoc]
      exact hq

/-- Where, under an invariant, events of one kind bring a property about and those of another end
it, it holds while it was brought about and not ended since. -/
theorem run_iff_since_of_stepsOk {Inv P : σ → Prop} (hinv : ∀ s e, ok s e → Inv s → Inv (step s e))
    (hset : ∀ s e, ok s e → Inv s → p s e → P (step s e))
    (hclear : ∀ s e, ok s e → Inv s → q s e → ¬ P (step s e))
    (hkeep : ∀ s e, ok s e → Inv s → ¬ p s e → ¬ q s e → (P (step s e) ↔ P s))
    {s : σ} {es : List ε} (hok : StepsOk step ok s es) (hi : Inv s) (hs : ¬ P s) :
    P (run step s es) ↔ Since step p q s es := by
  induction es using List.reverseRecOn with
  | nil => exact iff_of_false hs (not_since_nil s)
  | append_singleton es e ih =>
    rw [stepsOk_append] at hok
    obtain ⟨hes, he, -⟩ := hok
    have hrun : Inv (run step s es) := run_invariant hinv hes hi
    rw [since_concat, run_append, run_cons, run_nil, ← ih hes]
    by_cases hp : p (run step s es) e
    · exact iff_of_true (hset _ e he hrun hp) (.inl hp)
    · by_cases hq : q (run step s es) e
      · exact iff_of_false (hclear _ e he hrun hq) (by simp [hp, hq])
      · rw [hkeep _ e he hrun hp hq]
        simp [hp, hq]

theorem run_iff_since {Inv P : σ → Prop} (hinv : ∀ s e, Inv s → Inv (step s e))
    (hset : ∀ s e, Inv s → p s e → P (step s e)) (hclear : ∀ s e, Inv s → q s e → ¬ P (step s e))
    (hkeep : ∀ s e, Inv s → ¬ p s e → ¬ q s e → (P (step s e) ↔ P s))
    {s : σ} (es : List ε) (hi : Inv s) (hs : ¬ P s) : P (run step s es) ↔ Since step p q s es :=
  run_iff_since_of_stepsOk (fun s e (_ : True) => hinv s e) (fun s e _ => hset s e)
    (fun s e _ => hclear s e) (fun s e _ => hkeep s e)
    (stepsOk_of_forall s es fun _ _ => trivial) hi hs

/-- Where an allowed step keeps the invariant, and under it a step leads to the property exactly when
it is allowed, the runs of allowed steps are those along which the property never fails. -/
theorem stepsOk_iff_forall_of_invariant {Inv P : σ → Prop}
    (hkeep : ∀ s e, Inv s → ok s e → Inv (step s e))
    (hiff : ∀ s e, Inv s → (P (step s e) ↔ ok s e)) {s : σ} (es : List ε) (hs : Inv s) (hP : P s) :
    StepsOk step ok s es ↔ ∀ fs, fs <+: es → P (run step s fs) := by
  constructor
  · rintro hok fs ⟨gs, rfl⟩
    induction fs using List.reverseRecOn with
    | nil => exact hP
    | append_singleton fs e ih =>
      rw [List.append_assoc, stepsOk_append] at hok
      obtain ⟨hfs, hrest⟩ := hok
      have hinv : Inv (run step s fs) := run_invariant (fun s e he hi => hkeep s e hi he) hfs hs
      rw [run_append]
      exact (hiff _ e hinv).mpr hrest.1
  · intro h
    induction es generalizing s with
    | nil => trivial
    | cons e es ih =>
      have hnext : P (step s e) := h [e] (by simp)
      have hok : ok s e := (hiff s e hs).mp hnext
      refine ⟨hok, ih (hkeep s e hs hok) hnext ?_⟩
      intro fs hfs
      exact h (e :: fs) ((List.prefix_cons_inj e).mpr hfs)

/-- Where a step keeps the invariant exactly when it is allowed, the runs of allowed steps are
those along which the invariant never fails. -/
theorem stepsOk_iff_forall_prefixes {Inv : σ → Prop}
    (hstep : ∀ s e, Inv s → (Inv (step s e) ↔ ok s e)) {s : σ} (es : List ε) (hs : Inv s) :
    StepsOk step ok s es ↔ ∀ fs, fs <+: es → Inv (run step s fs) :=
  stepsOk_iff_forall_of_invariant (fun s e hi => (hstep s e hi).mpr) hstep es hs hs

end IrPitCrew.Run
