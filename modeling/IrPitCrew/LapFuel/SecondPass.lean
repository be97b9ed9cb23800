import IrPitCrew.LapFuel.Outliers

/-!
# The second pass keeps one half of the values

The second pass takes the median of the values near the first one. At least one
half of them are left, so the vector it reads is never empty.
-/

open IrPitCrew.OrderStat IrPitCrew.LapFuel.LapFuelData IrPitCrew.LapFuel.Estimate
  IrPitCrew.LapFuel.Outliers

namespace IrPitCrew.LapFuel.SecondPass

variable {K : Type*} [Field K] [LinearOrder K]

/-! ## Checked reads -/

/-- The working vector is read without a check. Outside of it there is no value. -/
def valueAt (tempValuesList : List K) (index : ℤ) : Option K :=
  if index < 0 then none else tempValuesList[index.toNat]?

/-- The middle of the sorted vector, where a read out of range gives nothing. -/
def middleChecked (tempValuesList : List K) : Option K := do
  let numValues : ℤ := tempValuesList.length
  let middleIndex := numValues / 2
  let value ← valueAt tempValuesList middleIndex
  if numValues % 2 = 0 then
    let second ← valueAt tempValuesList (middleIndex - 1)
    return (value + second) / 2
  else return value

def calcMedianChecked (valuesList : List K) (excludeOutliers : Bool) (input : K × K) :
    Option (K × K) :=
  let temp := tempValues valuesList excludeOutliers input.1 input.2
  if valuesList.length > 0 ∧ temp.length > 0 then do
    let medianValue ← middleChecked (sort temp)
    let madValue ← middleChecked (sort ((sort temp).map fun value => |medianValue - value|))
    return (medianValue, madValue)
  else return (0, 0)

omit [Field K] [LinearOrder K] in
theorem valueAt_eq (s : List K) (i : Nat) (hi : i < s.length) : valueAt s i = some s[i] := by
  rw [valueAt, if_neg (by omega), Int.toNat_natCast, List.getElem?_eq_getElem hi]

omit [LinearOrder K] in
/-- In a vector with a value, both middle indices are in range. -/
theorem middleChecked_eq (s : List K) (h : s ≠ []) : middleChecked s = some (middle s) := by
  have hlen := List.length_pos_of_ne_nil h
  have hmid : valueAt s ((s.length : ℤ) / 2) = some s[s.length / 2] := by
    exact_mod_cast valueAt_eq s (s.length / 2) (by omega)
  unfold middleChecked middle
  simp only [hmid, Option.bind_eq_bind, Option.bind_some, Option.pure_def]
  rcases Nat.mod_two_eq_zero_or_one s.length with heven | hodd
  · have hindex : (s.length : ℤ) / 2 - 1 = ((s.length / 2 - 1 : ℕ) : ℤ) := by omega
    rw [if_pos (by omega), if_pos heven, hindex, valueAt_eq s _ (by omega), Option.bind_some,
      List.getD_eq_getElem s 0 (by omega), List.getD_eq_getElem s 0 (by omega)]
  · rw [if_neg (by omega), if_neg (by omega), List.getD_eq_getElem s 0 (by omega)]

/-- The deviation of a vector with a value, in the order the code computes it. -/
theorem madChecked_eq (l : List K) (h : l ≠ []) :
    middleChecked (sort ((sort l).map fun value => |median l - value|)) = some (mad l) := by
  apply middleChecked_eq
  apply sort_ne_nil
  simpa using sort_ne_nil l h

theorem calcMedianChecked_eq (l : List K) (excludeOutliers : Bool) (input : K × K) :
    calcMedianChecked l excludeOutliers input = some (calcMedian l excludeOutliers input) := by
  unfold calcMedianChecked calcMedian
  simp only
  split
  case isTrue h =>
    have htemp := List.length_pos_iff.mp h.2
    have hmed : middleChecked (sort (tempValues l excludeOutliers input.1 input.2)) =
        some (median (tempValues l excludeOutliers input.1 input.2)) :=
      middleChecked_eq _ (sort_ne_nil _ htemp)
    simp only [hmed, madChecked_eq _ htemp, Option.bind_eq_bind, Option.bind_some, Option.pure_def]
  case isFalse => rfl

/-! ## The values that are left -/

/-- The working list of the second pass over a list. -/
def secondPassValues (valuesList : List K) (input : K × K) : List K :=
  let first := calcMedian valuesList false input
  tempValues valuesList true first.1 first.2

theorem tempValues_sublist (l : List K) (excludeOutliers : Bool) (m d : K) :
    (tempValues l excludeOutliers m d).Sublist l := by
  unfold tempValues
  split
  · exact List.filter_sublist
  · exact List.Sublist.refl l

variable [IsStrictOrderedRing K]

/-- A value within one deviation of the median is within three of them. -/
theorem half_le_length_tempValues (l : List K) (h : l ≠ []) :
    (l.length + 1) / 2 ≤ (tempValues l true (median l) (mad l)).length := by
  unfold tempValues
  split
  · have hnn := mad_nonneg l h
    rw [← List.countP_eq_length_filter]
    apply (half_le_countP_mad l h).trans
    apply List.countP_mono_left
    intro x _ hdev
    rw [decide_eq_true_eq, abs_le] at hdev
    rw [decide_eq_true_eq]
    constructor <;> linarith
  · omega

/-- **Majority kept.** For every list with a value, the second pass works on at least one half
of the values, its result is theirs, and neither pass reads out of range. -/
theorem secondPass_keeps_half (l : List K) (input : K × K) (h : l ≠ []) :
    (l.length + 1) / 2 ≤ (secondPassValues l input).length ∧
    secondPassValues l input ≠ [] ∧
    (secondPassValues l input).Sublist l ∧
    calcMedianTwice l input =
      (median (secondPassValues l input), mad (secondPassValues l input)) ∧
    calcMedianChecked l false input = some (calcMedian l false input) ∧
    calcMedianChecked l true (calcMedian l false input) = some (calcMedianTwice l input) := by
  have hlen := List.length_pos_of_ne_nil h
  have hkept : secondPassValues l input = tempValues l true (median l) (mad l) := by
    rw [secondPassValues, calcMedian_first l h]
  have hhalf := half_le_length_tempValues l h
  have hne : tempValues l true (median l) (mad l) ≠ [] := by
    rw [← List.length_pos_iff]
    omega
  rw [hkept, calcMedianTwice]
  refine ⟨hhalf, hne, tempValues_sublist _ _ _ _, ?_, calcMedianChecked_eq _ _ _,
    calcMedianChecked_eq _ _ _⟩
  rw [calcMedian_first l h, calcMedian_of_ne_nil l true _ hne]

/-- Of five laps with two far ones, three or more are left. -/
theorem secondPass_keeps_half_sample : 3 ≤ (secondPassValues sampleLaps (0, 0)).length := by
  have h := (secondPass_keeps_half sampleLaps (0, 0) (by decide)).1
  exact h

end IrPitCrew.LapFuel.SecondPass
