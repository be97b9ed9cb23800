import IrPitCrew.LapFuel.Estimate

/-!
# Outliers

When most of the recorded values lie in an interval, the other laps (black flags,
crashes) move the estimates by three widths of the interval at most.
-/

open IrPitCrew.OrderStat IrPitCrew.LapFuel.LapFuelData IrPitCrew.LapFuel.Estimate

namespace IrPitCrew.LapFuel.Outliers

variable {K : Type*} [Field K] [LinearOrder K]

theorem calcMedian_first (l : List K) (h : l ≠ []) (input : K × K) :
    calcMedian l false input = (median l, mad l) :=
  calcMedian_of_ne_nil l false input (by simpa [tempValues] using h)

variable [IsStrictOrderedRing K] {l : List K} {lo hi : K}

/-! ## The two passes -/

/-- What the second pass keeps. Without a deviation it keeps everything, so that case is about
the median itself. -/
theorem tempValues_within (hmost : l.length < 2 * l.countP fun x => lo ≤ x ∧ x ≤ hi)
    (hpos : ∀ x ∈ l, 0 < x) (hmad : 0 < mad l) (x : K)
    (hx : x ∈ tempValues l true (median l) (mad l)) :
    lo - 3 * (hi - lo) ≤ x ∧ x ≤ hi + 3 * (hi - lo) := by
  have hne := ne_nil_of_most hmost
  have hmed : 0 < median l := by
    obtain ⟨lowest, hmem, hle⟩ := exists_le_median_sub_mad l hne
    linarith [hpos lowest hmem]
  rw [tempValues, if_pos ⟨rfl, hmed, hmad⟩, List.mem_filter, decide_eq_true_eq] at hx
  obtain ⟨-, hlow, hhigh⟩ := hx
  have h1 := le_median_of_most hmost
  have h2 := median_le_of_most hmost
  have h3 := mad_le_of_most hmost
  constructor <;> linarith

theorem calcMedianTwice_within (hmost : l.length < 2 * l.countP fun x => lo ≤ x ∧ x ≤ hi)
    (hpos : ∀ x ∈ l, 0 < x) (input : K × K) :
    lo - 3 * (hi - lo) ≤ (calcMedianTwice l input).1 - (calcMedianTwice l input).2 ∧
    (calcMedianTwice l input).1 + (calcMedianTwice l input).2 ≤ hi + 3 * (hi - lo) ∧
    0 ≤ (calcMedianTwice l input).2 := by
  have hne := ne_nil_of_most hmost
  rw [calcMedianTwice, calcMedian_first l hne]
  have hkept := tempValues_ne_nil l hne
  rw [calcMedian_of_ne_nil l true _ hkept]
  simp only
  rcases (mad_nonneg l hne).eq_or_lt with hzero | hmad
  · have hall : tempValues l true (median l) (mad l) = l := by simp [tempValues, ← hzero]
    have h1 := le_median_of_most hmost
    have h2 := median_le_of_most hmost
    have h3 := mad_le_of_most hmost
    rw [hall, ← hzero]
    exact ⟨by linarith, by linarith, le_rfl⟩
  · have hwithin := tempValues_within hmost hpos hmad
    have hlow := mad_le_median_sub _ hkept _ fun x hx => (hwithin x hx).1
    have hhigh := mad_le_sub_median _ hkept _ fun x hx => (hwithin x hx).2
    exact ⟨by linarith, by linarith, mad_nonneg _ hkept⟩

/-! ## The estimates -/

variable [FloorRing K] {d : LapFuelData K}

theorem calculatedLapTime_within (hlist : d.mDataLapTimeList = l)
    (hmost : l.length < 2 * l.countP fun x => lo ≤ x ∧ x ≤ hi) (hpos : ∀ x ∈ l, 0 < x) :
    lo - 3 * (hi - lo) ≤ d.calculatedLapTime ∧ d.calculatedLapTime ≤ hi + 3 * (hi - lo) := by
  subst hlist
  rw [calculatedLapTime_eq d (ne_nil_of_most hmost) hpos]
  obtain ⟨hlow, hhigh, hmad⟩ := calcMedianTwice_within hmost hpos (0, 0)
  change lo - 3 * (hi - lo) ≤ d.medianValues.medLapTime - d.medianValues.madLapTime at hlow
  change d.medianValues.medLapTime + d.medianValues.madLapTime ≤ _ at hhigh
  change 0 ≤ d.medianValues.madLapTime at hmad
  exact ⟨hlow, by linarith⟩

theorem calculatedLapFuel_within (hlist : d.mDataLapFuelList = l)
    (hmost : l.length < 2 * l.countP fun x => lo ≤ x ∧ x ≤ hi) (hpos : ∀ x ∈ l, 0 < x) :
    lo - 3 * (hi - lo) ≤ d.calculatedLapFuel ∧ d.calculatedLapFuel ≤ hi + 3 * (hi - lo) := by
  subst hlist
  rw [calculatedLapFuel_eq d (ne_nil_of_most hmost) hpos]
  obtain ⟨hlow, hhigh, hmad⟩ := calcMedianTwice_within hmost hpos (0, 0)
  change lo - 3 * (hi - lo) ≤ d.medianValues.medFuel - d.medianValues.madFuel at hlow
  change d.medianValues.medFuel + d.medianValues.madFuel ≤ _ at hhigh
  change 0 ≤ d.medianValues.madFuel at hmad
  exact ⟨by linarith, hhigh⟩

/-- **Outliers.** With more than one half of the values in an interval, the first pass stays in
it, and each estimate stays within three of its widths, whatever the other values are. -/
theorem outliers_within (l : List K) (lo hi maxFuel : K) (input : K × K) (hpos : ∀ x ∈ l, 0 < x)
    (hmost : l.length < 2 * l.countP fun x => lo ≤ x ∧ x ≤ hi) :
    (lo ≤ (calcMedian l false input).1 ∧ (calcMedian l false input).1 ≤ hi) ∧
    (calcMedian l false input).2 ≤ hi - lo ∧
    ∀ d : LapFuelData K,
      (d.mDataLapTimeList = l →
        lo - 3 * (hi - lo) ≤ (d.calcOptimalLapTimeFuelValues maxFuel).1 ∧
        (d.calcOptimalLapTimeFuelValues maxFuel).1 ≤ hi + 3 * (hi - lo)) ∧
      (d.mDataLapFuelList = l →
        lo - 3 * (hi - lo) ≤ (d.calcOptimalLapTimeFuelValues maxFuel).2.1 ∧
        (d.calcOptimalLapTimeFuelValues maxFuel).2.1 ≤ hi + 3 * (hi - lo)) := by
  rw [calcMedian_first l (ne_nil_of_most hmost)]
  refine ⟨⟨le_median_of_most hmost, median_le_of_most hmost⟩, mad_le_of_most hmost, ?_⟩
  intro d
  constructor
  · intro hlist
    exact calculatedLapTime_within hlist hmost hpos
  · intro hlist
    exact calculatedLapFuel_within hlist hmost hpos

def sampleLaps : List ℚ := [90, 300, 91, 92, 45]

/-- Three laps of about 90 s, one with a crash and one cut short. -/
theorem outliers_within_sample :
    let d : LapFuelData ℚ := { mStrLapDataDir := [], mDataLapTimeList := sampleLaps }
    84 ≤ (d.calcOptimalLapTimeFuelValues 60).1 ∧ (d.calcOptimalLapTimeFuelValues 60).1 ≤ 98 := by
  intro d
  have h := ((outliers_within sampleLaps 90 92 60 (0, 0) (by decide +kernel)
    (by decide +kernel)).2.2 d).1 rfl
  norm_num at h
  exact h

end IrPitCrew.LapFuel.Outliers
