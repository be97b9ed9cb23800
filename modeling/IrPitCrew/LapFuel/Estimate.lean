import IrPitCrew.LapFuel.LapFuelData
import Mathlib.Data.Rat.Floor

/-!
# The estimates stay inside the recorded laps

One deviation around a median does not leave the recorded values, and the second
pass always keeps a value. Every recorded value is positive, also one that was
written to a file and read again.
-/

open IrPitCrew.Text IrPitCrew.Decimal IrPitCrew.OrderStat IrPitCrew.Run IrPitCrew.LapFuel.LapFuelData

namespace IrPitCrew.LapFuel.Estimate

variable {K : Type*} [Field K] [LinearOrder K]

/-! ## The second pass -/

theorem tempValues_subset (l : List K) (excludeOutliers : Bool) (m d : K) :
    tempValues l excludeOutliers m d ⊆ l := by
  unfold tempValues
  split
  · exact List.filter_subset_self l
  · exact fun _ hx => hx

theorem calcMedian_of_ne_nil (l : List K) (excludeOutliers : Bool) (input : K × K)
    (h : tempValues l excludeOutliers input.1 input.2 ≠ []) :
    calcMedian l excludeOutliers input =
      (median (tempValues l excludeOutliers input.1 input.2),
        mad (tempValues l excludeOutliers input.1 input.2)) := by
  have hl : l ≠ [] := by
    rintro rfl
    exact h (by simp [tempValues])
  rw [calcMedian, if_pos ⟨List.length_pos_of_ne_nil hl, List.length_pos_of_ne_nil h⟩]

theorem calculatedLapTime_nil (d : LapFuelData K) (h : d.mDataLapTimeList = []) :
    d.calculatedLapTime = 0 := by
  simp [calculatedLapTime, medianValues, calcMedianValues, calcMedianTwice, calcMedian, h]

theorem calculatedLapFuel_nil (d : LapFuelData K) (h : d.mDataLapFuelList = []) :
    d.calculatedLapFuel = 0 := by
  simp [calculatedLapFuel, medianValues, calcMedianValues, calcMedianTwice, calcMedian, h]

variable [IsStrictOrderedRing K]

/-- The value nearest to the median is no outlier. -/
theorem tempValues_ne_nil (l : List K) (h : l ≠ []) :
    tempValues l true (median l) (mad l) ≠ [] := by
  unfold tempValues
  split
  · obtain ⟨x, hx, hdev⟩ := exists_abs_sub_le_mad l h
    have hnn := mad_nonneg l h
    rw [abs_le] at hdev
    apply List.ne_nil_of_mem (a := x)
    apply List.mem_filter.mpr
    refine ⟨hx, ?_⟩
    simp only [decide_eq_true_eq]
    constructor <;> linarith
  · exact h

/-- The two passes give the median and the deviation of some of the values. -/
theorem calcMedianTwice_eq (l : List K) (h : l ≠ []) (input : K × K) :
    ∃ kept, kept ≠ [] ∧ kept ⊆ l ∧ calcMedianTwice l input = (median kept, mad kept) := by
  have hfirst : calcMedian l false input = (median l, mad l) :=
    calcMedian_of_ne_nil l false input (by simpa [tempValues] using h)
  refine ⟨tempValues l true (median l) (mad l), tempValues_ne_nil l h, tempValues_subset _ _ _ _, ?_⟩
  rw [calcMedianTwice, hfirst]
  exact calcMedian_of_ne_nil l true _ (tempValues_ne_nil l h)

/-- The medians of positive values, and one deviation to either side. -/
theorem calcMedianTwice_bounds (l : List K) (h : l ≠ []) (hpos : ∀ x ∈ l, 0 < x) (input : K × K) :
    0 < (calcMedianTwice l input).1 ∧ 0 ≤ (calcMedianTwice l input).2 ∧
    (∃ x ∈ l, x ≤ (calcMedianTwice l input).1 - (calcMedianTwice l input).2) ∧
    ∃ x ∈ l, (calcMedianTwice l input).1 + (calcMedianTwice l input).2 ≤ x := by
  obtain ⟨kept, hne, hsub, heq⟩ := calcMedianTwice_eq l h input
  rw [heq]
  obtain ⟨lo, hlo, hlow⟩ := exists_le_median_sub_mad kept hne
  obtain ⟨hi, hhi, hhigh⟩ := exists_median_add_mad_le kept hne
  have hmad := mad_nonneg kept hne
  have hlopos := hpos lo (hsub hlo)
  simp only
  exact ⟨by linarith, hmad, ⟨lo, hsub hlo, hlow⟩, ⟨hi, hsub hhi, hhigh⟩⟩

/-! ## The estimates -/

theorem calculatedLapTime_eq (d : LapFuelData K) (h : d.mDataLapTimeList ≠ [])
    (hpos : ∀ t ∈ d.mDataLapTimeList, 0 < t) :
    d.calculatedLapTime = d.medianValues.medLapTime - d.medianValues.madLapTime := by
  obtain ⟨hmed, hmad, -⟩ := calcMedianTwice_bounds _ h hpos (0, 0)
  change 0 < d.medianValues.medLapTime at hmed
  change 0 ≤ d.medianValues.madLapTime at hmad
  simp only [calculatedLapTime]
  rw [if_pos hmed, if_neg (not_lt.mpr hmad)]

theorem calculatedLapFuel_eq (d : LapFuelData K) (h : d.mDataLapFuelList ≠ [])
    (hpos : ∀ f ∈ d.mDataLapFuelList, 0 < f) :
    d.calculatedLapFuel = d.medianValues.medFuel + d.medianValues.madFuel := by
  obtain ⟨hmed, hmad, -⟩ := calcMedianTwice_bounds _ h hpos (0, 0)
  change 0 < d.medianValues.medFuel at hmed
  change 0 ≤ d.medianValues.madFuel at hmad
  simp only [calculatedLapFuel]
  rw [if_pos hmed, if_neg (not_lt.mpr hmad)]

theorem lapTime_within (d : LapFuelData K) (h : d.mDataLapTimeList ≠ [])
    (hpos : ∀ t ∈ d.mDataLapTimeList, 0 < t) :
    d.mDataLapTimeList.minimum ≤ d.calculatedLapTime ∧
    d.calculatedLapTime ≤ d.medianValues.medLapTime ∧ 0 < d.calculatedLapTime := by
  obtain ⟨-, hmad, ⟨lo, hlo, hlow⟩, -⟩ := calcMedianTwice_bounds _ h hpos (0, 0)
  change 0 ≤ d.medianValues.madLapTime at hmad
  change lo ≤ d.medianValues.medLapTime - d.medianValues.madLapTime at hlow
  have hlopos := hpos lo hlo
  rw [calculatedLapTime_eq d h hpos]
  exact ⟨List.minimum_le_coe_iff.mpr ⟨lo, hlo, hlow⟩, by linarith, by linarith⟩

theorem lapFuel_within (d : LapFuelData K) (h : d.mDataLapFuelList ≠ [])
    (hpos : ∀ f ∈ d.mDataLapFuelList, 0 < f) :
    d.medianValues.medFuel ≤ d.calculatedLapFuel ∧
    d.calculatedLapFuel ≤ d.mDataLapFuelList.maximum ∧ 0 < d.calculatedLapFuel := by
  obtain ⟨hmed, hmad, -, ⟨hi, hhi, hhigh⟩⟩ := calcMedianTwice_bounds _ h hpos (0, 0)
  change 0 < d.medianValues.medFuel at hmed
  change 0 ≤ d.medianValues.madFuel at hmad
  change d.medianValues.medFuel + d.medianValues.madFuel ≤ hi at hhigh
  rw [calculatedLapFuel_eq d h hpos]
  exact ⟨by linarith, List.coe_le_maximum_iff.mpr ⟨hi, hhi, hhigh⟩, by linarith⟩

/-! ## Positive values over runs -/

/-- All values are positive, and there are as many times as fuels. -/
def Recorded (times fuels : List K) : Prop :=
  (∀ t ∈ times, 0 < t) ∧ (∀ f ∈ fuels, 0 < f) ∧ times.length = fuels.length

omit [IsStrictOrderedRing K] in
theorem recorded_nil : Recorded ([] : List K) [] := by simp [Recorded]

theorem Recorded.map_roundSix [FloorRing K] {times fuels : List K} (h : Recorded times fuels) :
    Recorded (times.map roundSix) (fuels.map roundSix) := by
  obtain ⟨ht, hf, hlen⟩ := h
  refine ⟨?_, ?_, by simpa using hlen⟩
  · rintro x hx
    obtain ⟨t, hmem, rfl⟩ := List.mem_map.mp hx
    exact roundSix_pos t (ht t hmem)
  · rintro x hx
    obtain ⟨f, hmem, rfl⟩ := List.mem_map.mp hx
    exact roundSix_pos f (hf f hmem)

theorem Recorded.addLapData {d : LapFuelData K} (h : Recorded d.mDataLapTimeList d.mDataLapFuelList)
    (time fuel : K) :
    Recorded (d.addLapData time fuel).2.mDataLapTimeList (d.addLapData time fuel).2.mDataLapFuelList := by
  obtain ⟨ht, hf, hlen⟩ := h
  unfold LapFuelData.addLapData
  split
  · exact ⟨ht, hf, hlen⟩
  · split
    · exact ⟨ht, hf, hlen⟩
    · rename_i htime
      split
      · exact ⟨ht, hf, hlen⟩
      · rename_i hlast
        refine ⟨fun x hx => ?_, fun x hx => ?_, by simp [length_dropOldest _ _ _ hlen]⟩
        · rcases mem_dropOldest_concat hx with hx | rfl
          · exact ht x hx
          · exact not_le.mp htime
        · rcases mem_dropOldest_concat hx with hx | rfl
          · exact hf x hx
          · exact sub_pos.mpr (not_le.mp hlast)

variable [FloorRing K]

def FilesRecorded (disk : Disk) : Prop :=
  ∀ key text, disk.files key = some text →
    ∃ times fuels : List K, Recorded times fuels ∧ text = sessionText times fuels

structure Inv (s : State K) : Prop where
  lists : Recorded s.data.mDataLapTimeList s.data.mDataLapFuelList
  files : FilesRecorded (K := K) s.disk

omit [IsStrictOrderedRing K] in
theorem FilesRecorded.write {disk : Disk} (h : FilesRecorded (K := K) disk) (name : Str)
    {times fuels : List K} (hr : Recorded times fuels) :
    FilesRecorded (K := K) (disk.write name (sessionText times fuels)) := by
  intro key text hkey
  simp only [Disk.write, Function.update_apply] at hkey
  split at hkey
  · exact ⟨times, fuels, hr, (Option.some.inj hkey).symm⟩
  · exact h key text hkey

omit [IsStrictOrderedRing K] in
theorem FilesRecorded.remove {disk : Disk} (h : FilesRecorded (K := K) disk) (name : Str) :
    FilesRecorded (K := K) (disk.remove name) := by
  intro key text hkey
  simp only [Disk.remove, Function.update_apply] at hkey
  split at hkey
  · simp at hkey
  · exact h key text hkey

omit [IsStrictOrderedRing K] in
theorem FilesRecorded.save {d : LapFuelData K} {disk : Disk} (h : FilesRecorded (K := K) disk)
    (hr : Recorded d.mDataLapTimeList d.mDataLapFuelList) (status : FileStatus) (track car : Str) :
    FilesRecorded (K := K) (d.saveSessionData status disk track car) := by
  rcases d.saveSessionData_cases status disk track car with heq | ⟨-, -, heq⟩
  · rwa [heq]
  · rw [heq]
    exact h.write _ hr

theorem FilesRecorded.loadedLists {disk : Disk} (h : FilesRecorded (K := K) disk) (d : LapFuelData K)
    (status : FileStatus) (track car : Str) :
    Recorded (d.loadedLists status disk track car).1 (d.loadedLists status disk track car).2 := by
  unfold LapFuelData.loadedLists
  split
  · cases hread : disk.read (d.getSessionDataFileName track car) with
    | none => exact recorded_nil
    | some text =>
      obtain ⟨times, fuels, hr, rfl⟩ := h _ _ hread
      rw [Option.map_some, Option.getD_some, parseSession_sessionText]
      exact hr.map_roundSix
  · exact recorded_nil

omit [IsStrictOrderedRing K] in
theorem inv_init (strDataDir : Str) (fileKey : Str → Str) :
    Inv (State.init strDataDir { fileKey } : State K) :=
  ⟨recorded_nil, fun _ _ h => by simp [State.init] at h⟩

theorem inv_step (s : State K) (e : Event K) (h : Inv s) : Inv (step s e) := by
  obtain ⟨hlists, hfiles⟩ := h
  cases e with
  | resetSessionData status track car =>
    have hsaved := hfiles.save hlists status s.data.mCurrentTrack s.data.mCurrentCar
    refine ⟨?_, hsaved⟩
    have hdata := s.data.resetSessionData_data status s.disk track car
    simp only [step]
    rw [hdata]
    exact hsaved.loadedLists s.data status track car
  | addLapData time fuel => exact ⟨hlists.addLapData time fuel, hfiles⟩
  | saveCurrentSessionData status =>
    refine ⟨hlists, ?_⟩
    simp only [step]
    rcases s.data.saveCurrentSessionData_cases status s.disk with heq | ⟨-, -, heq⟩
    · rwa [heq]
    · rw [heq]
      exact hfiles.write _ hlists
  | calcOptimal maxFuel => exact ⟨hlists, hfiles⟩
  | restart => exact ⟨recorded_nil, hfiles⟩
  | removeFile name => exact ⟨hlists, hfiles.remove name⟩

/-- **Estimates.** In every run that starts without files, the estimates lie between the
recorded laps and the medians of the second pass, and are 0 only without recorded laps. -/
theorem estimates_within (strDataDir : Str) (fileKey : Str → Str) (es : List (Event K)) (maxFuel : K) :
    let d := (run step (State.init strDataDir { fileKey }) es).data
    let lapTime := (d.calcOptimalLapTimeFuelValues maxFuel).1
    let lapFuel := (d.calcOptimalLapTimeFuelValues maxFuel).2.1
    (d.mDataLapTimeList = [] ↔ d.mDataLapFuelList = []) ∧
    (d.mDataLapTimeList ≠ [] →
      d.mDataLapTimeList.minimum ≤ lapTime ∧ lapTime ≤ d.medianValues.medLapTime ∧
      d.medianValues.medFuel ≤ lapFuel ∧ lapFuel ≤ d.mDataLapFuelList.maximum ∧
      0 < lapTime ∧ 0 < lapFuel) ∧
    (lapTime = 0 ↔ d.mDataLapTimeList = []) ∧ (lapFuel = 0 ↔ d.mDataLapFuelList = []) := by
  intro d lapTime lapFuel
  have hinv : Inv (run step (State.init strDataDir { fileKey } : State K) es) :=
    run_invariant_of_step inv_step es (inv_init strDataDir fileKey)
  obtain ⟨ht, hf, hlen⟩ := hinv.lists
  have hnil : d.mDataLapTimeList = [] ↔ d.mDataLapFuelList = [] := by
    rw [← List.length_eq_zero_iff, ← List.length_eq_zero_iff, hlen]
  refine ⟨hnil, fun hne => ?_, ?_, ?_⟩
  · obtain ⟨h1, h2, h3⟩ := lapTime_within d hne ht
    obtain ⟨h4, h5, h6⟩ := lapFuel_within d (fun h => hne (hnil.mpr h)) hf
    exact ⟨h1, h2, h4, h5, h3, h6⟩
  · refine ⟨fun h0 => ?_, calculatedLapTime_nil d⟩
    by_contra hne
    exact (lapTime_within d hne ht).2.2.ne' h0
  · refine ⟨fun h0 => ?_, calculatedLapFuel_nil d⟩
    by_contra hne
    exact (lapFuel_within d hne hf).2.2.ne' h0

def sampleEvents : List (Event ℚ) := [.addLapData 90 50, .addLapData 91 48, .addLapData 93 45]

theorem estimates_within_sample :
    let d := (run step (State.init "irPitCrew".toList {}) sampleEvents).data
    d.mDataLapTimeList = [91, 93] ∧ 0 < (d.calcOptimalLapTimeFuelValues 60).1 := by
  have hlaps : (run step (State.init "irPitCrew".toList {}) sampleEvents).data.mDataLapTimeList =
      [91, 93] := by decide +kernel
  have h := (estimates_within "irPitCrew".toList id sampleEvents 60).2.1 (by rw [hlaps]; simp)
  exact ⟨hlaps, h.2.2.2.2.1⟩

end IrPitCrew.LapFuel.Estimate
