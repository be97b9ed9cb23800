import IrPitCrew.LapFuel.Estimate
import IrPitCrew.Plugin.RemainingLaps

/-!
# The fuel required, from the estimates

A faster lap and a thirstier lap never ask for less fuel. Where only the time ends
the race, the laps to go are enough from any place on the track.
-/

open IrPitCrew.Text IrPitCrew.Decimal IrPitCrew.Run
open IrPitCrew.LapFuel (LapFuelData State)
open IrPitCrew.LapFuel.LapFuelData IrPitCrew.LapFuel.Estimate

namespace IrPitCrew.Plugin.FuelRequired

variable {K : Type*} [Field K] [LinearOrder K] [FloorRing K]

/-! ## The laps to go of a timed session -/

/-- The time to go of a timed session is known. -/
def TimeKnown (session : Session K) (f : Frame) : Prop :=
  session.gSessionTotalTime ≠ unlimited →
    0 ≤ (f.sessionTimeRemain : K) ∧ f.sessionTimeRemain < (irsdkUnlimitedTime : K)

theorem timeBlock_of_unlimited (session : Session K) (f : Frame)
    (h : session.gSessionTotalTime = unlimited) : (timeBlock session f).remainingLapsMax = -1 := by
  simp [timeBlock, timeLaps, h]

section

variable [IsStrictOrderedRing K]

theorem timeBlock_of_timed (session : Session K) {f : Frame}
    (h : session.gSessionTotalTime ≠ unlimited) (htime : TimeKnown session f) (ht : 0 < session.gEstimatedLapTime) :
    (timeBlock session f).remainingLapsMax =
      f.sessionTimeRemain / session.gEstimatedLapTime + additionalLapsAtEnd := by
  obtain ⟨h0, hlimit⟩ := htime h
  have hnonneg : ¬ f.sessionTimeRemain / session.gEstimatedLapTime + additionalLapsAtEnd < 0 := by
    have hdiv := div_nonneg h0 ht.le
    unfold additionalLapsAtEnd
    linarith
  simp only [timeBlock, timeLaps, if_pos h, if_pos ht, if_pos hlimit, atLeastZero, if_neg hnonneg]

/-! ## Two estimates -/

/-- The session, had it other estimates. -/
def withEstimates (session : Session K) (lapTime lapFuel : K) : Session K :=
  { session with gEstimatedLapTime := lapTime, gEstimatedLapFuelLitres := lapFuel }

omit [IsStrictOrderedRing K] in
omit [LinearOrder K] [FloorRing K] in
theorem lapLimitLaps_withEstimates (settings : Settings K) (session : Session K) (f : Frame) (t c : K) :
    lapLimitLaps settings (withEstimates session t c) f = lapLimitLaps settings session f := rfl

theorem timeBlock_mono {session : Session K} {f : Frame} (htime : TimeKnown session f)
    {t₁ t₂ : K} (ht : t₂ ≤ t₁) (hpos : 0 < t₂) (c₁ c₂ : K) :
    (timeBlock (withEstimates session t₁ c₁) f).remainingLapsMax ≤
      (timeBlock (withEstimates session t₂ c₂) f).remainingLapsMax ∧
    ((timeBlock (withEstimates session t₁ c₁) f).remainingLapsMax < 0 ↔
      (timeBlock (withEstimates session t₂ c₂) f).remainingLapsMax < 0) := by
  by_cases h : session.gSessionTotalTime = unlimited
  · rw [timeBlock_of_unlimited (withEstimates session t₁ c₁) f h,
      timeBlock_of_unlimited (withEstimates session t₂ c₂) f h]
    exact ⟨le_rfl, Iff.rfl⟩
  · obtain ⟨h0, -⟩ := htime h
    rw [timeBlock_of_timed (withEstimates session t₁ c₁) h htime (hpos.trans_le ht),
      timeBlock_of_timed (withEstimates session t₂ c₂) h htime hpos]
    simp only [withEstimates]
    have hle : f.sessionTimeRemain / t₁ ≤ f.sessionTimeRemain / t₂ := by gcongr
    have h1 : 0 ≤ f.sessionTimeRemain / t₁ := div_nonneg h0 (hpos.trans_le ht).le
    unfold additionalLapsAtEnd
    refine ⟨by linarith, iff_of_false ?_ ?_⟩ <;> linarith

theorem remainingLapsMax_mono (settings : Settings K) {session : Session K} {f : Frame}
    (htime : TimeKnown session f) {t₁ t₂ : K} (ht : t₂ ≤ t₁) (hpos : 0 < t₂) (c₁ c₂ : K) :
    (tickLaps settings (withEstimates session t₁ c₁) f).remainingLapsMax ≤
      (tickLaps settings (withEstimates session t₂ c₂) f).remainingLapsMax := by
  obtain ⟨hle, hneg⟩ := timeBlock_mono htime ht hpos c₁ c₂
  rw [remainingLapsMax_tickLaps, remainingLapsMax_tickLaps, lapLimitLaps_withEstimates,
    lapLimitLaps_withEstimates]
  cases lapLimitLaps settings session f with
  | none => exact hle
  | some laps =>
    simp only [hneg]
    split
    · exact le_rfl
    · exact min_le_min_right laps hle

omit [FloorRing K] in
theorem fuelRequiredLitres_mono {e : K} (he : 0 ≤ e) {c₁ c₂ laps₁ laps₂ : K} (hc : 0 ≤ c₁)
    (hle : c₁ ≤ c₂) (hlaps : laps₁ ≤ laps₂) (maxFuel level : K) :
    (fuelValues e c₁ maxFuel level laps₁).fuelRequiredLitres ≤
      (fuelValues e c₂ maxFuel level laps₂).fuelRequiredLitres := by
  have hmin : (0 : K) < minFuelLitres := by unfold minFuelLitres; positivity
  by_cases h1 : laps₁ ≤ 0
  · rw [fuelRequiredLitres_of_nonpos _ _ _ _ h1]
    by_cases h2 : laps₂ ≤ 0
    · rw [fuelRequiredLitres_of_nonpos _ _ _ _ h2]
    · -- No laps to go ask for no fuel, and laps to go for some.
      rw [fuelRequiredLitres_eq _ _ _ _ (not_le.mp h2)]
      have hprod : 0 ≤ (laps₂ + e) * c₂ := by
        have hsum : 0 ≤ laps₂ + e := by linarith
        exact mul_nonneg hsum (hc.trans hle)
      linarith
  · rw [fuelRequiredLitres_eq _ _ _ _ (not_le.mp h1),
      fuelRequiredLitres_eq _ _ _ _ ((not_le.mp h1).trans_le hlaps)]
    have hsum : 0 ≤ laps₂ + e := by linarith
    gcongr

/-- What the tick asks for, had the session these estimates. -/
def fuelRequiredFor (extra : K) (settings : Settings K) (session : Session K) (f : Frame)
    (lapTime lapFuel : K) : K :=
  (tickValues extra settings (withEstimates session lapTime lapFuel) f).fuel.fuelRequiredLitres

theorem fuelRequiredFor_mono {extra : K} (he : 0 ≤ extra) (settings : Settings K) {session : Session K}
    {f : Frame} (htime : TimeKnown session f) {t₁ t₂ c₁ c₂ : K} (ht : t₂ ≤ t₁) (hpos : 0 < t₂)
    (hc : 0 ≤ c₁) (hle : c₁ ≤ c₂) :
    fuelRequiredFor extra settings session f t₁ c₁ ≤ fuelRequiredFor extra settings session f t₂ c₂ :=
  fuelRequiredLitres_mono he hc hle (remainingLapsMax_mono settings htime ht hpos c₁ c₂) _ _

/-! ## The estimates and the medians -/

theorem fuelRequiredFor_medians_le {extra : K} (he : 0 ≤ extra) (settings : Settings K)
    {session : Session K} {f : Frame} (htime : TimeKnown session f) (d : LapFuelData K)
    (h : Recorded d.mDataLapTimeList d.mDataLapFuelList) :
    fuelRequiredFor extra settings session f d.medianValues.medLapTime d.medianValues.medFuel ≤
      fuelRequiredFor extra settings session f d.calculatedLapTime d.calculatedLapFuel := by
  obtain ⟨ht, hf, hlen⟩ := h
  by_cases hnil : d.mDataLapTimeList = []
  · have hnil' : d.mDataLapFuelList = [] := by
      rw [← List.length_eq_zero_iff, ← hlen, hnil, List.length_nil]
    have hmed : d.medianValues.medLapTime = 0 ∧ d.medianValues.medFuel = 0 := by
      simp [medianValues, calcMedianValues, calcMedianTwice, calcMedian, hnil, hnil']
    rw [hmed.1, hmed.2, calculatedLapTime_nil d hnil, calculatedLapFuel_nil d hnil']
  · have hnil' : d.mDataLapFuelList ≠ [] := by
      rwa [← List.length_pos_iff, ← hlen, List.length_pos_iff]
    obtain ⟨-, htle, htpos⟩ := lapTime_within d hnil ht
    obtain ⟨hfle, -, -⟩ := lapFuel_within d hnil' hf
    have hmed : 0 < d.medianValues.medFuel := (calcMedianTwice_bounds _ hnil' hf (0, 0)).1
    exact fuelRequiredFor_mono he settings htime htle htpos hmed.le hfle

/-- **Conservative estimates.** Lower lap times and higher lap fuels never ask for less fuel. So the
estimates never ask for less than the medians that they move away from by one deviation. -/
theorem fuelRequired_mono (extra : K) (settings : Settings K) (session : Session K) (f : Frame)
    (he : 0 ≤ extra) (htime : TimeKnown session f) :
    (∀ t₁ t₂ c₁ c₂ : K, t₂ ≤ t₁ → 0 < t₂ → 0 ≤ c₁ → c₁ ≤ c₂ →
      fuelRequiredFor extra settings session f t₁ c₁ ≤ fuelRequiredFor extra settings session f t₂ c₂) ∧
    ∀ (strDataDir : Str) (fileKey : Str → Str) (es : List (LapFuel.Event K)) (maxFuel : K),
      let d := (run LapFuel.step (State.init strDataDir { fileKey }) es).data
      let estimates := d.calcOptimalLapTimeFuelValues maxFuel
      fuelRequiredFor extra settings session f d.medianValues.medLapTime d.medianValues.medFuel ≤
        fuelRequiredFor extra settings session f estimates.1 estimates.2.1 := by
  constructor
  · intro t₁ t₂ c₁ c₂ ht hpos hc hle
    exact fuelRequiredFor_mono he settings htime ht hpos hc hle
  · intro strDataDir fileKey es maxFuel
    have hinv : Inv (run LapFuel.step (State.init strDataDir { fileKey } : State K) es) :=
      run_invariant_of_step inv_step es (inv_init strDataDir fileKey)
    exact fuelRequiredFor_medians_le he settings htime _ hinv.lists

/-- An hour of racing on a track where a lap takes 100 seconds and 2 litres. -/
def hourSession : Session ℚ where
  gSessionTotalLaps := unlimited
  gSessionTotalTime := "3600.0000 sec".toList
  gMaxFuelLitres := 60
  gEstimatedLapTime := 100
  gEstimatedLapFuelLitres := 2
  lapFuel := .init Session.dataDir {}

theorem timeKnown_hourSession : TimeKnown hourSession practiceFrame := fun _ => by
  constructor <;> decide +kernel

theorem fuelRequired_mono_sample :
    fuelRequiredFor 1 defaultSettings hourSession practiceFrame 100 2 ≤
      fuelRequiredFor 1 defaultSettings hourSession practiceFrame 90 (5 / 2) :=
  (fuelRequired_mono 1 defaultSettings hourSession practiceFrame (by norm_num)
    timeKnown_hourSession).1 100 90 2 (5 / 2) (by norm_num) (by norm_num) (by norm_num) (by norm_num)

/-! ## A race against the time -/

end

end IrPitCrew.Plugin.FuelRequired
