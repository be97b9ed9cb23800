import IrPitCrew.Plugin.Loop
import Mathlib.Data.Rat.Floor

/-!
# The laps to go, from the limits that are known

A limit of time and a limit of laps may each be known. The countdown of a timed
session stops at 0 also when its laps are not known, and the 0 then counts as a
limit.
-/

open IrPitCrew.Text IrPitCrew.Decimal IrPitCrew.Rounding IrPitCrew.WebServer IrPitCrew.Run
open IrPitCrew.LapFuel (Disk)

namespace IrPitCrew.Plugin

variable {K : Type*} [Field K] [LinearOrder K] [FloorRing K]

/-! ## The two limits -/

/-- The laps in the time to go. -/
def timeLimitLaps (session : Session K) (f : Frame) : Option K :=
  if session.gSessionTotalTime ≠ unlimited ∧ f.sessionTimeRemain < (irsdkUnlimitedTime : K) ∧
      session.gEstimatedLapTime > 0 then
    some (max 0 (f.sessionTimeRemain / session.gEstimatedLapTime + additionalLapsAtEnd))
  else none

def IsLapLimitKnown (session : Session K) (f : Frame) : Prop :=
  session.gSessionTotalLaps ≠ unlimited ∧ f.sessionLapsRemainEx ≠ irsdkUnlimitedLaps

instance (session : Session K) (f : Frame) : Decidable (IsLapLimitKnown session f) :=
  inferInstanceAs (Decidable (_ ∧ _))

/-- The laps of the session or of the driver, as configured. -/
def raceLapsRemain (settings : Settings K) (session : Session K) (f : Frame) : ℤ :=
  if settings.gIsUseDriverLapsRemaining then driverLapsRemain (atoi session.gSessionTotalLaps) f.lap
  else f.sessionLapsRemainEx

def lapLimitLaps (settings : Settings K) (session : Session K) (f : Frame) : Option K :=
  if IsLapLimitKnown session f then some (raceLapsRemain settings session f : ℤ) else none

/-- What the countdown of a timed session shows when its laps are not known. -/
def unknownTimeLaps (gEstimatedLapTime : K) : K :=
  if gEstimatedLapTime > 0 then max 0 (additionalLapsAtEnd - 1 / gEstimatedLapTime) else 0

/-- -1 stands for no known limit, and for nothing else. -/
def IsSmallestKnown (timeLaps lapLaps : Option K) (remainingLapsMax : K) : Prop :=
  remainingLapsMax = (Option.merge min timeLaps lapLaps).getD (-1) ∧
  (remainingLapsMax = -1 ↔ timeLaps = none ∧ lapLaps = none)

/-- The limit of laps is not one below 0. In a timed session the laps in the time to go are known,
or the limit of laps is known and not above what the countdown shows. -/
def LimitsClear (settings : Settings K) (session : Session K) (f : Frame) : Prop :=
  lapLimitLaps settings session f ≠ some (-1) ∧
  (session.gSessionTotalTime ≠ unlimited → timeLimitLaps session f = none →
    ∃ laps ∈ lapLimitLaps settings session f, laps ≤ unknownTimeLaps session.gEstimatedLapTime)

/-! ## What the two blocks compute -/

omit [FloorRing K] in
theorem atLeastZero_eq (x : K) : atLeastZero x = max 0 x := by
  unfold atLeastZero
  split
  · rename_i h
    rw [max_eq_left h.le]
  · rename_i h
    rw [max_eq_right (not_lt.mp h)]

/-- The laps after the first block. -/
def timeBlock (session : Session K) (f : Frame) : SessionLaps K :=
  timeLaps session.gSessionTotalTime session.gEstimatedLapTime f.sessionTimeRemain

/-- The second block takes over the laps of the first, or both values are the laps to race. -/
theorem tickLaps_cases (settings : Settings K) (session : Session K) (f : Frame) :
    (¬ IsLapLimitKnown session f ∧ tickLaps settings session f = timeBlock session f) ∨
    (IsLapLimitKnown session f ∧
      ((timeBlock session f).remainingLapsMax < 0 ∨
        (timeBlock session f).remainingLapsMax > raceLapsRemain settings session f) ∧
      (tickLaps settings session f).remainingLapsMin = raceLapsRemain settings session f ∧
      (tickLaps settings session f).remainingLapsMax = raceLapsRemain settings session f) ∨
    (IsLapLimitKnown session f ∧ 0 ≤ (timeBlock session f).remainingLapsMax ∧
      (timeBlock session f).remainingLapsMax ≤ raceLapsRemain settings session f ∧
      tickLaps settings session f = timeBlock session f) := by
  have hrace : ((raceLapsRemain settings session f : ℤ) : K) =
      if settings.gIsUseDriverLapsRemaining then
        ((driverLapsRemain (atoi session.gSessionTotalLaps) f.lap : ℤ) : K)
      else ((f.sessionLapsRemainEx : ℤ) : K) := by
    unfold raceLapsRemain
    split <;> rfl
  unfold tickLaps sessionLaps
  by_cases hknown : IsLapLimitKnown session f
  · right
    have hlimits := hknown
    unfold IsLapLimitKnown at hlimits
    simp only [if_pos hlimits, ← hrace]
    by_cases hless : (timeBlock session f).remainingLapsMax < 0 ∨
        (timeBlock session f).remainingLapsMax > raceLapsRemain settings session f
    · left
      have hless' := hless
      unfold timeBlock at hless'
      simp only [if_pos hless']
      exact ⟨hknown, hless, trivial, trivial⟩
    · right
      have hless' := hless
      unfold timeBlock at hless'
      simp only [if_neg hless']
      rw [not_or, not_lt, gt_iff_lt, not_lt] at hless
      exact ⟨hknown, hless.1, hless.2, rfl⟩
  · left
    have hlimits := hknown
    unfold IsLapLimitKnown at hlimits
    refine ⟨hknown, ?_⟩
    simp only [if_neg hlimits]
    rfl

theorem remainingLapsMax_tickLaps (settings : Settings K) (session : Session K) (f : Frame) :
    (tickLaps settings session f).remainingLapsMax =
      match lapLimitLaps settings session f with
      | none => (timeBlock session f).remainingLapsMax
      | some laps =>
        if (timeBlock session f).remainingLapsMax < 0 then laps
        else min (timeBlock session f).remainingLapsMax laps := by
  unfold lapLimitLaps
  rcases tickLaps_cases settings session f with
    ⟨hknown, hv⟩ | ⟨hknown, hless, -, hv⟩ | ⟨hknown, h0, hle, hv⟩
  · rw [if_neg hknown, hv]
  · rw [if_pos hknown, hv]
    dsimp only
    split
    · rfl
    · rename_i hneg
      rw [min_eq_right (hless.resolve_left hneg).le]
  · rw [if_pos hknown, hv]
    dsimp only
    rw [if_neg (not_lt.mpr h0), min_eq_left hle]

variable [IsStrictOrderedRing K]

/-- The countdown is -1 without a limit of time, and not negative with one. -/
theorem timeBlock_cases (session : Session K) (f : Frame) :
    ((timeBlock session f).remainingLapsMax = -1 ∧ session.gSessionTotalTime = unlimited ∧
      timeLimitLaps session f = none) ∨
    (0 ≤ (timeBlock session f).remainingLapsMin ∧ 0 ≤ (timeBlock session f).remainingLapsMax ∧
      session.gSessionTotalTime ≠ unlimited ∧
      (timeLimitLaps session f = some (timeBlock session f).remainingLapsMax ∨
        timeLimitLaps session f = none ∧
          (timeBlock session f).remainingLapsMax = unknownTimeLaps session.gEstimatedLapTime)) := by
  unfold timeBlock timeLaps timeLimitLaps
  by_cases htotal : session.gSessionTotalTime = unlimited
  · simp only [htotal, ne_eq, not_true_eq_false, false_and, if_false]
    exact .inl ⟨trivial, trivial, trivial⟩
  · right
    simp only [ne_eq, htotal, not_false_eq_true, if_true, true_and, atLeastZero_eq]
    refine ⟨le_max_left _ _, le_max_left _ _, ?_⟩
    unfold unknownTimeLaps
    by_cases hlap : session.gEstimatedLapTime > 0
    · simp only [if_pos hlap]
      by_cases hremain : f.sessionTimeRemain < (irsdkUnlimitedTime : K)
      · simp [hremain, hlap]
      · right
        simp only [hremain, false_and, if_false, true_and]
        rw [sub_eq_neg_add, neg_div]
    · right
      rw [if_neg hlap, if_neg hlap, if_neg (fun h => hlap h.2)]
      exact ⟨rfl, max_eq_left (by norm_num)⟩

/-! ## The smallest known limit -/

theorem isSmallestKnown_iff (settings : Settings K) (session : Session K) (f : Frame) :
    IsSmallestKnown (timeLimitLaps session f) (lapLimitLaps settings session f)
        (tickLaps settings session f).remainingLapsMax ↔ LimitsClear settings session f := by
  have hne (laps : K) (h : 0 ≤ laps) : laps ≠ -1 := by
    rintro rfl
    linarith
  unfold IsSmallestKnown LimitsClear
  rw [remainingLapsMax_tickLaps]
  generalize lapLimitLaps settings session f = lapLaps
  rcases timeBlock_cases session f with ⟨hmax, htotal, htime⟩ | ⟨-, hmax, htotal, htime⟩
  · -- No limit of time: only a limit of -1 laps would be taken for none.
    rw [htime, hmax, htotal]
    cases lapLaps with
    | none => simp
    | some laps => simp
  · cases lapLaps with
    | none =>
      rcases htime with htime | ⟨htime, -⟩
      · simp [htime, hne _ hmax]
      · simp [htime, htotal, hne _ hmax]
    | some laps =>
      have hmin : min (timeBlock session f).remainingLapsMax laps = -1 ↔ laps = -1 := by
        constructor
        · intro h
          rcases min_choice (timeBlock session f).remainingLapsMax laps with hleft | hright
          · exact absurd (hleft.symm.trans h) (hne _ hmax)
          · exact hright.symm.trans h
        · rintro rfl
          exact min_eq_right (by linarith)
      dsimp only
      rw [if_neg (not_lt.mpr hmax), hmin]
      rcases htime with htime | ⟨htime, hunknown⟩
      · simp [htime]
      · rw [htime, hunknown]
        simp [htotal, and_comm]

omit [IsStrictOrderedRing K] in
/-- The values in the map, for a simulator without variables of these names. -/
theorem find_remainingLaps (settings : Settings K) (session : Session K) (laps : SessionLaps K)
    (fuel : FuelValues K) (dataMap : StrMap) :
    (dataMap.find "remainingLapsMin".toList = none →
      (tickDataMap settings session laps fuel dataMap).find "remainingLapsMin".toList =
        some (printNumber (roundPlaces precision laps.remainingLapsMin))) ∧
    (dataMap.find "remainingLapsMax".toList = none →
      (tickDataMap settings session laps fuel dataMap).find "remainingLapsMax".toList =
        some (printNumber (roundPlaces precision laps.remainingLapsMax))) := by
  unfold tickDataMap addDataVarToMap
  dsimp only
  constructor
  · intro h
    iterate 10 rw [find_addStringDataVarToMap_of_ne _ _ (by decide)]
    apply find_addStringDataVarToMap_self
    iterate 5 rw [find_addStringDataVarToMap_of_ne _ _ (by decide)]
    exact h
  · intro h
    iterate 9 rw [find_addStringDataVarToMap_of_ne _ _ (by decide)]
    apply find_addStringDataVarToMap_self
    iterate 6 rw [find_addStringDataVarToMap_of_ne _ _ (by decide)]
    exact h

/-- **The smallest known limit.** At a tick the laps to go are the smallest of the known limits, and
-1 exactly without one, if and only if the limits are clear. -/
theorem remainingLaps_smallest_iff (l l' : Loop K) (f : Frame) (v : TickValues K)
    (h : step l (.dataReady f) = (l', .ticked v)) :
    (IsSmallestKnown (timeLimitLaps (l.session.tick f) f)
        (lapLimitLaps l.settings (l.session.tick f) f) v.laps.remainingLapsMax ↔
      LimitsClear l.settings (l.session.tick f) f) ∧
    (f.dataMap.find "remainingLapsMax".toList = none →
      v.dataStrMap.find "remainingLapsMax".toList =
        some (printNumber (roundPlaces precision v.laps.remainingLapsMax))) := by
  obtain ⟨-, -, rfl⟩ := tick_of_ticked h
  exact ⟨isSmallestKnown_iff l.settings _ f, (find_remainingLaps _ _ _ _ _).2⟩

/-! ## A session on a new track -/

def sessionPaths (sessionLaps sessionTime : String) : List (String × String) :=
  [("WeekendInfo:TrackName:", "spa"),
   ("DriverInfo:DriverCarIdx:", "0"),
   ("DriverInfo:Drivers:CarIdx:\x7b0\x7dCarPath:", "gt3"),
   ("DriverInfo:DriverCarFuelMaxLtr:", "60"),
   ("SessionInfo:Sessions:SessionNum:\x7b0\x7dSessionLaps:", sessionLaps),
   ("SessionInfo:Sessions:SessionNum:\x7b0\x7dSessionTime:", sessionTime)]

def sessionFrame (sessionLaps sessionTime lapsRemain timeRemain lap : String) : Frame where
  bufLen := 1
  parseYaml path := ((sessionPaths sessionLaps sessionTime).lookup (String.ofList path)).map String.toList
  dataMap :=
    { entries :=
        [("FuelLevel".toList, "20".toList), ("Lap".toList, lap.toList),
         ("LapLastLapTime".toList, "-1".toList), ("SessionLapsRemainEx".toList, lapsRemain.toList),
         ("SessionNum".toList, "0".toList), ("SessionTimeRemain".toList, timeRemain.toList)]
      sorted := by
        simp only [List.map_cons, List.map_nil]
        decide }
  fuelMessage := []
  status := {}

def practiceFrame : Frame := sessionFrame "unlimited" "3600.0000 sec" "32767" "1800" "1"

def raceFrame : Frame := sessionFrame "10" "unlimited" "7" "604800" "4"

theorem isSome_start : (start none {} : Option (Loop ℚ)).isSome = true := by decide +kernel

/-- Started without files, and connected. -/
def connectedLoop (config : Str) : Loop ℚ :=
  run after ((start none {}).get isSome_start) [.editConfig (some config), .dataReady practiceFrame]

theorem remainingLaps_smallest_race :
    ∃ l v, step (connectedLoop []) (.dataReady raceFrame) = (l, .ticked v) ∧
      v.laps.remainingLapsMax = 7 := by
  have hstep := step_of_tick (connectedLoop []) raceFrame (by decide +kernel)
  refine ⟨_, _, hstep, ?_⟩
  have hclear : LimitsClear (connectedLoop []).settings ((connectedLoop []).session.tick raceFrame)
      raceFrame := by
    constructor
    · decide +kernel
    · intro h
      exact absurd h (by decide +kernel)
  rw [((remainingLaps_smallest_iff (connectedLoop []) _ raceFrame _ hstep).1.mpr hclear).1]
  decide +kernel

/-- Without a lap on this track neither limit is known, and no lap is to go. -/
theorem remainingLaps_unknown :
    ∃ l v, step (connectedLoop []) (.dataReady practiceFrame) = (l, .ticked v) ∧
      v.laps.remainingLapsMax = 0 ∧
      ¬ IsSmallestKnown (timeLimitLaps ((connectedLoop []).session.tick practiceFrame) practiceFrame)
        (lapLimitLaps (connectedLoop []).settings ((connectedLoop []).session.tick practiceFrame)
          practiceFrame) v.laps.remainingLapsMax := by
  refine ⟨_, _, step_of_tick (connectedLoop []) practiceFrame (by decide +kernel), ?_, ?_⟩
  · decide +kernel
  · unfold IsSmallestKnown
    decide +kernel

end IrPitCrew.Plugin
