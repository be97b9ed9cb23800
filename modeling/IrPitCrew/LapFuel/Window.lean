import IrPitCrew.LapFuel.Estimate
import Mathlib.Data.List.DropRight
import Mathlib.Data.Rat.Floor

/-!
# The size of the history

A lap is added after the oldest is dropped, and the oldest is dropped only from a
list that is already too long. One lap goes for one that comes, so a list that
reached the number of items to keep goes one over it, and a longer one stays.
-/

open IrPitCrew.Text IrPitCrew.Run IrPitCrew.LapFuel.LapFuelData

namespace IrPitCrew.LapFuel.Window

variable {K : Type*}

/-! ## One list -/

/-- The new list is the most recent of the old entries and the new one, as many as there are to
keep. -/
def IsWindow (dataCountMax : Nat) (old : List K) (lap : K) (new : List K) : Prop :=
  new = (old ++ [lap]).rtake (min dataCountMax (old.length + 1)) ∧ new.length ≤ dataCountMax

instance [DecidableEq K] (n : Nat) (old : List K) (lap : K) (new : List K) :
    Decidable (IsWindow n old lap new) :=
  inferInstanceAs (Decidable (_ ∧ _))

theorem dropOldest_of_le {n : Nat} {l : List K} (h : l.length ≤ n) : dropOldest n l = l :=
  if_neg fun hlong => absurd hlong.2 (not_lt.mpr h)

theorem length_dropOldest_concat_of_lt {n : Nat} {l : List K} (hn : 0 < n) (h : n < l.length) (x : K) :
    (dropOldest n l ++ [x]).length = l.length := by
  rw [dropOldest, if_pos ⟨hn, h⟩, List.length_append, List.length_drop, List.length_singleton]
  omega

theorem isWindow_dropOldest_iff {n : Nat} (hn : 0 < n) (l : List K) (x : K) :
    IsWindow n l x (dropOldest n l ++ [x]) ↔ l.length < n := by
  constructor
  · rintro ⟨-, hlen⟩
    by_contra hlong
    rcases Nat.eq_or_lt_of_le (not_lt.mp hlong) with heq | hlt
    · rw [dropOldest_of_le heq.ge, List.length_append, List.length_singleton] at hlen
      omega
    · rw [length_dropOldest_concat_of_lt hn hlt] at hlen
      omega
  · intro h
    have hall : min n (l.length + 1) = (l ++ [x]).length := by
      rw [List.length_append, List.length_singleton]
      omega
    rw [dropOldest_of_le h.le]
    constructor
    · rw [hall, List.rtake, Nat.sub_self, List.drop_zero]
    · rw [List.length_append, List.length_singleton]
      omega

/-! ## One call -/

variable [Field K] [LinearOrder K]

/-- The call adds a lap: there is a level and a time, and the level went down. -/
def IsLap (d : LapFuelData K) (lapLastLapTime fuelLevel : K) : Prop :=
  0 ≤ fuelLevel ∧ 0 < lapLastLapTime ∧ fuelLevel < d.mLastFuelValue

theorem addLapData_eq_true_iff (d : LapFuelData K) (time fuel : K) :
    (d.addLapData time fuel).1 = true ↔ IsLap d time fuel := by
  unfold addLapData IsLap
  by_cases hfuel : fuel < 0
  · rw [if_pos hfuel]
    exact iff_of_false Bool.false_ne_true fun h => absurd h.1 (not_le.mpr hfuel)
  · by_cases htime : time ≤ 0
    · rw [if_neg hfuel, if_pos htime]
      exact iff_of_false Bool.false_ne_true fun h => absurd h.2.1 (not_lt.mpr htime)
    · by_cases hlast : fuel ≥ d.mLastFuelValue
      · rw [if_neg hfuel, if_neg htime, if_pos hlast]
        exact iff_of_false Bool.false_ne_true fun h => absurd h.2.2 (not_lt.mpr hlast)
      · rw [if_neg hfuel, if_neg htime, if_neg hlast]
        exact iff_of_true rfl ⟨not_lt.mp hfuel, not_le.mp htime, not_le.mp hlast⟩

theorem addLapData_of_isLap {d : LapFuelData K} {time fuel : K} (h : IsLap d time fuel) :
    (d.addLapData time fuel).2.mDataLapTimeList =
      dropOldest d.mDataCountMax d.mDataLapTimeList ++ [time] ∧
    (d.addLapData time fuel).2.mDataLapFuelList =
      dropOldest d.mDataCountMax d.mDataLapFuelList ++ [d.mLastFuelValue - fuel] := by
  obtain ⟨hfuel, htime, hlast⟩ := h
  unfold addLapData
  rw [if_neg (not_lt.mpr hfuel), if_neg (not_le.mpr htime), if_neg (not_le.mpr hlast)]
  exact ⟨rfl, rfl⟩

/-! ## Runs -/

variable [FloorRing K]

/-- A call that adds a lap, with a number of items to keep, leaves windows of both lists. -/
def KeepsWindow (s : State K) : Event K → Prop
  | .addLapData time fuel =>
    let d := s.data
    let added := d.addLapData time fuel
    0 < d.mDataCountMax → d.mDataLapTimeList.length = d.mDataLapFuelList.length → added.1 = true →
      IsWindow d.mDataCountMax d.mDataLapTimeList time added.2.mDataLapTimeList ∧
      IsWindow d.mDataCountMax d.mDataLapFuelList (d.mLastFuelValue - fuel) added.2.mDataLapFuelList
  | _ => True

/-- A lap is only added to lists that hold fewer laps than there are to keep. -/
def HasRoom (s : State K) : Event K → Prop
  | .addLapData time fuel =>
    let d := s.data
    0 < d.mDataCountMax → d.mDataLapTimeList.length = d.mDataLapFuelList.length → IsLap d time fuel →
      d.mDataLapTimeList.length < d.mDataCountMax
  | _ => True

omit [FloorRing K] in
theorem keepsWindow_iff (s : State K) (e : Event K) : KeepsWindow s e ↔ HasRoom s e := by
  cases e with
  | addLapData time fuel =>
    simp only [KeepsWindow, HasRoom, addLapData_eq_true_iff]
    refine forall_congr' fun hmax => forall_congr' fun hlen => forall_congr' fun hlap => ?_
    obtain ⟨htimes, hfuels⟩ := addLapData_of_isLap hlap
    rw [htimes, hfuels, isWindow_dropOldest_iff hmax, isWindow_dropOldest_iff hmax, ← hlen, and_self]
  | _ => exact Iff.rfl

/-- **History window.** From any files, the lists stay windows along a run exactly as long as every
lap is added to lists with fewer laps than there are to keep. -/
theorem window_kept_iff (strDataDir : Str) (disk : Disk) (es : List (Event K)) :
    StepsOk step KeepsWindow (State.init strDataDir disk) es ↔
      StepsOk step HasRoom (State.init strDataDir disk) es :=
  stepsOk_congr keepsWindow_iff _ es

/-- With the same fuel in every lap the estimate is that fuel. -/
theorem calculatedLapFuel_of_forall_eq [IsStrictOrderedRing K] (d : LapFuelData K) {lapFuel : K}
    (hne : d.mDataLapFuelList ≠ []) (hpos : 0 < lapFuel) (h : ∀ f ∈ d.mDataLapFuelList, f = lapFuel) :
    d.calculatedLapFuel = lapFuel := by
  have hall : ∀ f ∈ d.mDataLapFuelList, 0 < f := fun f hf => (h f hf).symm ▸ hpos
  obtain ⟨-, hmad, ⟨lo, hlo, hlow⟩, ⟨hi, hhi, hhigh⟩⟩ :=
    Estimate.calcMedianTwice_bounds _ hne hall (0, 0)
  rw [h lo hlo] at hlow
  rw [h hi hhi] at hhigh
  rw [Estimate.calculatedLapFuel_eq d hne hall]
  change (calcMedianTwice d.mDataLapFuelList (0, 0)).1 + (calcMedianTwice d.mDataLapFuelList (0, 0)).2 = _
  linarith

/-- Ten laps of 8 litres each. -/
def tenLaps : List (Event ℚ) :=
  .addLapData 90 100 :: (List.range 10).map fun i => .addLapData 90 (92 - 8 * i)

def tenLapsState : State ℚ := run step (State.init "irPitCrew".toList {}) tenLaps

/-- Ten laps are to be kept of a car with 60 litres in a full tank. The eleventh stays beside them. -/
theorem eleven_laps_kept :
    tenLapsState.data.calcDataCountMax 60 = 10 ∧ tenLapsState.data.mDataLapTimeList.length = 10 ∧
    ¬ StepsOk step KeepsWindow (State.init "irPitCrew".toList {})
      (tenLaps ++ [.calcOptimal 60, .addLapData 90 12]) := by
  have hfuels : tenLapsState.data.mDataLapFuelList = List.replicate 10 8 := by decide +kernel
  have htimes : tenLapsState.data.mDataLapTimeList = List.replicate 10 90 := by decide +kernel
  have hlevel : tenLapsState.data.mLastFuelValue = 20 := by decide +kernel
  have hfuel : tenLapsState.data.calculatedLapFuel = 8 := by
    apply calculatedLapFuel_of_forall_eq
    · rw [hfuels]
      decide
    · norm_num
    · intro f hf
      rw [hfuels] at hf
      exact List.eq_of_mem_replicate hf
  have hmax : tenLapsState.data.calcDataCountMax 60 = 10 := by
    simp only [calcDataCountMax, hfuel]
    decide +kernel
  refine ⟨hmax, by rw [htimes, List.length_replicate], fun hok => ?_⟩
  obtain ⟨-, -, hkeeps, -⟩ := (stepsOk_append _ _ _).mp hok
  have hlap : IsLap (step tenLapsState (.calcOptimal 60)).data 90 12 := by
    refine ⟨by norm_num, by norm_num, ?_⟩
    change 12 < tenLapsState.data.mLastFuelValue
    rw [hlevel]
    norm_num
  have hroom := (keepsWindow_iff (step tenLapsState (.calcOptimal 60)) (.addLapData 90 12)).mp hkeeps
  simp only [HasRoom, step, calcOptimalLapTimeFuelValues, hmax, htimes, hfuels] at hroom
  exact absurd (hroom (by decide) (by decide) hlap) (by decide)

end IrPitCrew.LapFuel.Window
