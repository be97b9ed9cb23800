import IrPitCrew.Plugin.RemainingLaps

/-!
# Laps, as the main loop finds them

A lap has ended when the last lap time changes. The level of fuel is kept from
the last tick that found a lap, so a lap that is missed counts for the next one.
-/

open IrPitCrew.Text IrPitCrew.WebServer IrPitCrew.LapFuel IrPitCrew.LapFuel.LapFuelData

namespace IrPitCrew.Plugin

variable {K : Type*} [Field K] [LinearOrder K]

/-! ## The laps of a driver -/

/-- The ticks between two ends of a lap: the first one after the lap, and the others. -/
structure LapTicks (K : Type*) [Field K] [LinearOrder K] where
  first : Frame
  rest : List Frame
  pos : 0 < (first.lapLastLapTime : K)
  same : ∀ f ∈ rest, (f.lapLastLapTime : K) = first.lapLastLapTime

namespace LapTicks

def ticks (lap : LapTicks K) : List Frame := lap.first :: lap.rest

def time (lap : LapTicks K) : K := lap.first.lapLastLapTime

def level (lap : LapTicks K) : K := lap.first.fuelLevelLitres

end LapTicks

variable [FloorRing K]

namespace Session

/-! ## What a tick appends -/

/-- The fuel that the tick appends to the history. -/
def appendedFuel (s : Session K) (f : Frame) : Option K :=
  if s.gOldLapLastLapTime ≠ f.lapLastLapTime ∧
      (s.lapFuel.data.addLapData f.lapLastLapTime f.fuelLevelLitres).1 then
    (s.tick f).lapFuel.data.mDataLapFuelList.getLast?
  else none

def afterTicks (s : Session K) (ticks : List Frame) : Session K := ticks.foldl tick s

def appendedFuels (s : Session K) : List Frame → List K
  | [] => []
  | f :: ticks => (s.appendedFuel f).toList ++ (s.tick f).appendedFuels ticks

/-- Each lap after the first appends what the fuel level went down in it. -/
def LapsAttributed (s : Session K) (laps : List (LapTicks K)) : Prop :=
  ∀ before p q after, laps = before ++ p :: q :: after →
    (s.afterTicks ((before ++ [p]).flatMap LapTicks.ticks)).appendedFuels q.ticks = [p.level - q.level]

/-- No lap takes as long as the one before it, and the tank does not run below 0. The first lap may
take as long as the lap before the session when the level kept is already its own. -/
def LapsDistinct (s : Session K) : List (LapTicks K) → Prop
  | p :: q :: laps =>
    (s.gOldLapLastLapTime ≠ p.time ∨ s.lapFuel.data.mLastFuelValue = p.level) ∧
    (p :: q :: laps).IsChain (fun p q => p.time ≠ q.time) ∧ ∀ lap ∈ q :: laps, 0 ≤ lap.level
  | _ => True

/-! ## One tick -/

omit [FloorRing K] in
theorem mLastFuelValue_addLapData (d : LapFuelData K) (time level : K) :
    (d.addLapData time level).2.mLastFuelValue = if level < 0 then -1 else level := by
  unfold addLapData
  split
  · rfl
  · split
    · rfl
    · split <;> rfl

omit [FloorRing K] in
/-- A lap is added with a time, a level, and fuel that was used. -/
theorem addLapData_cases (d : LapFuelData K) (time level : K) :
    ((d.addLapData time level).1 = true ∧ (0 < time ∧ 0 ≤ level ∧ level < d.mLastFuelValue) ∧
      (d.addLapData time level).2.mDataLapFuelList =
        dropOldest d.mDataCountMax d.mDataLapFuelList ++ [d.mLastFuelValue - level]) ∨
    ((d.addLapData time level).1 = false ∧ ¬ (0 < time ∧ 0 ≤ level ∧ level < d.mLastFuelValue) ∧
      (d.addLapData time level).2.mDataLapFuelList = d.mDataLapFuelList) := by
  unfold addLapData
  split
  · rename_i hlevel
    exact .inr ⟨rfl, fun h => absurd hlevel (not_lt.mpr h.2.1), rfl⟩
  · rename_i hlevel
    split
    · rename_i htime
      exact .inr ⟨rfl, fun h => absurd htime (not_le.mpr h.1), rfl⟩
    · rename_i htime
      split
      · rename_i hlast
        exact .inr ⟨rfl, fun h => absurd hlast (not_le.mpr h.2.2), rfl⟩
      · rename_i hlast
        exact .inl ⟨rfl, ⟨not_le.mp htime, not_lt.mp hlevel, not_le.mp hlast⟩, rfl⟩

/-- A tick with a new time calls `AddLapData`. The estimates and the file do not touch the lists. -/
theorem lapFuel_tick_of_ne (s : Session K) (f : Frame) (h : s.gOldLapLastLapTime ≠ f.lapLastLapTime) :
    (s.tick f).gOldLapLastLapTime = f.lapLastLapTime ∧
    (s.tick f).lapFuel.data.mLastFuelValue =
      (s.lapFuel.data.addLapData f.lapLastLapTime f.fuelLevelLitres).2.mLastFuelValue ∧
    (s.tick f).lapFuel.data.mDataLapFuelList =
      (s.lapFuel.data.addLapData f.lapLastLapTime f.fuelLevelLitres).2.mDataLapFuelList := by
  have hnum : (s.updateSessionNum f).gOldLapLastLapTime = s.gOldLapLastLapTime ∧
      (s.updateSessionNum f).lapFuel = s.lapFuel := by
    unfold updateSessionNum
    split <;> exact ⟨rfl, rfl⟩
  unfold tick updateLaps
  rw [hnum.1, hnum.2, if_pos h]
  dsimp only
  split <;> exact ⟨rfl, rfl, rfl⟩

theorem lapFuel_tick_of_eq (s : Session K) (f : Frame) (h : s.gOldLapLastLapTime = f.lapLastLapTime) :
    (s.tick f).gOldLapLastLapTime = s.gOldLapLastLapTime ∧ (s.tick f).lapFuel = s.lapFuel := by
  unfold tick updateLaps updateSessionNum
  split
  · rw [if_neg (not_ne_iff.mpr h)]
    exact ⟨rfl, rfl⟩
  · rw [if_neg (not_ne_iff.mpr h)]
    exact ⟨rfl, rfl⟩

theorem appendedFuel_eq (s : Session K) (f : Frame) :
    s.appendedFuel f =
      if s.gOldLapLastLapTime ≠ f.lapLastLapTime ∧ 0 < (f.lapLastLapTime : K) ∧
          0 ≤ (f.fuelLevelLitres : K) ∧ f.fuelLevelLitres < s.lapFuel.data.mLastFuelValue then
        some (s.lapFuel.data.mLastFuelValue - f.fuelLevelLitres)
      else none := by
  unfold appendedFuel
  by_cases hne : s.gOldLapLastLapTime ≠ f.lapLastLapTime
  · rw [(s.lapFuel_tick_of_ne f hne).2.2]
    rcases addLapData_cases s.lapFuel.data f.lapLastLapTime f.fuelLevelLitres with
      ⟨hadded, hlap, hlist⟩ | ⟨hadded, hlap, -⟩
    · rw [if_pos ⟨hne, hadded⟩, if_pos ⟨hne, hlap⟩, hlist, List.getLast?_concat]
    · rw [if_neg (by simp [hadded]), if_neg (fun h => hlap h.2)]
  · rw [if_neg fun h => hne h.1, if_neg fun h => hne h.1]

/-! ## One lap -/

theorem afterTicks_append (s : Session K) (ticks others : List Frame) :
    s.afterTicks (ticks ++ others) = (s.afterTicks ticks).afterTicks others := List.foldl_append

/-- The ticks after the first one of a lap find no lap. -/
theorem ticks_of_same_time (s : Session K) (ticks : List Frame)
    (h : ∀ f ∈ ticks, (f.lapLastLapTime : K) = s.gOldLapLastLapTime) :
    (s.afterTicks ticks).gOldLapLastLapTime = s.gOldLapLastLapTime ∧
    (s.afterTicks ticks).lapFuel = s.lapFuel ∧ s.appendedFuels ticks = [] := by
  induction ticks generalizing s with
  | nil => exact ⟨rfl, rfl, rfl⟩
  | cons f ticks ih =>
    have htime : s.gOldLapLastLapTime = f.lapLastLapTime := (h f (by simp)).symm
    obtain ⟨hold, hfuel⟩ := s.lapFuel_tick_of_eq f htime
    have hnone : s.appendedFuel f = none := by
      rw [appendedFuel_eq, if_neg fun hlap => hlap.1 htime]
    obtain ⟨hold', hfuel', happended⟩ := ih (s.tick f) fun g hg => by rw [hold]; exact h g (by simp [hg])
    refine ⟨hold'.trans hold, hfuel'.trans hfuel, ?_⟩
    rw [appendedFuels, hnone, happended]
    rfl

theorem gOldLapLastLapTime_tick (s : Session K) (f : Frame) :
    (s.tick f).gOldLapLastLapTime = f.lapLastLapTime := by
  by_cases hne : s.gOldLapLastLapTime ≠ f.lapLastLapTime
  · exact (s.lapFuel_tick_of_ne f hne).1
  · rw [(s.lapFuel_tick_of_eq f (not_ne_iff.mp hne)).1]
    exact not_ne_iff.mp hne

theorem mLastFuelValue_tick (s : Session K) (f : Frame) :
    (s.tick f).lapFuel.data.mLastFuelValue =
      if s.gOldLapLastLapTime ≠ f.lapLastLapTime then
        if f.fuelLevelLitres < (0 : K) then -1 else f.fuelLevelLitres
      else s.lapFuel.data.mLastFuelValue := by
  by_cases hne : s.gOldLapLastLapTime ≠ f.lapLastLapTime
  · rw [if_pos hne, (s.lapFuel_tick_of_ne f hne).2.1, mLastFuelValue_addLapData]
  · rw [if_neg hne, (s.lapFuel_tick_of_eq f (not_ne_iff.mp hne)).2]

/-- **One lap.** Only its first tick counts. -/
theorem afterTicks_lap (s : Session K) (lap : LapTicks K) :
    (s.afterTicks lap.ticks).gOldLapLastLapTime = lap.time ∧
    (s.afterTicks lap.ticks).lapFuel.data.mLastFuelValue =
      (if s.gOldLapLastLapTime ≠ lap.time then if lap.level < 0 then -1 else lap.level
        else s.lapFuel.data.mLastFuelValue) ∧
    s.appendedFuels lap.ticks =
      if s.gOldLapLastLapTime ≠ lap.time ∧ 0 ≤ lap.level ∧ lap.level < s.lapFuel.data.mLastFuelValue then
        [s.lapFuel.data.mLastFuelValue - lap.level] else [] := by
  have hsame : ∀ f ∈ lap.rest, (f.lapLastLapTime : K) = (s.tick lap.first).gOldLapLastLapTime := by
    intro f hf
    rw [gOldLapLastLapTime_tick]
    exact lap.same f hf
  obtain ⟨hold, hfuel, happended⟩ := (s.tick lap.first).ticks_of_same_time lap.rest hsame
  refine ⟨hold.trans (gOldLapLastLapTime_tick s lap.first), ?_, ?_⟩
  · change ((s.tick lap.first).afterTicks lap.rest).lapFuel.data.mLastFuelValue = _
    rw [hfuel]
    exact mLastFuelValue_tick s lap.first
  · rw [LapTicks.ticks, appendedFuels, happended, List.append_nil, appendedFuel_eq]
    simp only [lap.pos, true_and]
    rw [apply_ite Option.toList]
    rfl

/-- **Two laps.** The second one is told exactly when it is seen, and the first one was. -/
theorem appendedFuels_next_iff (s : Session K) (p q : LapTicks K) (h : q.level < p.level) :
    (s.afterTicks p.ticks).appendedFuels q.ticks = [p.level - q.level] ↔
      (s.gOldLapLastLapTime ≠ p.time ∨ s.lapFuel.data.mLastFuelValue = p.level) ∧
      p.time ≠ q.time ∧ 0 ≤ q.level := by
  obtain ⟨hold, hlast, -⟩ := s.afterTicks_lap p
  obtain ⟨-, -, happended⟩ := (s.afterTicks p.ticks).afterTicks_lap q
  rw [happended, hold, hlast]
  by_cases hseen : p.time ≠ q.time ∧ 0 ≤ q.level
  · obtain ⟨htime, hlevel⟩ := hseen
    rw [if_neg (not_lt.mpr (hlevel.trans h.le))]
    simp only [htime, hlevel, ne_eq, not_false_eq_true, true_and, and_true]
    by_cases hfirst : s.gOldLapLastLapTime = p.time
    · -- The level kept is the one before the first lap.
      simp only [hfirst, not_true_eq_false, if_false, false_or]
      constructor
      · intro hfuel
        split at hfuel
        · simpa using hfuel
        · simp at hfuel
      · intro hkept
        rw [hkept, if_pos h]
    · simp [hfirst, h]
  · rw [if_neg fun hq => hseen ⟨hq.1, hq.2.1⟩]
    exact iff_of_false (by simp) fun hq => hseen hq.2

/-! ## All laps -/

theorem lapsAttributed_cons_iff (s : Session K) (p q : LapTicks K) (laps : List (LapTicks K)) :
    s.LapsAttributed (p :: q :: laps) ↔
      (s.afterTicks p.ticks).appendedFuels q.ticks = [p.level - q.level] ∧
      (s.afterTicks p.ticks).LapsAttributed (q :: laps) := by
  constructor
  · intro h
    refine ⟨by simpa using h [] p q laps rfl, ?_⟩
    intro before r t after hlaps
    have hnext := h (p :: before) r t after (by rw [hlaps]; rfl)
    rwa [List.cons_append, List.flatMap_cons, afterTicks_append] at hnext
  · rintro ⟨hfirst, hrest⟩ before r t after hlaps
    cases before with
    | nil =>
      simp only [List.nil_append, List.cons.injEq] at hlaps
      obtain ⟨rfl, rfl, rfl⟩ := hlaps
      simpa using hfirst
    | cons b before =>
      simp only [List.cons_append, List.cons.injEq] at hlaps
      obtain ⟨rfl, hlaps⟩ := hlaps
      rw [List.cons_append, List.flatMap_cons, afterTicks_append]
      exact hrest before r t after hlaps

theorem lapsDistinct_cons_iff (s : Session K) (p q : LapTicks K) (laps : List (LapTicks K)) :
    s.LapsDistinct (p :: q :: laps) ↔
      ((s.gOldLapLastLapTime ≠ p.time ∨ s.lapFuel.data.mLastFuelValue = p.level) ∧
        p.time ≠ q.time ∧ 0 ≤ q.level) ∧
      (s.afterTicks p.ticks).LapsDistinct (q :: laps) := by
  have hold := (s.afterTicks_lap p).1
  cases laps with
  | nil => simp [LapsDistinct]
  | cons r laps =>
    simp only [LapsDistinct, hold, List.isChain_cons_cons, List.mem_cons, forall_eq_or_imp]
    tauto

/-- **Lap fuel.** With a level that goes down from lap to lap, each lap after the first appends the
fuel used in it exactly when the laps are distinct. -/
theorem laps_attributed_iff (s : Session K) (laps : List (LapTicks K))
    (hlevels : laps.IsChain fun p q => q.level < p.level) :
    s.LapsAttributed laps ↔ s.LapsDistinct laps := by
  induction laps generalizing s with
  | nil => simp [LapsAttributed, LapsDistinct]
  | cons p laps ih =>
    cases laps with
    | nil =>
      refine iff_of_true ?_ trivial
      intro before q r after hlaps
      have hlength := congrArg List.length hlaps
      simp at hlength
      omega
    | cons q laps =>
      obtain ⟨hlevel, hrest⟩ := List.isChain_cons_cons.mp hlevels
      rw [lapsAttributed_cons_iff, lapsDistinct_cons_iff, appendedFuels_next_iff s p q hlevel,
        ih (s.afterTicks p.ticks) hrest]

/-! ## Two laps of one time -/

def lapFrame (time level : String) : Frame where
  bufLen := 1
  parseYaml _ := none
  dataMap :=
    { entries := [("FuelLevel".toList, level.toList), ("LapLastLapTime".toList, time.toList)]
      sorted := by
        simp only [List.map_cons, List.map_nil]
        decide }
  fuelMessage := []
  status := {}

def lapTicks (time level : String) (h : 0 < ((lapFrame time level).lapLastLapTime : ℚ)) : LapTicks ℚ where
  first := lapFrame time level
  rest := [lapFrame time level]
  pos := h
  same := by simp

def connectedSession : Session ℚ := (Session.init {}).connect (lapFrame "-1" "50")

def otherTimes : List (LapTicks ℚ) :=
  [lapTicks "90.5" "48" (by decide +kernel), lapTicks "90.25" "45.5" (by decide +kernel)]

theorem laps_attributed_other_times : connectedSession.LapsAttributed otherTimes :=
  (laps_attributed_iff connectedSession otherTimes (by decide +kernel)).mpr
    ⟨.inl (by decide +kernel), by decide +kernel, by decide +kernel⟩

def sameTime : List (LapTicks ℚ) :=
  [lapTicks "90.5" "48" (by decide +kernel), lapTicks "90.5" "45.5" (by decide +kernel)]

/-- The second lap is not found. -/
theorem same_time_lap_missed :
    (sameTime.IsChain fun p q => q.level < p.level) ∧ ¬ connectedSession.LapsAttributed sameTime := by
  refine ⟨by decide +kernel, ?_⟩
  intro h
  have hsecond := h [] _ _ [] rfl
  revert hsecond
  decide +kernel

end Session

end IrPitCrew.Plugin
