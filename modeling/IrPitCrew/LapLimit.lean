import IrPitCrew.Client.ServerData
import IrPitCrew.Plugin.RemainingLaps

/-!
# A known limit of laps on the client

The client shows a negative number of laps as no limit. The driver's laps to go
are not stopped at 0, so they turn negative after the last lap.
-/

open IrPitCrew.Text IrPitCrew.Decimal IrPitCrew.Rounding IrPitCrew.ParseData IrPitCrew.WebServer
open IrPitCrew.Run IrPitCrew.Plugin IrPitCrew.Client IrPitCrew.Client.ServerData
open IrPitCrew.Config (settingLine strUseDriverLapsRemaining printFlag)

namespace IrPitCrew.LapLimit

variable {K : Type*} [Field K] [LinearOrder K] [FloorRing K]

/-! ## The laps to go -/

/-- The laps of the session count, or the driver is at most one lap past the last one. -/
def DriverWithinLaps (settings : Settings K) (session : Session K) (f : Frame) : Prop :=
  settings.gIsUseDriverLapsRemaining = true → max f.lap 1 ≤ atoi session.gSessionTotalLaps + 1

omit [LinearOrder K] [FloorRing K] in
theorem raceLapsRemain_nonneg_iff (settings : Settings K) (session : Session K) (f : Frame)
    (hex : 0 ≤ f.sessionLapsRemainEx) :
    0 ≤ raceLapsRemain settings session f ↔ DriverWithinLaps settings session f := by
  unfold raceLapsRemain DriverWithinLaps driverLapsRemain
  cases settings.gIsUseDriverLapsRemaining with
  | false => simp [hex]
  | true =>
    simp only [if_true, forall_const]
    split <;> omega

variable [IsStrictOrderedRing K]

/-- Both values are not negative, or both are the laps to race. -/
theorem tickLaps_nonneg_or (settings : Settings K) (session : Session K) (f : Frame)
    (hknown : IsLapLimitKnown session f) :
    (0 ≤ raceLapsRemain settings session f ∧ 0 ≤ (tickLaps settings session f).remainingLapsMin ∧
      0 ≤ (tickLaps settings session f).remainingLapsMax) ∨
    (raceLapsRemain settings session f < 0 ∧
      (tickLaps settings session f).remainingLapsMin = raceLapsRemain settings session f ∧
      (tickLaps settings session f).remainingLapsMax = raceLapsRemain settings session f) := by
  rcases tickLaps_cases settings session f with
    ⟨hunknown, -⟩ | ⟨-, -, hmin, hmax⟩ | ⟨-, h0, hle, heq⟩
  · exact absurd hknown hunknown
  · rcases lt_or_ge (raceLapsRemain settings session f) 0 with hneg | hpos
    · exact .inr ⟨hneg, hmin, hmax⟩
    · have hcast : (0 : K) ≤ raceLapsRemain settings session f := Int.cast_nonneg hpos
      exact .inl ⟨hpos, hmin ▸ hcast, hmax ▸ hcast⟩
  · rw [heq]
    have hrace : 0 ≤ raceLapsRemain settings session f := Int.cast_nonneg_iff.mp (h0.trans hle)
    rcases timeBlock_cases session f with ⟨hmax, -⟩ | ⟨hmin, hmax, -⟩
    · rw [hmax] at h0
      linarith
    · exact .inl ⟨hrace, hmin, hmax⟩

/-! ## The text on the page -/

/-- The text of no limit stands for the negative values. -/
def LimitShown (f : Client.NumberField K) : Prop := f.str = unlimitedString ↔ f.val < 0

omit [IsStrictOrderedRing K] in
theorem toFixed_ne_unlimitedString (d : Nat) (x : K) : toFixed d x ≠ unlimitedString := by
  intro h
  unfold toFixed unlimitedString at h
  dsimp only at h
  split at h
  · exact absurd (congrArg List.head? h) (by simp)
  · obtain ⟨c, s, hcs⟩ := List.exists_cons_of_ne_nil
      (Nat.toDigits_ne_nil (n := (roundHalfAway (x * 10 ^ d)).natAbs / 10 ^ d) (b := 10))
    have hdigit : c.isDigit = true := isDigit_toDigits _ c (by rw [hcs]; simp)
    rw [hcs] at h
    have hc : c = '&' := by simpa using congrArg List.head? h
    rw [hc] at hdigit
    exact absurd hdigit (by decide)

omit [IsStrictOrderedRing K] in
theorem LimitShown.receive {f : Client.NumberField K} (h : LimitShown f) (d : Nat) (value : Option K) :
    LimitShown (f.receive .exact d limitString value) := by
  unfold Client.NumberField.receive
  split
  · exact h
  · dsimp only
    split
    · unfold LimitShown limitString
      dsimp only
      split
      · rename_i hnonneg
        exact iff_of_false (toFixed_ne_unlimitedString _ _) (not_lt.mpr hnonneg)
      · rename_i hneg
        exact iff_of_true rfl (not_le.mp hneg)
    · exact h

/-- The number that the client keeps for a number in the map. -/
def clientValue (x : K) : K := roundPlaces decimalsForVal (roundSix (roundPlaces precision x))

theorem clientValue_nonneg {x : K} (h : 0 ≤ x) : 0 ≤ clientValue x :=
  roundPlaces_nonneg _ (roundSix_nonneg _ (roundPlaces_nonneg _ h))

theorem clientValue_neg {n : ℤ} (h : n < 0) : clientValue (n : K) < 0 := by
  have hn : (n : K) ≤ -1 := by exact_mod_cast Int.le_sub_one_of_lt h
  unfold clientValue
  rw [roundPlaces_intCast]
  linarith [roundPlaces_le_neg_one decimalsForVal (roundSix_le_neg_one _ hn)]

theorem val_receive_readValue (f : Client.NumberField K) (format : K → K → Str) (x : K) :
    (f.receive .exact decimalsForVal format
      (readValue .exact (printNumber (roundPlaces precision x)))).val = clientValue x := by
  rw [readValue, if_neg (printNumber_ne_dataNotSetString _), Client.NumberField.val_receive,
    parseFloat_toFixed, parseFloat_printNumber]
  rfl

theorem str_receive_iff {f : Client.NumberField K} (h : LimitShown f) (x : K) :
    (f.receive .exact decimalsForVal limitString
      (readValue .exact (printNumber (roundPlaces precision x)))).str ≠ unlimitedString ↔ 0 ≤ clientValue x := by
  have hshown := h.receive decimalsForVal (readValue .exact (printNumber (roundPlaces precision x)))
  unfold LimitShown at hshown
  rw [ne_eq, hshown, val_receive_readValue, not_lt]

/-! ## Runs of messages -/

def LimitsShown (d : ServerData K) : Prop := LimitShown d.remainingLapsMin ∧ LimitShown d.remainingLapsMax

omit [IsStrictOrderedRing K] [FloorRing K] in
theorem limitShown_default : LimitShown ({} : Client.NumberField K) := by
  have hempty : [] ≠ unlimitedString := by decide
  exact iff_of_false hempty (lt_irrefl (0 : K))

omit [IsStrictOrderedRing K] in
theorem limitsShown_run (messages : List Str) :
    LimitsShown (run (receive .exact) ({} : ServerData K) messages) := by
  apply run_invariant_of_step
  · rintro d m ⟨hmin, hmax⟩
    exact ⟨LimitShown.receive (f := d.clearDataUpdated.remainingLapsMin) hmin _ _,
      LimitShown.receive (f := d.clearDataUpdated.remainingLapsMax) hmax _ _⟩
  · exact ⟨limitShown_default, limitShown_default⟩

/-- After a message with the laps of a tick, both texts are those of a limit or both are not. -/
theorem strs_iff (settings : Settings K) (session : Session K) (f : Frame)
    (hknown : IsLapLimitKnown session f) (messages : List Str) (m : Str)
    (hmin : messageValue m "remainingLapsMin".toList =
      printNumber (roundPlaces precision (tickLaps settings session f).remainingLapsMin))
    (hmax : messageValue m "remainingLapsMax".toList =
      printNumber (roundPlaces precision (tickLaps settings session f).remainingLapsMax)) :
    (run (receive .exact) ({} : ServerData K) (messages ++ [m])).remainingLapsMin.str ≠ unlimitedString ∧
      (run (receive .exact) ({} : ServerData K) (messages ++ [m])).remainingLapsMax.str ≠ unlimitedString ↔
    0 ≤ raceLapsRemain settings session f := by
  obtain ⟨hshownmin, hshownmax⟩ := limitsShown_run (K := K) messages
  rw [run_append, run_cons, run_nil]
  set d := run (receive .exact) ({} : ServerData K) messages
  have hminstr := str_receive_iff (f := d.clearDataUpdated.remainingLapsMin) hshownmin
    (tickLaps settings session f).remainingLapsMin
  have hmaxstr := str_receive_iff (f := d.clearDataUpdated.remainingLapsMax) hshownmax
    (tickLaps settings session f).remainingLapsMax
  rw [← hmin] at hminstr
  rw [← hmax] at hmaxstr
  refine (and_congr hminstr hmaxstr).trans ?_
  rcases tickLaps_nonneg_or settings session f hknown with ⟨hrace, h0min, h0max⟩ | ⟨hrace, heq, -⟩
  · exact iff_of_true ⟨clientValue_nonneg h0min, clientValue_nonneg h0max⟩ hrace
  · rw [heq]
    exact iff_of_false (fun h => absurd h.1 (not_le.mpr (clientValue_neg hrace))) (not_le.mpr hrace)

/-- **A known limit of laps.** The laps to go are not negative, and the page does not show them as
unlimited, if and only if the driver's laps are not used or the driver is within them. -/
theorem lap_limit_nonneg_iff (l l' : Loop K) (f : Frame) (v : TickValues K)
    (h : step l (.dataReady f) = (l', .ticked v)) (hknown : IsLapLimitKnown (l.session.tick f) f)
    (hex : 0 ≤ f.sessionLapsRemainEx) :
    (0 ≤ v.laps.remainingLapsMin ∧ 0 ≤ v.laps.remainingLapsMax ↔
      DriverWithinLaps l.settings (l.session.tick f) f) ∧
    ∀ (messages : List Str) (m : Str),
      (∀ name ∈ ["remainingLapsMin", "remainingLapsMax"], f.dataMap.find name.toList = none ∧
        v.dataStrMap.find name.toList = some (messageValue m name.toList)) →
      ((run (receive .exact) ({} : ServerData K) (messages ++ [m])).remainingLapsMin.str ≠ unlimitedString ∧
        (run (receive .exact) ({} : ServerData K) (messages ++ [m])).remainingLapsMax.str ≠ unlimitedString ↔
        DriverWithinLaps l.settings (l.session.tick f) f) := by
  obtain ⟨-, -, rfl⟩ := tick_of_ticked h
  rw [← raceLapsRemain_nonneg_iff _ _ f hex]
  constructor
  · change 0 ≤ (tickLaps l.settings (l.session.tick f) f).remainingLapsMin ∧
      0 ≤ (tickLaps l.settings (l.session.tick f) f).remainingLapsMax ↔ _
    rcases tickLaps_nonneg_or l.settings (l.session.tick f) f hknown with ⟨hrace, hboth⟩ | ⟨hrace, hmin, -⟩
    · exact iff_of_true hboth hrace
    · rw [hmin, Int.cast_nonneg_iff]
      exact ⟨fun h => h.1, fun h => absurd hrace (not_lt.mpr h)⟩
  · intro messages m hcarries
    obtain ⟨hnomin, hmin⟩ := hcarries "remainingLapsMin" (by simp)
    obtain ⟨hnomax, hmax⟩ := hcarries "remainingLapsMax" (by simp)
    rw [tickValues, (find_remainingLaps _ _ _ _ _).1 hnomin, Option.some_inj] at hmin
    rw [tickValues, (find_remainingLaps _ _ _ _ _).2 hnomax, Option.some_inj] at hmax
    exact strs_iff _ _ f hknown messages m hmin.symm hmax.symm

/-! ## After the race -/

/-- The second lap after a race of ten laps. -/
def cooldownFrame : Frame := sessionFrame "10" "unlimited" "0" "604800" "12"

def driverLaps (isUsed : Bool) : Str := settingLine strUseDriverLapsRemaining (printFlag isUsed)

theorem lap_limit_session_laps :
    ∃ l v, step (connectedLoop (driverLaps false)) (.dataReady cooldownFrame) = (l, .ticked v) ∧
      0 ≤ v.laps.remainingLapsMin ∧ 0 ≤ v.laps.remainingLapsMax := by
  have hstep := step_of_tick (connectedLoop (driverLaps false)) cooldownFrame (by decide +kernel)
  refine ⟨_, _, hstep, ?_⟩
  apply (lap_limit_nonneg_iff _ _ cooldownFrame _ hstep (by decide +kernel) (by decide +kernel)).1.mpr
  intro h
  exact absurd h (by decide +kernel)

/-- By the driver's laps -1 laps are to go. -/
theorem lap_limit_driver_laps :
    ∃ l v, step (connectedLoop (driverLaps true)) (.dataReady cooldownFrame) = (l, .ticked v) ∧
      IsLapLimitKnown l.session cooldownFrame ∧ 0 ≤ cooldownFrame.sessionLapsRemainEx ∧
      ¬ (0 ≤ v.laps.remainingLapsMin ∧ 0 ≤ v.laps.remainingLapsMax) := by
  refine ⟨_, _, step_of_tick (connectedLoop (driverLaps true)) cooldownFrame (by decide +kernel), ?_⟩
  decide +kernel

end IrPitCrew.LapLimit
