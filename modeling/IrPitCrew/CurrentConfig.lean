import IrPitCrew.Plugin.Loop
import Mathlib.Data.Rat.Floor

/-!
# Which configuration a tick uses

The settings are those of the last read. The session takes no part in this: it
is the same in runs that differ in their configuration alone. The one value of
the startup read that a tick still uses is the local `extraLapsOfFuel`.
-/

open IrPitCrew.Text IrPitCrew.WebServer IrPitCrew.Config IrPitCrew.Run IrPitCrew.Plugin
open IrPitCrew.LapFuel (Disk)

namespace IrPitCrew.CurrentConfig

variable {K : Type*} [Field K] [LinearOrder K] [FloorRing K]

/-! ## Runs of the program -/

/-- A program that passed its startup, and what happened since. -/
structure Execution (K : Type*) [Field K] [LinearOrder K] [FloorRing K] (disk : Disk) where
  file : Option Str
  first : Loop K
  started : start file disk = some first
  events : List Event

/-- What the last call of `readConfigData` returned, next to the loop. -/
abbrev Observed (K : Type*) [Field K] := ConfigValues K × Loop K

def observe (o : Observed K) (e : Event) : Observed K :=
  (match (step o.2 e).2 with
    | .read values => values
    | _ => o.1, after o.2 e)

def isEdit : Event → Bool
  | .editConfig _ => true
  | _ => false

namespace Execution

variable {disk : Disk}

def startupRead (x : Execution K disk) : ConfigValues K := (readConfigData [] x.file).1

def loop (x : Execution K disk) : Loop K := run after x.first x.events

def lastRead (x : Execution K disk) : ConfigValues K :=
  (run observe (x.startupRead, x.first) x.events).1

/-- Everything but the contents of config.txt. -/
def others (x : Execution K disk) : List Event := x.events.filter (!isEdit ·)

end Execution

/-! ## The settings are those of the last read -/

def SettingsCurrent (o : Observed K) : Prop :=
  o.2.settings = settingsOf o.2.session.gDriverCarFuelKgPerLtr o.1

theorem settingsCurrent_step (o : Observed K) (e : Event) (h : SettingsCurrent o) :
    SettingsCurrent (observe o e) := by
  cases e with
  | editConfig file => exact h
  | notConnected => exact h
  | dataReady f =>
    unfold SettingsCurrent observe after
    rcases step_cases o.2 f with ⟨-, hstep⟩ | ⟨-, hstep⟩
    · rw [hstep]
      rfl
    · rw [hstep]
      simp only [Loop.tick, Session.gDriverCarFuelKgPerLtr_tick]
      exact h

theorem extraLapsOfFuel_after (l : Loop K) (e : Event) :
    (after l e).extraLapsOfFuel = l.extraLapsOfFuel := by
  cases e with
  | editConfig file => rfl
  | notConnected => rfl
  | dataReady f =>
    unfold after
    rcases step_cases l f with ⟨-, hstep⟩ | ⟨-, hstep⟩
    · rw [hstep]
      rfl
    · rw [hstep]
      rfl

theorem extraLapsOfFuel_run (l : Loop K) (es : List Event) :
    (run after l es).extraLapsOfFuel = l.extraLapsOfFuel := by
  induction es generalizing l with
  | nil => rfl
  | cons e es ih => rw [run_cons, ih, extraLapsOfFuel_after]

/-! ## The session takes no part in this -/

def sessionAfter (s : Session K) : Event → Session K
  | .editConfig _ => s
  | .dataReady f => s.dataReady f
  | .notConnected => s.notConnected

theorem session_after (l : Loop K) (e : Event) : (after l e).session = sessionAfter l.session e := by
  cases e with
  | editConfig file => rfl
  | notConnected => rfl
  | dataReady f =>
    show (step l (.dataReady f)).1.session = l.session.dataReady f
    unfold Session.dataReady
    rcases step_cases l f with ⟨hconnect, hstep⟩ | ⟨hconnect, hstep⟩
    · rw [hstep, hconnect]
      rfl
    · rw [hstep, hconnect]
      rfl

theorem run_sessionAfter_filter (s : Session K) (es : List Event) :
    run sessionAfter s (es.filter (!isEdit ·)) = run sessionAfter s es := by
  apply run_filter
  intro s e he
  cases e with
  | editConfig file => rfl
  | dataReady f => simp [isEdit] at he
  | notConnected => simp [isEdit] at he

/-! ## What is known in any run -/

namespace Execution

variable {disk : Disk}

theorem first_eq (x : Execution K disk) :
    x.first.extraLapsOfFuel = x.startupRead.extraLapsOfFuel ∧ x.first.session = .init disk ∧
      SettingsCurrent (x.startupRead, x.first) := by
  have hstart := x.started
  unfold start at hstart
  dsimp only at hstart
  split at hstart
  · exact absurd hstart (by simp)
  · rw [← Option.some.inj hstart]
    exact ⟨rfl, rfl, rfl⟩

theorem extraLapsOfFuel_loop (x : Execution K disk) :
    x.loop.extraLapsOfFuel = x.startupRead.extraLapsOfFuel := by
  rw [loop, extraLapsOfFuel_run, x.first_eq.1]

theorem session_loop (x : Execution K disk) :
    x.loop.session = run sessionAfter (.init disk) x.others := by
  unfold loop others
  rw [run_map (fun l : Loop K => l.session) session_after, run_sessionAfter_filter, x.first_eq.2.1]

theorem settings_loop (x : Execution K disk) :
    x.loop.settings = settingsOf x.loop.session.gDriverCarFuelKgPerLtr x.lastRead := by
  have hcurrent : SettingsCurrent (run observe (x.startupRead, x.first) x.events) :=
    run_invariant_of_step settingsCurrent_step x.events x.first_eq.2.2
  have hloop : (run observe (x.startupRead, x.first) x.events).2 = x.loop :=
    run_map Prod.snd (fun _ _ => rfl) _ _
  unfold SettingsCurrent at hcurrent
  rwa [hloop] at hcurrent

/-- The session decides whether there is a tick, and its values come from the last read, the session
and the startup read's extra laps. -/
theorem ticked_eq (x : Execution K disk) (f : Frame) {l : Loop K} {v : TickValues K}
    (h : step x.loop (.dataReady f) = (l, .ticked v)) :
    x.loop.session.isConnect f = false ∧ l.session = x.loop.session.tick f ∧
      v = tickValues x.startupRead.extraLapsOfFuel
        (settingsOf x.loop.session.gDriverCarFuelKgPerLtr x.lastRead) (x.loop.session.tick f) f := by
  rcases step_cases x.loop f with ⟨-, hstep⟩ | ⟨htick, hstep⟩
  · rw [h] at hstep
    simp [Loop.connect] at hstep
  · rw [h] at hstep
    simp only [Loop.tick, Prod.mk.injEq, Outcome.ticked.injEq] at hstep
    refine ⟨htick, by rw [hstep.1], ?_⟩
    rw [hstep.2, x.extraLapsOfFuel_loop, x.settings_loop]

end Execution

/-! ## The extra laps -/

def IsFuelRequired (extraLapsOfFuel gEstimatedLapFuelLitres : K) (v : TickValues K) : Prop :=
  v.fuel.fuelRequiredLitres =
    (v.laps.remainingLapsMax + extraLapsOfFuel) * gEstimatedLapFuelLitres + minFuelLitres

omit [LinearOrder K] [FloorRing K] in
theorem add_mul_cancel_iff (a e e' lapFuel b : K) :
    (a + e) * lapFuel + b = (a + e') * lapFuel + b ↔ lapFuel = 0 ∨ e = e' := by
  rw [add_left_inj, mul_eq_mul_right_iff, add_right_inj, or_comm]

/-- The extra laps of two ticks show in the required fuel, and nowhere else. -/
theorem tickValues_inj_iff (e e' : K) (settings : Settings K) (session : Session K) (f : Frame) :
    tickValues e settings session f = tickValues e' settings session f ↔
      (tickLaps settings session f).remainingLapsMax ≤ 0 ∨ session.gEstimatedLapFuelLitres = 0 ∨
        e = e' := by
  set laps := tickLaps settings session f with hlaps
  constructor
  · intro h
    by_cases hpos : 0 < laps.remainingLapsMax
    · have hrequired := congrArg (fun v => v.fuel.fuelRequiredLitres) h
      simp only [tickValues, ← hlaps, fuelRequiredLitres_eq _ _ _ _ hpos] at hrequired
      exact .inr ((add_mul_cancel_iff _ _ _ _ _).mp hrequired)
    · exact .inl (not_lt.mp hpos)
  · intro h
    have hfuel (lapFuel maxFuel level : K) (hlap : laps.remainingLapsMax ≤ 0 ∨ lapFuel = 0 ∨ e = e') :
        fuelValues e lapFuel maxFuel level laps.remainingLapsMax =
          fuelValues e' lapFuel maxFuel level laps.remainingLapsMax := by
      unfold fuelValues
      rcases hlap with hlap | rfl | rfl
      · simp only [if_neg (not_lt.mpr hlap)]
      · simp only [mul_zero]
      · rfl
    simp only [tickValues, ← hlaps, hfuel _ _ _ h]

/-! ## The configuration of a tick -/

/-- **Which copy of the extra laps counts.** At a tick with laps to go the required fuel is that of
the last read if and only if the startup read returned the same extra laps, or a lap takes no fuel.
Runs that differ only in their older reads agree on a tick if and only if their startup reads
returned the same extra laps, or the tick does not use these. -/
theorem tick_current_iff {disk : Disk} (x : Execution K disk) (f : Frame) (l : Loop K)
    (v : TickValues K) (hx : step x.loop (.dataReady f) = (l, .ticked v)) :
    (0 < v.laps.remainingLapsMax →
      (IsFuelRequired x.lastRead.extraLapsOfFuel l.session.gEstimatedLapFuelLitres v ↔
        l.session.gEstimatedLapFuelLitres = 0 ∨
          x.startupRead.extraLapsOfFuel = x.lastRead.extraLapsOfFuel)) ∧
    ∀ y : Execution K disk, x.others = y.others → x.lastRead = y.lastRead →
      ∃ m w, step y.loop (.dataReady f) = (m, .ticked w) ∧
        (v = w ↔ v.laps.remainingLapsMax ≤ 0 ∨ l.session.gEstimatedLapFuelLitres = 0 ∨
          x.startupRead.extraLapsOfFuel = y.startupRead.extraLapsOfFuel) := by
  obtain ⟨htick, hl, hv⟩ := x.ticked_eq f hx
  constructor
  · intro hpos
    have hrequired : v.fuel.fuelRequiredLitres =
        (v.laps.remainingLapsMax + x.startupRead.extraLapsOfFuel) *
          l.session.gEstimatedLapFuelLitres + minFuelLitres := by
      rw [hl, hv]
      apply fuelRequiredLitres_eq
      rwa [hv] at hpos
    unfold IsFuelRequired
    rw [hrequired]
    exact add_mul_cancel_iff _ _ _ _ _
  · intro y hothers hread
    have hsession : y.loop.session = x.loop.session := by
      rw [x.session_loop, y.session_loop, hothers]
    have hy := step_of_tick y.loop f (by rw [hsession, htick])
    obtain ⟨-, -, hw⟩ := y.ticked_eq f hy
    refine ⟨_, _, hy, ?_⟩
    rw [hw, hsession, ← hread, hl, hv]
    exact tickValues_inj_iff _ _ _ _ _

/-! ## A race of ten laps with 2 litres a lap -/

def sampleDisk : Disk := { files := fun _ => some "90\n---\n2\n".toList }

def samplePaths : List (String × String) :=
  [("WeekendInfo:TrackName:", "spa"),
   ("DriverInfo:DriverCarIdx:", "0"),
   ("DriverInfo:Drivers:CarIdx:\x7b0\x7dCarPath:", "gt3"),
   ("DriverInfo:DriverCarFuelMaxLtr:", "60"),
   ("SessionInfo:Sessions:SessionNum:\x7b0\x7dSessionLaps:", "10"),
   ("SessionInfo:Sessions:SessionNum:\x7b0\x7dSessionTime:", "unlimited")]

def sampleFrame : Frame where
  bufLen := 1
  parseYaml path := (samplePaths.lookup (String.ofList path)).map String.toList
  dataMap :=
    { entries := [("FuelLevel".toList, "20".toList), ("SessionLapsRemainEx".toList, "10".toList)]
      sorted := by decide }
  fuelMessage := []
  status := {}

/-- Without a file the startup read returns no extra laps. The file is edited before the connect. -/
def sampleExecution (strExtraLapsOfFuel : Str) : Execution ℚ sampleDisk where
  file := none
  first := (start none sampleDisk).get (by decide +kernel)
  started := (Option.some_get _).symm
  events :=
    [.editConfig (some (settingLine Config.strExtraLapsOfFuel strExtraLapsOfFuel)),
      .dataReady sampleFrame]

theorem tick_current_sample :
    let x := sampleExecution ['0']
    ∃ l v, step x.loop (.dataReady sampleFrame) = (l, .ticked v) ∧
      IsFuelRequired x.lastRead.extraLapsOfFuel l.session.gEstimatedLapFuelLitres v := by
  intro x
  have hstep := step_of_tick x.loop sampleFrame (by decide +kernel)
  refine ⟨_, _, hstep, ?_⟩
  exact ((tick_current_iff x sampleFrame _ _ hstep).1 (by decide +kernel)).mpr (.inr (by decide +kernel))

/-- The connect reads two extra laps, and the tick still adds none. -/
theorem extra_laps_of_startup :
    let x := sampleExecution ['2']
    ∃ l v, step x.loop (.dataReady sampleFrame) = (l, .ticked v) ∧ 0 < v.laps.remainingLapsMax ∧
      ¬ IsFuelRequired x.lastRead.extraLapsOfFuel l.session.gEstimatedLapFuelLitres v := by
  intro x
  refine ⟨_, _, step_of_tick x.loop sampleFrame (by decide +kernel), by decide +kernel, ?_⟩
  unfold IsFuelRequired
  decide +kernel

end IrPitCrew.CurrentConfig
