import IrPitCrew.Config.ConfigData
import IrPitCrew.Lib.Run
import IrPitCrew.Plugin.PitCommand
import IrPitCrew.Plugin.Session

/-!
# _tmain: the main loop

The settings are read at startup and again on every connect. A local of the
startup read has the name of a setting, and the tick is in its scope.
-/

open IrPitCrew.Text IrPitCrew.WebServer IrPitCrew.Config IrPitCrew.LapFuel IrPitCrew.Run

namespace IrPitCrew.Plugin

variable {K : Type*} [Field K] [LinearOrder K] [FloorRing K]

/-! ## The settings -/

structure Settings (K : Type*) where
  gIsDisplayFuelImperial : Bool
  gIsUseDriverLapsRemaining : Bool
  gIsSkipClearOnApply : Bool
  gExtraLapsOfFuel : K
  gIsDisplayCarFuelWeight : Bool
  gFuelDisplayConversionFactor : K
  gStrFuelDisplayUnits : Str

/-- The globals that a read sets, and the units that follow from them. -/
def settingsOf (gDriverCarFuelKgPerLtr : K) (v : ConfigValues K) : Settings K :=
  let (factor, units) := calculateFuelDisplayConversionFactor gDriverCarFuelKgPerLtr
    v.isDisplayFuelImperial v.isDisplayFuelImperial v.isDisplayCarFuelAsWeight
  { gIsDisplayFuelImperial := v.isDisplayFuelImperial
    gIsUseDriverLapsRemaining := v.isUseDriverLapsRemaining
    gIsSkipClearOnApply := v.isSkipClearOnApply
    gExtraLapsOfFuel := v.extraLapsOfFuel
    gIsDisplayCarFuelWeight := v.isDisplayCarFuelAsWeight
    gFuelDisplayConversionFactor := factor
    gStrFuelDisplayUnits := units }

/-- The settings of an empty file, for a fuel of 1 kg a litre. -/
def defaultSettings : Settings K := settingsOf 1 (Found.values {})

/-! ## One tick -/

/-- What a tick computes. The entries for the cars ahead and behind are left out of the map. -/
structure TickValues (K : Type*) [Field K] where
  laps : SessionLaps K
  fuel : FuelValues K
  dataStrMap : StrMap
  commands : List PitCommand

/-- The session is the one after the new lap. -/
def tickLaps (settings : Settings K) (session : Session K) (f : Frame) : SessionLaps K :=
  sessionLaps session.gSessionTotalLaps settings.gIsUseDriverLapsRemaining f.sessionLapsRemainEx f.lap
    (timeLaps session.gSessionTotalTime session.gEstimatedLapTime f.sessionTimeRemain)

def precision : Nat := 3

def tickDataMap (settings : Settings K) (session : Session K) (laps : SessionLaps K)
    (fuel : FuelValues K) (dataMap : StrMap) : StrMap :=
  let add (m : StrMap) (varName : String) (varData : K) : StrMap :=
    addDataVarToMap .exact m varName varData precision
  let display (litres : K) : K := convertFuelLitresToDisplay settings.gFuelDisplayConversionFactor litres
  let m := add dataMap "MaxFuel" (display session.gMaxFuelLitres)
  let m := add m "estimatedLapTime" session.gEstimatedLapTime
  let m := add m "estimatedLapFuel" (display session.gEstimatedLapFuelLitres)
  let m := add m "sessionTotalLapsMin" laps.sessionTotalLapsMin
  let m := add m "sessionTotalLapsMax" laps.sessionTotalLapsMax
  let m := add m "remainingLapsMin" laps.remainingLapsMin
  let m := add m "remainingLapsMax" laps.remainingLapsMax
  let m := add m "sessionTotalTime" laps.sessionTotalTime
  let m := add m "remainingTime" laps.remainingTime
  let m := add m "elapsedTime" laps.elapsedTime
  let m := add m "FuelDisplayConversionFactor" settings.gFuelDisplayConversionFactor
  let m := addStringDataVarToMap m "FuelDisplayUnits" settings.gStrFuelDisplayUnits
  let m := add m "FuelRequired" (display fuel.fuelRequiredLitres)
  let m := add m "FuelForOneLap" (display fuel.fuelForOneLapLitres)
  let m := add m "LapsOfFuel" fuel.lapsOfFuel
  add m "PitAvailable" fuel.optionalPit

def tickValues (extraLapsOfFuel : K) (settings : Settings K) (session : Session K) (f : Frame) :
    TickValues K :=
  let laps := tickLaps settings session f
  let fuel := fuelValues extraLapsOfFuel session.gEstimatedLapFuelLitres session.gMaxFuelLitres
    f.fuelLevelLitres laps.remainingLapsMax
  { laps, fuel
    dataStrMap := tickDataMap settings session laps fuel f.dataMap
    commands := handlePitCommandMessage .exact settings.gFuelDisplayConversionFactor
      settings.gIsSkipClearOnApply f.fuelMessage }

/-! ## The loop -/

/-- `extraLapsOfFuel` is the local of `_tmain`. The one of the connect block is gone with the block. -/
structure Loop (K : Type*) [Field K] where
  extraLapsOfFuel : K
  gServerPort : ℤ
  settings : Settings K
  session : Session K
  configFile : Option Str

inductive Event where
  /-- The user changes or deletes config.txt. -/
  | editConfig (file : Option Str)
  | dataReady (f : Frame)
  | notConnected

inductive Outcome (K : Type*) [Field K] where
  | quiet
  | read (values : ConfigValues K)
  | ticked (values : TickValues K)

/-- The part before the loop. A port that is not valid ends the program. -/
def start (file : Option Str) (disk : Disk) : Option (Loop K) :=
  let values : ConfigValues K := (readConfigData [] file).1
  if values.serverPort ≤ 0 ∨ values.serverPort > 65535 then none
  else
    let session : Session K := .init disk
    some {
      extraLapsOfFuel := values.extraLapsOfFuel
      gServerPort := values.serverPort
      settings := settingsOf session.gDriverCarFuelKgPerLtr values
      session
      configFile := fileAfter K [] file }

/-- The port is read again, and not used. -/
def Loop.connect (l : Loop K) (f : Frame) : Loop K × Outcome K :=
  let values : ConfigValues K := (readConfigData f.newCarName l.configFile).1
  let session := l.session.connect f
  ({ l with
      settings := settingsOf session.gDriverCarFuelKgPerLtr values
      session
      configFile := fileAfter K f.newCarName l.configFile }, .read values)

def Loop.tick (l : Loop K) (f : Frame) : Loop K × Outcome K :=
  let session := l.session.tick f
  ({ l with session }, .ticked (tickValues l.extraLapsOfFuel l.settings session f))

def step (l : Loop K) : Event → Loop K × Outcome K
  | .editConfig file => ({ l with configFile := file }, .quiet)
  | .dataReady f => if l.session.isConnect f then l.connect f else l.tick f
  | .notConnected => ({ l with session := l.session.notConnected }, .quiet)

theorem step_of_tick (l : Loop K) (f : Frame) (h : l.session.isConnect f = false) :
    step l (.dataReady f) = l.tick f := by
  simp [step, h]

theorem step_cases (l : Loop K) (f : Frame) :
    (l.session.isConnect f = true ∧ step l (.dataReady f) = l.connect f) ∨
    (l.session.isConnect f = false ∧ step l (.dataReady f) = l.tick f) := by
  cases h : l.session.isConnect f with
  | true => exact .inl ⟨rfl, by simp [step, h]⟩
  | false => exact .inr ⟨rfl, step_of_tick l f h⟩

theorem tick_of_ticked {l l' : Loop K} {f : Frame} {v : TickValues K}
    (h : step l (.dataReady f) = (l', .ticked v)) :
    l.session.isConnect f = false ∧ l' = { l with session := l.session.tick f } ∧
    v = tickValues l.extraLapsOfFuel l.settings (l.session.tick f) f := by
  rcases step_cases l f with ⟨hconnect, heq⟩ | ⟨htick, heq⟩
  · rw [heq] at h
    simp [Loop.connect] at h
  · rw [heq] at h
    simp only [Loop.tick, Prod.mk.injEq, Outcome.ticked.injEq] at h
    exact ⟨htick, h.1.symm, h.2.symm⟩

def after (l : Loop K) (e : Event) : Loop K := (step l e).1

end IrPitCrew.Plugin
