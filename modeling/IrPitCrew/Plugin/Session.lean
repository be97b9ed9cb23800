import IrPitCrew.LapFuel.LapFuelData
import IrPitCrew.Plugin.Tick

/-!
# The session: what the main loop keeps, apart from the settings

A connect reads the car and the track from the session info and starts the lap
history of this pair. A tick looks for a new session number and for a new lap.
-/

open IrPitCrew.Text IrPitCrew.Decimal IrPitCrew.Rounding IrPitCrew.WebServer IrPitCrew.LapFuel

namespace IrPitCrew.Plugin

/-! ## What one turn of the loop sees -/

/-- The data that is ready. `parseYaml` looks a path up in the session info. `status` is what the
system answers to the accesses of lap files. -/
structure Frame where
  bufLen : ℤ
  parseYaml : Str → Option Str
  dataMap : StrMap
  fuelMessage : Str
  status : FileStatus

namespace Frame

def lookup (f : Frame) (path : String) : Option Str := f.parseYaml path.toList

def lookupAt (f : Frame) (path : String) (idx : ℤ) (field : String) : Option Str :=
  f.parseYaml (path.toList ++ '{' :: printInt idx ++ '}' :: field.toList)

def newTrackName (f : Frame) : Str := (f.lookup "WeekendInfo:TrackName:").getD []

def carIdx (f : Frame) : ℤ := ((f.lookup "DriverInfo:DriverCarIdx:").map atoi).getD (-1)

def newCarName (f : Frame) : Str :=
  if f.carIdx ≥ 0 then (f.lookupAt "DriverInfo:Drivers:CarIdx:" f.carIdx "CarPath:").getD [] else []

variable {K : Type*} [Field K]

def driverCarFuelKgPerLtr (f : Frame) : K :=
  ((f.lookup "DriverInfo:DriverCarFuelKgPerLtr:").map atof).getD 1

def carClassMaxFuelPct (f : Frame) : K :=
  ((f.lookup "DriverInfo:DriverCarMaxFuelPct:").map atof).getD (-1)

/-- A negative share was not found. -/
def maxFuelLitres [LinearOrder K] (f : Frame) : K :=
  let maxFuel : K := ((f.lookup "DriverInfo:DriverCarFuelMaxLtr:").map atof).getD (-1)
  if f.carClassMaxFuelPct ≥ (0 : K) then maxFuel * f.carClassMaxFuelPct else maxFuel

/-! Variables of the simulator -/

def fuelLevelLitres (f : Frame) : K := readDataVarFromMap parseFloat f.dataMap "FuelLevel"

def lapLastLapTime (f : Frame) : K := readDataVarFromMap parseFloat f.dataMap "LapLastLapTime"

def sessionTimeRemain (f : Frame) : K := readDataVarFromMap parseFloat f.dataMap "SessionTimeRemain"

def sessionNum (f : Frame) : ℤ := readDataVarFromMap atoi f.dataMap "SessionNum"

def sessionLapsRemainEx (f : Frame) : ℤ := readDataVarFromMap atoi f.dataMap "SessionLapsRemainEx"

def lap (f : Frame) : ℤ := readDataVarFromMap atoi f.dataMap "Lap"

end Frame

/-! ## The state -/

/-- `nData` is `none` while `data` is null. -/
structure Session (K : Type*) [Field K] where
  nData : Option ℤ := none
  gMaxFuelLitres : K := -1
  gCarClassMaxFuelPct : K := -1
  gSessionNum : ℤ := -1
  gSessionTotalLaps : Str := []
  gSessionTotalTime : Str := []
  gDriverCarFuelKgPerLtr : K := 1
  gEstimatedLapTime : K := -1
  gEstimatedLapFuelLitres : K := -1
  gOldLapLastLapTime : K := -1
  lapFuel : LapFuel.State K

namespace Session

variable {K : Type*} [Field K] [LinearOrder K] [FloorRing K]

def dataDir : Str := ".\\Data".toList

def init (disk : Disk) : Session K := { lapFuel := .init dataDir disk }

def updateEstimates (s : Session K) : Session K :=
  let (estimatedLapTime, estimatedLapFuelLitres, data) :=
    s.lapFuel.data.calcOptimalLapTimeFuelValues s.gMaxFuelLitres
  { s with
    gEstimatedLapTime := estimatedLapTime
    gEstimatedLapFuelLitres := estimatedLapFuelLitres
    lapFuel.data := data }

def connect (s : Session K) (f : Frame) : Session K :=
  let s : Session K :=
    { s with
      nData := some f.bufLen
      gMaxFuelLitres := f.maxFuelLitres
      gCarClassMaxFuelPct := f.carClassMaxFuelPct
      gSessionNum := -1
      gSessionTotalLaps := []
      gSessionTotalTime := []
      gDriverCarFuelKgPerLtr := f.driverCarFuelKgPerLtr
      lapFuel := LapFuel.step s.lapFuel (.resetSessionData f.status f.newTrackName f.newCarName) }
  { s.updateEstimates with gOldLapLastLapTime := -1 }

/-- A limit that is not found stays as it was. -/
def updateSessionNum (s : Session K) (f : Frame) : Session K :=
  if f.sessionNum ≠ s.gSessionNum ∧ f.sessionNum ≥ 0 then
    let value (field : String) : Option Str :=
      f.lookupAt "SessionInfo:Sessions:SessionNum:" f.sessionNum field
    { s with
      gSessionNum := f.sessionNum
      gSessionTotalLaps := (value "SessionLaps:").getD s.gSessionTotalLaps
      gSessionTotalTime := (value "SessionTime:").getD s.gSessionTotalTime }
  else s

/-- A lap ends when the last lap time changes. -/
def updateLaps (s : Session K) (f : Frame) : Session K :=
  if s.gOldLapLastLapTime ≠ f.lapLastLapTime then
    let (isUpdated, data) := s.lapFuel.data.addLapData f.lapLastLapTime f.fuelLevelLitres
    let s : Session K := { s with gOldLapLastLapTime := f.lapLastLapTime, lapFuel.data := data }
    if isUpdated then
      let s := s.updateEstimates
      { s with lapFuel := LapFuel.step s.lapFuel (.saveCurrentSessionData f.status) }
    else s
  else s

def tick (s : Session K) (f : Frame) : Session K := (s.updateSessionNum f).updateLaps f

/-- No data was seen before, or the header changed its size. -/
def isConnect (s : Session K) (f : Frame) : Bool := s.nData ≠ some f.bufLen

def dataReady (s : Session K) (f : Frame) : Session K :=
  if s.isConnect f then s.connect f else s.tick f

def notConnected (s : Session K) : Session K := { s with nData := none }

@[simp] theorem isConnect_connect (s : Session K) (f g : Frame) :
    (s.connect f).isConnect g = decide (f.bufLen ≠ g.bufLen) := by
  have hdata : (s.connect f).nData = some f.bufLen := rfl
  simp [isConnect, hdata]

omit [LinearOrder K] [FloorRing K] in
@[simp] theorem isConnect_notConnected (s : Session K) (f : Frame) : s.notConnected.isConnect f = true := by
  simp [isConnect, notConnected]

@[simp] theorem gDriverCarFuelKgPerLtr_tick (s : Session K) (f : Frame) :
    (s.tick f).gDriverCarFuelKgPerLtr = s.gDriverCarFuelKgPerLtr := by
  have hnum : (s.updateSessionNum f).gDriverCarFuelKgPerLtr = s.gDriverCarFuelKgPerLtr := by
    unfold updateSessionNum
    split <;> rfl
  unfold tick updateLaps
  dsimp only
  split
  · split <;> exact hnum
  · exact hnum

end Session

end IrPitCrew.Plugin
