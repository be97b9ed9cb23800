import IrPitCrew.Plugin.Session

/-!
# getDataFromSessionInfo: the cars ahead and behind

The results of the session are looked up position by position until one is
missing. The laps of the cars are two texts with one item for each car.
-/

open IrPitCrew.Text IrPitCrew.Decimal IrPitCrew.Rounding IrPitCrew.WebServer

namespace IrPitCrew.Plugin

/-! ## Paths in the session info -/

namespace Frame

def driver (f : Frame) (carIdx : ℤ) (field : String) : Option Str :=
  f.lookupAt "DriverInfo:Drivers:CarIdx:" carIdx field

def result (f : Frame) (sessionNum position : ℤ) (field : String) : Option Str :=
  f.parseYaml ("SessionInfo:Sessions:SessionNum:".toList ++ '{' :: printInt sessionNum ++ '}' ::
    "ResultsPositions:Position:".toList ++ '{' :: printInt position ++ '}' :: field.toList)

/-- A class that is not found is the empty text. -/
def carClass (f : Frame) (carIdx : ℤ) : Str := (f.driver carIdx "CarClassShortName:").getD []

end Frame

/-! ## The class positions -/

/-- What the loop over the positions keeps. `myPosition` is `none` until the player is found. -/
structure ClassScan where
  classPosToCarIdxMap : List (ℤ × ℤ) := []
  myPosition : Option ℤ := none

namespace ClassScan

/-- The map keeps the first car of a class position. -/
def add (myCarIdx : ℤ) (scan : ClassScan) (thisCarIdx classPosition : ℤ) : ClassScan where
  classPosToCarIdxMap :=
    if (scan.classPosToCarIdxMap.lookup classPosition).isSome then scan.classPosToCarIdxMap
    else (classPosition, thisCarIdx) :: scan.classPosToCarIdxMap
  myPosition :=
    if scan.myPosition.isNone ∧ thisCarIdx = myCarIdx then some classPosition else scan.myPosition

/-- The car next to the player, and its class position. -/
def find (scan : ClassScan) (offset : ℤ) : Option (ℤ × ℤ) := do
  let myPosition ← scan.myPosition
  let position := myPosition + offset
  if position ≥ 0 then
    let carIdx ← scan.classPosToCarIdxMap.lookup position
    return (carIdx, position)
  else none

end ClassScan

/-- The loop has no bound. It is `none` when the fuel runs out. -/
def scanPositions (f : Frame) (sessionNum : ℤ) : Nat → ℤ → ClassScan → Option ClassScan
  | 0, _, _ => none
  | fuel + 1, position, scan =>
    match f.result sessionNum position "CarIdx:" with
    | none => some scan
    | some valstr =>
      let thisCarIdx := atoi valstr
      if f.carClass thisCarIdx = f.carClass f.carIdx then
        match f.result sessionNum position "ClassPosition:" with
        | none => some scan -- A car without a class position ends the loop.
        | some valstr =>
          scanPositions f sessionNum fuel (position + 1) (scan.add f.carIdx thisCarIdx (atoi valstr))
      else scanPositions f sessionNum fuel (position + 1) scan

/-! ## Number, initials and position -/

/-- The values of one of the two cars, with those that the call passes in. -/
structure CarAround (K : Type*) [Field K] where
  carNumber : Str := []
  initials : Str := []
  pos : ℤ := -1
  intervalSec : K := -1

structure CarsAround (K : Type*) [Field K] where
  ahead : CarAround K := {}
  behind : CarAround K := {}

/-- A text of quotes and blanks only stays as it is. -/
def stripQuotes (carNumber : Str) : Str :=
  let isStripped (c : Char) : Bool := c = ' ' ∨ c = '"'
  if carNumber.all isStripped then carNumber
  else (carNumber.dropWhile isStripped).rdropWhile isStripped

variable {K : Type*} [Field K]

namespace CarAround

def describe (f : Frame) (car : CarAround K) (carIdx position : ℤ) : CarAround K :=
  { car with
    carNumber := ((f.driver carIdx "CarNumber:").map stripQuotes).getD car.carNumber
    initials := (f.driver carIdx "Initials:").getD car.initials
    pos := position + 1 }

end CarAround

/-! ## Intervals -/

/-- `stream >> varData` for a text. -/
def readWord (s : Str) : Str := (ltrim s).takeWhile fun c => !isspace c

def readTextFromMap (strDataMap : StrMap) (varName : String) : Str :=
  ((strDataMap.find varName.toList).map readWord).getD []

/-- The loop that counts the items of an array. -/
def itemAt (carIdx : ℤ) : ℤ → List Str → Option Str
  | _, [] => none
  | count, item :: items => if carIdx = count then some item else itemAt carIdx (count + 1) items

/-- The value of a car in an array. A negative value is that of a car that is not there. -/
def carValue {T : Type*} [Zero T] [LE T] [DecidableLE T] (read : Str → T) (carIdxArray : Str)
    (carIdx : ℤ) : Option T :=
  ((itemAt carIdx 0 (getitems ',' carIdxArray)).map read).filter (0 ≤ ·)

variable [LinearOrder K] [FloorRing K]

/-- The laps that the player has driven. -/
def myTotalDistLaps (strDataMap : StrMap) : K :=
  (readDataVarFromMap atoi strDataMap "Lap" : ℤ) + readDataVarFromMap parseFloat strDataMap "LapDistPct"

/-- The laps that a car has driven, when both arrays have it. -/
def totalDistLaps (strDataMap : StrMap) (carIdx : ℤ) : Option K :=
  let carLap : Option ℤ := carValue atoi (readTextFromMap strDataMap "CarIdxLap") carIdx
  let carLapPct : Option K :=
    carValue parseFloat (readTextFromMap strDataMap "CarIdxLapDistPct") carIdx
  match carLap, carLapPct with
  | some lap, some pct => some (lap + pct)
  | _, _ => none

/-- What is found of one of the two cars. `deltaTo` is the distance to a car that is where it should
be. -/
def CarAround.find (f : Frame) (strDataMap : StrMap) (estLapTime : K) (scan : ClassScan) (offset : ℤ)
    (deltaTo : K → Option K) (car : CarAround K) : CarAround K :=
  match scan.find offset with
  | some (carIdx, position) =>
    let car := car.describe f carIdx position
    match (totalDistLaps strDataMap carIdx).bind deltaTo with
    | some delta => { car with intervalSec := delta * estLapTime }
    | none => car
  | none => car

def carAhead (f : Frame) (strDataMap : StrMap) (estLapTime : K) (scan : ClassScan) :
    CarAround K → CarAround K :=
  let myTotalDistLaps : K := myTotalDistLaps strDataMap
  CarAround.find f strDataMap estLapTime scan (-1) fun nextTotalDistLaps =>
    if myTotalDistLaps ≤ nextTotalDistLaps then some (nextTotalDistLaps - myTotalDistLaps) else none

def carBehind (f : Frame) (strDataMap : StrMap) (estLapTime : K) (scan : ClassScan) :
    CarAround K → CarAround K :=
  let myTotalDistLaps : K := myTotalDistLaps strDataMap
  CarAround.find f strDataMap estLapTime scan 1 fun prevTotalDistLaps =>
    if myTotalDistLaps ≥ prevTotalDistLaps then some (myTotalDistLaps - prevTotalDistLaps) else none

def getDataFromSessionInfo (f : Frame) (strDataMap : StrMap) (sessionNum : ℤ) (estLapTime : K)
    (fuel : Nat) (cars : CarsAround K) : Option (CarsAround K) :=
  if f.carIdx < 0 then some cars
  else
    (scanPositions f sessionNum fuel 1 {}).map fun scan =>
      { ahead := carAhead f strDataMap estLapTime scan cars.ahead
        behind := carBehind f strDataMap estLapTime scan cars.behind }

end IrPitCrew.Plugin
