import IrPitCrew.Plugin.DataMap
import IrPitCrew.Plugin.FuelUnits
import Mathlib.Tactic.Ring

/-!
# The values of one tick

Laps and times to go, then fuel. Arithmetic is exact, and amounts are in litres
until they go into the data map.
-/

open IrPitCrew.Text IrPitCrew.Decimal IrPitCrew.WebServer

namespace IrPitCrew.Plugin

variable {K : Type*} [Field K]

/-- Any less and the car starts to stutter. -/
def minFuelLitres : K := 4 / 10

def unlimited : Str := "unlimited".toList

def irsdkUnlimitedLaps : ℤ := 32767

def irsdkUnlimitedTime : K := 604800

def additionalLapsAtEnd : K := 2

/-! ## Laps and times -/

/-- A negative value is not known. -/
structure SessionLaps (K : Type*) [Field K] where
  sessionTotalTime : K := -1
  remainingTime : K := -1
  elapsedTime : K := -1
  sessionTotalLapsMin : K := -1
  sessionTotalLapsMax : K := -1
  remainingLapsMin : K := -1
  remainingLapsMax : K := -1

section

variable [LinearOrder K] [FloorRing K]

/-- Countdowns stop at 0. -/
def atLeastZero (x : K) : K := if x < 0 then 0 else x

/-- The laps of a timed session. Without an estimate of the lap time they are not known, but the
countdowns still stop at 0. -/
def timeLaps (gSessionTotalTime : Str) (gEstimatedLapTime sessionTimeRemain : K) : SessionLaps K :=
  if gSessionTotalTime ≠ unlimited then
    let sessionTotalTime := atof gSessionTotalTime
    let remainingTime := if sessionTimeRemain < irsdkUnlimitedTime then sessionTimeRemain else -1
    let laps : SessionLaps K :=
      if gEstimatedLapTime > 0 then
        let sessionTotalLapsMin := sessionTotalTime / gEstimatedLapTime
        let remainingLapsMin := remainingTime / gEstimatedLapTime
        { sessionTotalLapsMin, remainingLapsMin
          sessionTotalLapsMax := ⌈sessionTotalLapsMin⌉ + 1
          remainingLapsMax := remainingLapsMin + additionalLapsAtEnd }
      else {}
    { laps with
      sessionTotalTime
      remainingTime := atLeastZero remainingTime
      elapsedTime := sessionTotalTime - remainingTime
      remainingLapsMin := atLeastZero laps.remainingLapsMin
      remainingLapsMax := atLeastZero laps.remainingLapsMax }
  else {}

/-- The driver's laps to go. At the start `Lap` is 0, which counts as the first lap. -/
def driverLapsRemain (sessionLaps lap : ℤ) : ℤ :=
  let driverLap := if lap < 1 then 1 else lap
  sessionLaps - driverLap + 1

/-- The laps when there may be a limit of laps as well. The smaller one counts. -/
def sessionLaps (gSessionTotalLaps : Str) (gIsUseDriverLapsRemaining : Bool)
    (sessionLapsRemainEx lap : ℤ) (laps : SessionLaps K) : SessionLaps K :=
  if gSessionTotalLaps ≠ unlimited ∧ sessionLapsRemainEx ≠ irsdkUnlimitedLaps then
    let sessionLaps := atoi gSessionTotalLaps
    let raceLapsRemain : K :=
      if gIsUseDriverLapsRemaining then driverLapsRemain sessionLaps lap else sessionLapsRemainEx
    if laps.remainingLapsMax < 0 ∨ laps.remainingLapsMax > raceLapsRemain then
      -- The times stay at -1.
      { sessionTotalLapsMin := sessionLaps
        sessionTotalLapsMax := sessionLaps
        remainingLapsMin := raceLapsRemain
        remainingLapsMax := raceLapsRemain }
    else laps
  else laps

end

/-! ## Fuel -/

structure FuelValues (K : Type*) where
  fuelRequiredLitres : K
  fuelForOneLapLitres : K
  lapsOfFuel : K
  isEnoughFuel : Bool
  optionalPit : K
  deriving DecidableEq

variable [LinearOrder K]

def lapsOfFuelIn (gEstimatedLapFuelLitres litres : K) : K :=
  (litres - minFuelLitres) / gEstimatedLapFuelLitres

def fuelValues (extraLapsOfFuel gEstimatedLapFuelLitres gMaxFuelLitres fuelLevelLitres
    remainingLapsMax : K) : FuelValues K :=
  let lapsOfFuel :=
    if gEstimatedLapFuelLitres > 0 ∧ fuelLevelLitres - minFuelLitres > 0 then
      lapsOfFuelIn gEstimatedLapFuelLitres fuelLevelLitres
    else 0
  let isEnoughFuel : Bool := lapsOfFuel ≥ remainingLapsMax
  { fuelRequiredLitres :=
      if remainingLapsMax > 0 then
        remainingLapsMax * gEstimatedLapFuelLitres + minFuelLitres +
          extraLapsOfFuel * gEstimatedLapFuelLitres
      else -1
    fuelForOneLapLitres := gEstimatedLapFuelLitres + minFuelLitres
    lapsOfFuel, isEnoughFuel
    optionalPit :=
      if gEstimatedLapFuelLitres > 0 then
        let optionalPit := remainingLapsMax - lapsOfFuelIn gEstimatedLapFuelLitres gMaxFuelLitres
        -- Not before this tank is used, and only if it does not last to the end.
        if optionalPit < lapsOfFuel ∧ isEnoughFuel = false then
          if optionalPit ≤ 0 then 0 else optionalPit
        else -1
      else -1 }

theorem fuelRequiredLitres_eq (e lapFuel maxFuel level : K) {laps : K} (h : 0 < laps) :
    (fuelValues e lapFuel maxFuel level laps).fuelRequiredLitres =
      (laps + e) * lapFuel + minFuelLitres := by
  simp only [fuelValues, if_pos h]
  ring

theorem fuelRequiredLitres_of_nonpos (e lapFuel maxFuel level : K) {laps : K} (h : laps ≤ 0) :
    (fuelValues e lapFuel maxFuel level laps).fuelRequiredLitres = -1 := by
  simp only [fuelValues, if_neg (not_lt.mpr h)]

end IrPitCrew.Plugin
