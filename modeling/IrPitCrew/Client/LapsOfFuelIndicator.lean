import IrPitCrew.Client.FuelIndicator

/-!
# LapsOfFuelIndicator: the Apply and Auto buttons and the fuel light

The Apply button flashes after a send, driven by a timer, and then shows whether
the settings are still the ones last applied. Drawing is left out.
-/

open IrPitCrew.Text IrPitCrew.Decimal

namespace IrPitCrew.Client

variable {K : Type*} [Field K] [LinearOrder K]

namespace LapsOfFuelLayout

def isAutoClicked (c : LapsOfFuelLayout K) (xPos yPos : K) : Bool :=
  let topExtra := c.buttonHeight / 2
  let middleExtra := c.autoApplyButtonGap / 2
  isXyInButtonArea xPos yPos (c.autoButtonX - c.leftOffset) (c.autoButtonY - topExtra)
    (c.autoButtonWidth + c.leftOffset + middleExtra) (c.buttonHeight + topExtra + c.bottomOffset)

def isApplyClicked (c : LapsOfFuelLayout K) (xPos yPos : K) : Bool :=
  let topExtra := c.buttonHeight / 2
  let middleExtra := c.autoApplyButtonGap / 2
  isXyInButtonArea xPos yPos (c.applyButtonX - middleExtra) (c.applyButtonY - topExtra)
    (c.applyButtonWidth + middleExtra + c.rightOffset) (c.buttonHeight + topExtra + c.bottomOffset)

end LapsOfFuelLayout

namespace Page

/-! ## The fuel light -/

/-- The condition to draw in `LapsOfFuel_UpdateIndicator`. -/
def isLapsOfFuelUpdated (d : ServerData K) : Bool :=
  d.fuelLevel.updated || d.fuelRequired.updated || d.lapsOfFuel.updated ||
    d.remainingLapsMax.updated || d.carAheadPos.updated || d.carBehindPos.updated ||
    d.carAheadNumber.updated || d.carBehindNumber.updated || d.carAheadInitials.updated ||
    d.carBehindInitials.updated || d.carAheadInterval.updated || d.carBehindInterval.updated ||
    d.isOnTrack.updated || d.onPitRoad.updated

/-- The light flashes when fuel for one lap is left. -/
def updateFuelImage (s : Page K) : Page K :=
  let d := s.serverData
  let isLowFuelOneLap := isEnoughFuel .lowOneLap d.fuelLevel.val d.fuelRequired.val d.lapsOfFuel.val
  if isLowFuelOneLap ∧ d.lapsOfFuel.val > 0 then
    if s.lapsOfFuelCoords.fuelImageFlashing then { s with lapsOfFuelCoords.fuelImageOn := true }
    else
      { s with
        lapsOfFuelCoords.fuelImageOn := true
        lapsOfFuelCoords.fuelImageFlashing := true
        lapsOfFuelCoords.fuelImageFlashState := true
        fuelImageFlashTimers := s.fuelImageFlashTimers + 1 }
  else if s.lapsOfFuelCoords.fuelImageFlashing then
    { s with
      lapsOfFuelCoords.fuelImageOn := false
      lapsOfFuelCoords.fuelImageFlashing := false
      lapsOfFuelCoords.fuelImageFlashState := false }
  else { s with lapsOfFuelCoords.fuelImageOn := false }

def lapsOfFuelUpdateIndicator (s : Page K) (isForcedUpdate : Bool) : Page K :=
  if isLapsOfFuelUpdated s.serverData || isForcedUpdate then s.updateFuelImage else s

def fuelImageFlashIntervalCallback (s : Page K) : Page K :=
  if s.fuelImageFlashTimers = 0 then s
  else if s.lapsOfFuelCoords.fuelImageFlashing then
    { s with lapsOfFuelCoords.fuelImageFlashState := !s.lapsOfFuelCoords.fuelImageFlashState }
  else { s with fuelImageFlashTimers := s.fuelImageFlashTimers - 1 }

/-! ## The Apply button -/

def spaceInTank (s : Page K) : K :=
  if s.serverData.maxFuel.val > 0 then s.serverData.maxFuel.val - s.serverData.fuelLevel.val else 0

def createFuelToAddString (s : Page K) : Page K :=
  let fuelToAddVal := s.dependentData.fuelToAddVal
  { s with
    globalData.fuelToAddStrCurrent :=
      if fuelToAddVal ≤ 0 then "None".toList
      else if s.serverData.maxFuel.val > 0 ∧ fuelToAddVal ≥ s.spaceInTank then "Full".toList
      else printInt fuelToAddVal }

/-- `LapsOfFuelIndicator_SetOnPitRoadState`: flash, and keep what is applied. -/
def setOnPitRoadState (s : Page K) : Page K :=
  if s.lapsOfFuelCoords.applyButtonFlashing then
    { s with lapsOfFuelCoords.applyButtonFlashCount := 1 } -- Already on, nothing else is done.
  else
    let s := s.createFuelToAddString
    { s with
      lapsOfFuelCoords.applyButtonFlashing := true
      lapsOfFuelCoords.applyButtonApplied := true
      lapsOfFuelCoords.applyButtonOff := false
      lapsOfFuelCoords.applyButtonFlashState := true
      lapsOfFuelCoords.applyButtonFlashCount := 1
      globalData.fuelToAddValLastApplied := s.dependentData.fuelToAddVal
      globalData.fuelToAddStrLastApplied := s.globalData.fuelToAddStrCurrent
      globalData.tiresLastApplied := s.tireState.toTires
      applyFlashTimers := s.applyFlashTimers + 1 }

/-- A callback runs only if one is pending. It sets the next one until the last flash. -/
def applyFlashIntervalCallback (s : Page K) : Page K :=
  if s.applyFlashTimers = 0 then s
  else if s.lapsOfFuelCoords.applyButtonFlashing then
    let count := s.lapsOfFuelCoords.applyButtonFlashCount + 1
    if count ≥ 9 then
      { s with
        lapsOfFuelCoords.applyButtonFlashing := false
        lapsOfFuelCoords.applyButtonFlashState := false
        lapsOfFuelCoords.applyButtonFlashCount := 1
        applyFlashTimers := s.applyFlashTimers - 1 }
    else
      { s with
        lapsOfFuelCoords.applyButtonFlashState := !s.lapsOfFuelCoords.applyButtonFlashState
        lapsOfFuelCoords.applyButtonFlashCount := count }
  else { s with applyFlashTimers := s.applyFlashTimers - 1 }

def setOffPitRoadState (s : Page K) : Page K :=
  if s.lapsOfFuelState.isOffPitRoadState then s
  else
    { s with
      lapsOfFuelState.isOffPitRoadState := true
      lapsOfFuelCoords.applyButtonFlashing := false
      lapsOfFuelCoords.applyButtonApplied := false
      lapsOfFuelCoords.applyButtonOff := true
      lapsOfFuelCoords.applyButtonFlashState := false
      lapsOfFuelCoords.applyButtonFlashCount := 1
      globalData.fuelToAddStrLastApplied := notApplied }

/-- The settings are the ones last applied. The fuel may differ by half a lap. -/
def isApplied (s : Page K) : Bool :=
  let g := s.globalData
  let fuelTolerance := s.serverData.estimatedLapFuel.val / 2
  let fuelDifference : K :=
    if g.fuelToAddStrCurrent = g.fuelToAddStrLastApplied then 0
    else ((|s.dependentData.fuelToAddVal - g.fuelToAddValLastApplied| : ℤ) : K)
  let isFuelChanged : Bool := fuelTolerance > 0 ∧ fuelDifference > fuelTolerance
  g.fuelToAddStrLastApplied ≠ notApplied ∧ !isFuelChanged ∧ s.tireState.toTires = g.tiresLastApplied

def updatePitRoadAppliedState (s : Page K) : Page K :=
  let s := s.createFuelToAddString
  { s with
    lapsOfFuelState.isOffPitRoadState := false
    lapsOfFuelCoords.applyButtonOff := false
    lapsOfFuelCoords.applyButtonApplied := s.isApplied }

end Page

end IrPitCrew.Client
