import IrPitCrew.Client.ServerData

/-!
# The page's global objects

The state of the page between two events: `serverData`, the three indicators,
and what was sent and is still to fire. Layout is fixed when the page loads.
-/

open IrPitCrew.Text IrPitCrew.Rounding

namespace IrPitCrew.Client

variable {K : Type*}

/-! ## Layout -/

structure Canvas (K : Type*) where
  width : K
  height : K

structure Canvases (K : Type*) where
  fuel : Canvas K
  tires : Canvas K
  lapsOfFuel : Canvas K

/-- The part of `fuelCoords` that `calculateFuelOffsets` computes. -/
structure FuelLayout (K : Type*) where
  canvasHeight : K
  panelLeft : K
  panelWidth : K
  buttonHeight : K
  buttonWidth : K
  fullButtonX : K
  fullButtonY : K
  requiredButtonX : K
  requiredButtonY : K
  noneButtonX : K
  noneButtonY : K
  fuelTop : K
  fuelBottom : K
  fuelRight : K
  fuelLeft : K
  fuelHeight : K

structure LapsOfFuelLayout (K : Type*) where
  bottomOffset : K
  leftOffset : K
  rightOffset : K
  autoApplyButtonGap : K
  buttonHeight : K
  autoButtonX : K
  autoButtonY : K
  autoButtonWidth : K
  applyButtonX : K
  applyButtonY : K
  applyButtonWidth : K

structure TiresLayout (K : Type*) where
  tiresTop : K
  tiresBottom : K
  tiresRight : K
  tiresLeft : K
  tireWidth : K
  tireHeight : K
  markerWidth : K
  markerHeight : K
  leftFrontX : K
  leftFrontY : K
  rightFrontX : K
  rightFrontY : K
  leftRearX : K
  leftRearY : K
  rightRearX : K
  rightRearY : K
  centerX : K
  centerY : K

section

variable [Field K]

def calculateFuelOffsets (canvas : Canvas K) : FuelLayout K :=
  let fuelTopOffset := 40
  let fuelBottomOffset := 40
  let fuelRightOffset := 30
  let panelRightOffset := 10
  let fuelWidth := 120
  let panelWidth := 100
  let panelTop := 0 + fuelTopOffset
  let panelBottom := canvas.height - fuelBottomOffset
  let panelLeft := canvas.width - panelRightOffset - panelWidth
  let fuelHeaderHeight := 45
  let buttonHeight := 60
  let fullButtonY := panelTop + fuelHeaderHeight + 10
  let buttonSpanHeight := panelBottom - fullButtonY
  let fuelTop := 0 + fuelTopOffset + fuelHeaderHeight
  let fuelBottom := canvas.height - fuelBottomOffset
  let fuelRight := panelLeft - fuelRightOffset
  { canvasHeight := canvas.height
    panelLeft
    panelWidth
    buttonHeight
    buttonWidth := panelWidth + 10
    fullButtonX := panelLeft
    fullButtonY
    requiredButtonX := panelLeft
    requiredButtonY := fullButtonY + buttonSpanHeight / 2 - buttonHeight / 2
    noneButtonX := panelLeft
    noneButtonY := panelBottom - buttonHeight
    fuelTop
    fuelBottom
    fuelRight
    fuelLeft := fuelRight - fuelWidth
    fuelHeight := fuelBottom - fuelTop }

def calculateLapsOfFuelOffsets (canvas : Canvas K) : LapsOfFuelLayout K :=
  let bottomOffset := 30
  let leftOffset := 30
  let rightOffset := 30
  let autoApplyButtonGap := 20
  let bottom := canvas.height - bottomOffset
  let left := 0 + leftOffset
  let right := canvas.width - rightOffset
  let width := right - left
  let buttonHeight := 40
  let buttonWidth := width / 2 - autoApplyButtonGap / 2
  let autoButtonWidth := buttonWidth * (9 / 10)
  let applyButtonWidth := buttonWidth * 2 - autoButtonWidth
  let applyButtonX := left
  let applyButtonY := bottom - buttonHeight
  { bottomOffset
    leftOffset
    rightOffset
    autoApplyButtonGap
    buttonHeight
    autoButtonX := applyButtonX + applyButtonWidth + autoApplyButtonGap
    autoButtonY := applyButtonY
    autoButtonWidth
    applyButtonX
    applyButtonY
    applyButtonWidth }

def calculateTiresOffsets (canvas : Canvas K) : TiresLayout K :=
  let tiresWidth := 150
  let tiresTop := 0 + 80
  let tiresBottom := canvas.height - 80
  let tiresLeft := 0 + 80
  let tiresRight := tiresLeft + tiresWidth
  { tiresTop
    tiresBottom
    tiresRight
    tiresLeft
    tireWidth := 40
    tireHeight := 80
    markerWidth := 100
    markerHeight := 100
    leftFrontX := tiresLeft
    leftFrontY := tiresTop
    rightFrontX := tiresRight
    rightFrontY := tiresTop
    leftRearX := tiresLeft
    leftRearY := tiresBottom
    rightRearX := tiresRight
    rightRearY := tiresBottom
    centerX := (tiresLeft + tiresRight) / 2
    centerY := (tiresTop + tiresBottom) / 2 }

end

/-! ## State -/

structure DependentData where
  fuelToAddVal : ℤ := 0
  fuelToAddUpdated : Bool := false

structure FuelState (K : Type*) [Zero K] where
  isTouchFuelDown : Bool := false
  isTouchFuelDownForAdj : Bool := false
  touchStartX : ℤ := 0
  touchStartY : ℤ := 0
  touchStartFuelRequiredVal : K := 0
  isTouchButtonDown : Bool := false
  isFineAdjustMode : Bool := false
  isManualFuelRequiredMode : Bool := false
  manualFuelRequiredValue : K := 0
  manualFuelRequiredUpdated : Bool := false

structure FuelCoords where
  fullButtonState : Bool := false
  noneButtonState : Bool := false
  requiredButtonState : Bool := true

structure Tires where
  leftFront : Bool := false
  rightFront : Bool := false
  leftRear : Bool := false
  rightRear : Bool := false
  deriving DecidableEq

structure TireState extends Tires where
  center : Bool := false
  isTouchDown : Bool := false
  touchStartX : ℤ := 0
  touchStartY : ℤ := 0

structure LapsOfFuelCoords where
  autoButtonState : Bool := true
  applyButtonFlashing : Bool := false
  applyButtonFlashState : Bool := false
  applyButtonFlashCount : Nat := 0
  applyButtonApplied : Bool := false
  applyButtonOff : Bool := true
  fuelImageOn : Bool := false
  fuelImageFlashing : Bool := false
  fuelImageFlashState : Bool := false

structure LapsOfFuelState where
  touchStartX : ℤ := 0
  touchStartY : ℤ := 0
  isAutoButtonDown : Bool := false
  isApplyButtonDown : Bool := false
  isOffPitRoadState : Bool := false

def notApplied : Str := "NotApplied".toList

structure GlobalData where
  onTrackRacingBool : Bool := false
  onTrackOnPitRoadBool : Bool := false
  fuelToAddValLastApplied : ℤ := 0
  fuelToAddStrCurrent : Str := []
  fuelToAddStrLastApplied : Str := notApplied
  tiresLastApplied : Tires := {}
  isFastRepairChecked : Bool := true
  isWindshieldChecked : Bool := true

/-- The page. `sent` is what `websocket.send` was given, heartbeats apart. -/
structure Page (K : Type*) [Field K] where
  serverData : ServerData K := {}
  dependentData : DependentData := {}
  globalData : GlobalData := {}
  fuelState : FuelState K := {}
  fuelCoords : FuelCoords := {}
  tireState : TireState := {}
  lapsOfFuelCoords : LapsOfFuelCoords := {}
  lapsOfFuelState : LapsOfFuelState := {}
  /-- Calls of `setTimeout` whose callback did not run yet. -/
  applyFlashTimers : Nat := 0
  fuelImageFlashTimers : Nat := 0
  sent : List Str := []

/-! ## Touches and clicks -/

structure Offset where
  left : ℤ
  top : ℤ

/-- `changedTouches[0]` of a touch event, its coordinates as `parseInt` reads them. -/
structure Touch where
  clientX : ℤ
  clientY : ℤ
  boundingRect : Offset

structure Click (K : Type*) where
  pageX : K
  pageY : K
  boundingRect : Offset

section

variable [LinearOrder K]

def isXyInButtonArea [Add K] (xPos yPos buttonX buttonY buttonW buttonH : K) : Bool :=
  xPos > buttonX ∧ xPos < buttonX + buttonW ∧ yPos > buttonY ∧ yPos < buttonY + buttonH

end

/-- Both coordinates moved by less than `clickMaxDist`. -/
def isTap (distX distY clickMaxDist : ℤ) : Bool := |distX| < clickMaxDist ∧ |distY| < clickMaxDist

/-! ## UpdateData -/

variable [Field K]

namespace Page

def clearDataUpdated (s : Page K) : Page K :=
  { s with
    serverData := s.serverData.clearDataUpdated
    dependentData.fuelToAddUpdated := false }

variable [LinearOrder K]

/-- The fuel required from the server, and 0 for the -1 of no limit. -/
def autoFuelRequired (s : Page K) : K :=
  if s.serverData.fuelRequired.val < 0 then 0 else s.serverData.fuelRequired.val

def fullFuel (s : Page K) : K :=
  if s.serverData.maxFuel.val > 0 then s.serverData.maxFuel.val else 0

/-- In manual mode the Full button follows a new maximum. -/
def refreshFull (s : Page K) : Page K :=
  if s.fuelState.isManualFuelRequiredMode && s.serverData.maxFuel.updated &&
      s.fuelCoords.fullButtonState then
    { s with fuelState.manualFuelRequiredValue := s.fullFuel }
  else s

variable [FloorRing K]

/-- The fuel to add, from the fuel required by hand or by the server. -/
def storeFuelToAdd (s : Page K) : Page K :=
  let fuelRequiredVal :=
    if s.fuelState.isManualFuelRequiredMode then s.fuelState.manualFuelRequiredValue
    else s.autoFuelRequired
  let fuelToAddVal := fuelRequiredVal - s.serverData.fuelLevel.val
  -- Rounded to a whole number next, so always up if positive.
  let fuelToAddVal := if fuelToAddVal > 0 then fuelToAddVal + 1 / 2 else fuelToAddVal
  let newVal := roundHalfAway fuelToAddVal
  if newVal ≠ s.dependentData.fuelToAddVal then
    { s with dependentData := { fuelToAddUpdated := true, fuelToAddVal := newVal } }
  else s

def updateDependentData (s : Page K) : Page K :=
  if s.serverData.isFuelUpdated || s.fuelState.manualFuelRequiredUpdated then
    s.refreshFull.storeFuelToAdd
  else s

end Page

end IrPitCrew.Client
