import IrPitCrew.Client.State

/-!
# FuelIndicator: the fuel gauge and its three buttons

A touch or a click chooses between the required fuel and a manual value. Each
handler that changes the choice ends in `updateManualFuel`. Drawing is left out.
-/

open IrPitCrew.Rounding

namespace IrPitCrew.Client

variable {K : Type*} [Field K] [LinearOrder K] [FloorRing K]

inductive FuelQuestion where
  | enough
  | low
  | lowOneLap

def isEnoughFuel (valueToReturn : FuelQuestion) (fuelLevelVal fuelRequiredVal lapsOfFuelVal : K) : Bool :=
  let lowLapsOfFuel := 3
  let lowLapsOfFuelOneLap := 1
  match valueToReturn with
  | .enough => fuelLevelVal ≥ fuelRequiredVal
  | .low => ¬ fuelLevelVal ≥ fuelRequiredVal ∧ lapsOfFuelVal ≤ lowLapsOfFuel
  | .lowOneLap =>
    ¬ fuelLevelVal ≥ fuelRequiredVal ∧ lapsOfFuelVal ≤ lowLapsOfFuel ∧
      lapsOfFuelVal ≤ lowLapsOfFuelOneLap

def FuelLayout.isXyInFuelGaugeArea (c : FuelLayout K) (xPos yPos : K) : Bool :=
  xPos ≥ c.fuelLeft ∧ xPos ≤ c.fuelRight ∧ yPos ≥ c.fuelTop ∧ yPos ≤ c.fuelBottom

def FuelLayout.isButtonClicked (c : FuelLayout K) (xPos yPos buttonX buttonY : K) : Bool :=
  isXyInButtonArea xPos yPos buttonX buttonY c.buttonWidth c.buttonHeight

def fineAjustRatio : K := 15

namespace Page

/-- `FuelIndicator_SetManualFuelRequiredMode`. No caller lights both buttons. -/
def setManualFuelRequiredMode (s : Page K) (value isFullButtonOn isNoneButtonOn : Bool) : Page K :=
  let isModeChange := s.fuelState.isManualFuelRequiredMode != value
  if value = false then
    { s with
      fuelState.isManualFuelRequiredMode := value
      fuelState.manualFuelRequiredValue := 0
      fuelCoords :=
        { fullButtonState := false, noneButtonState := false, requiredButtonState := true } }
  else
    { s with
      fuelState.isManualFuelRequiredMode := value
      fuelState.manualFuelRequiredValue :=
        if isFullButtonOn then s.fullFuel
        else if isNoneButtonOn then 0
        else if isModeChange then s.autoFuelRequired
        else s.fuelState.manualFuelRequiredValue
      fuelCoords :=
        { fullButtonState := isFullButtonOn
          noneButtonState := isNoneButtonOn
          requiredButtonState := false } }

/-- A distance on the gauge, up being negative. The gauge has a height, so nothing is divided by 0. -/
def calculateManualFuelRequired (s : Page K) (c : FuelLayout K) (yDist : K) : K :=
  let maxFuelVal := s.serverData.maxFuel.val
  if maxFuelVal ≤ 0 then 0
  else
    let pixelDistanceRatio := yDist / c.fuelHeight * -1
    let newFuelValue := s.fuelState.touchStartFuelRequiredVal + maxFuelVal * pixelDistanceRatio
    if newFuelValue < 0 then 0
    else if newFuelValue > maxFuelVal then maxFuelVal
    else newFuelValue

/-- The steps that follow a change by hand: flag it, update what depends on it, clear the flags. -/
def updateManualFuel (s : Page K) : Page K :=
  let s : Page K := { s with fuelState.manualFuelRequiredUpdated := true }
  let s := s.updateDependentData.clearDataUpdated
  { s with fuelState.manualFuelRequiredUpdated := false }

def setManualFuelRequiredValue (s : Page K) (value : K) : Page K :=
  updateManualFuel { s with fuelState.manualFuelRequiredValue := value }

def fineAdjust (s : Page K) (dist : ℤ) : K :=
  if s.fuelState.isFineAdjustMode then dist / fineAjustRatio else dist

/-! ## Handlers -/

def clickRequired (s : Page K) : Page K :=
  if s.fuelCoords.requiredButtonState then s.setManualFuelRequiredMode true false false
  else s.setManualFuelRequiredMode false false false

def clickGauge (s : Page K) (c : FuelLayout K) (yPos : K) : Page K :=
  let s := s.setManualFuelRequiredMode true false false
  let s : Page K := { s with fuelState.touchStartFuelRequiredVal := 0 }
  s.setManualFuelRequiredValue (s.calculateManualFuelRequired c ((c.fuelBottom - yPos) * -1))

/-- Several buttons may hold the point, and are then handled one after another. -/
def clickButtons (s : Page K) (isRequiredClicked isFullClicked isNoneClicked : Bool) : Page K :=
  let s := if isRequiredClicked then s.clickRequired else s
  let s := if isFullClicked then s.setManualFuelRequiredMode true true false else s
  if isNoneClicked then s.setManualFuelRequiredMode true false true else s

def handleOnClickFuelIndicatorEvent (s : Page K) (c : FuelLayout K) (xPos yPos : K) : Page K :=
  let isRequiredClicked := c.isButtonClicked xPos yPos c.requiredButtonX c.requiredButtonY
  let isFullClicked := c.isButtonClicked xPos yPos c.fullButtonX c.fullButtonY
  let isNoneClicked := c.isButtonClicked xPos yPos c.noneButtonX c.noneButtonY
  let s := s.clickButtons isRequiredClicked isFullClicked isNoneClicked
  let s := if c.isXyInFuelGaugeArea xPos yPos then s.clickGauge c yPos else s
  if isRequiredClicked || isFullClicked || isNoneClicked then s.updateManualFuel else s

def onTouchStartFuel (s : Page K) (c : FuelLayout K) (e : Touch) : Page K :=
  let xPos : K := (e.clientX - e.boundingRect.left : ℤ)
  let yPos : K := (e.clientY - e.boundingRect.top : ℤ)
  if c.isXyInFuelGaugeArea xPos yPos then
    let s : Page K := { s with
      fuelState.isTouchFuelDown := true
      fuelState.touchStartX := e.clientX
      fuelState.touchStartY := e.clientY }
    if s.serverData.maxFuel.val > 0 then
      { s with
        fuelState.isTouchFuelDownForAdj := true
        fuelState.touchStartFuelRequiredVal :=
          if s.fuelState.isManualFuelRequiredMode then s.fuelState.manualFuelRequiredValue
          else s.autoFuelRequired }
    else s
  else if isXyInButtonArea xPos yPos c.panelLeft 0 c.panelWidth c.canvasHeight then
    { s with
      fuelState.touchStartX := e.clientX
      fuelState.touchStartY := e.clientY
      fuelState.isTouchButtonDown := true }
  else s

def onTouchMoveFuel (s : Page K) (c : FuelLayout K) (e : Touch) : Page K :=
  if s.fuelState.isTouchFuelDownForAdj then
    let dist := e.clientY - s.fuelState.touchStartY
    let isManualAdjustMode := s.fuelState.isManualFuelRequiredMode &&
      !s.fuelCoords.fullButtonState && !s.fuelCoords.noneButtonState
    if dist ≠ 0 ∨ isManualAdjustMode then
      let s := s.setManualFuelRequiredMode true false false
      s.setManualFuelRequiredValue (s.calculateManualFuelRequired c (s.fineAdjust dist))
    else s
  else s

/-- The end of a touch that started in the gauge: a click, or the last move of a drag. -/
def endGaugeTouch (s : Page K) (c : FuelLayout K) (distX distY : ℤ) : Page K :=
  if isTap distX distY 5 then
    { s with fuelState.isFineAdjustMode := !s.fuelState.isFineAdjustMode }
  else if s.fuelState.isTouchFuelDownForAdj && s.fuelState.isManualFuelRequiredMode then
    s.setManualFuelRequiredValue (s.calculateManualFuelRequired c (s.fineAdjust distY))
  else s

/-- The end of a touch that started on the buttons: a click where the touch started. -/
def endButtonTouch (s : Page K) (c : FuelLayout K) (boundingRect : Offset) (distX distY : ℤ) :
    Page K :=
  if isTap distX distY 20 then
    s.handleOnClickFuelIndicatorEvent c (s.fuelState.touchStartX - boundingRect.left : ℤ)
      (s.fuelState.touchStartY - boundingRect.top : ℤ)
  else s

def onTouchEndFuel (s : Page K) (c : FuelLayout K) (e : Touch) : Page K :=
  let distX := e.clientX - s.fuelState.touchStartX
  let distY := e.clientY - s.fuelState.touchStartY
  let s :=
    if s.fuelState.isTouchFuelDown || s.fuelState.isTouchFuelDownForAdj then
      s.endGaugeTouch c distX distY
    else if s.fuelState.isTouchButtonDown then s.endButtonTouch c e.boundingRect distX distY
    else s
  { s with
    fuelState.touchStartX := 0
    fuelState.touchStartY := 0
    fuelState.isTouchFuelDown := false
    fuelState.isTouchFuelDownForAdj := false
    fuelState.isTouchButtonDown := false
    fuelState.touchStartFuelRequiredVal := 0 }

def onClickFuelIndicator (s : Page K) (c : FuelLayout K) (event : Click K) : Page K :=
  s.handleOnClickFuelIndicatorEvent c (event.pageX - event.boundingRect.left)
    (event.pageY - event.boundingRect.top)

end Page

end IrPitCrew.Client
