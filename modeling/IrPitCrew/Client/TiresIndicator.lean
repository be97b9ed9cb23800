import IrPitCrew.Client.State

/-!
# TiresIndicator: the four wheels and the marker between them
-/

namespace IrPitCrew.Client

variable {K : Type*} [Field K] [LinearOrder K]

namespace TiresLayout

def isXyInTireArea (c : TiresLayout K) (xPos yPos tireX tireY : K) : Bool :=
  let touchWidthExpansion := c.tireWidth / 3
  let touchHeightExpansion := c.tireHeight / 3
  xPos > tireX - c.tireWidth / 2 - touchWidthExpansion ∧
    xPos < tireX + c.tireWidth / 2 + touchWidthExpansion ∧
    yPos > tireY - c.tireHeight / 2 - touchHeightExpansion ∧
    yPos < tireY + c.tireHeight / 2 + touchHeightExpansion

def isXyInMarkerArea (c : TiresLayout K) (xPos yPos markerX markerY : K) : Bool :=
  xPos > markerX - c.markerWidth / 2 ∧ xPos < markerX + c.markerWidth / 2 ∧
    yPos > markerY - c.markerHeight / 2 ∧ yPos < markerY + c.markerHeight / 2

end TiresLayout

def Tires.any (t : Tires) : Bool := t.leftFront || t.rightFront || t.leftRear || t.rightRear

/-- Each clicked wheel is switched, then a clicked marker sets all four. -/
def TireState.handleOnClick (t : TireState) (c : TiresLayout K) (xPos yPos : K) : TireState :=
  let isLeftFront := c.isXyInTireArea xPos yPos c.leftFrontX c.leftFrontY
  let isRightFront := c.isXyInTireArea xPos yPos c.rightFrontX c.rightFrontY
  let isLeftRear := c.isXyInTireArea xPos yPos c.leftRearX c.leftRearY
  let isRightRear := c.isXyInTireArea xPos yPos c.rightRearX c.rightRearY
  let isCenter := c.isXyInMarkerArea xPos yPos c.centerX c.centerY
  let tires : Tires :=
    if isCenter then
      { leftFront := !t.center, rightFront := !t.center, leftRear := !t.center, rightRear := !t.center }
    else
      { leftFront := t.leftFront ^^ isLeftFront
        rightFront := t.rightFront ^^ isRightFront
        leftRear := t.leftRear ^^ isLeftRear
        rightRear := t.rightRear ^^ isRightRear }
  if isLeftFront || isRightFront || isLeftRear || isRightRear || isCenter then
    { t with toTires := tires, center := tires.any }
  else t

def swipe (distX distY : ℤ) : Tires :=
  if |distX| > |distY| then
    if distX > 0 then { rightFront := true, rightRear := true }
    else { leftFront := true, leftRear := true }
  else
    if distY > 0 then { leftRear := true, rightRear := true }
    else { leftFront := true, rightFront := true }

namespace Page

def handleOnClickTiresIndicatorEvent (s : Page K) (c : TiresLayout K) (xPos yPos : K) : Page K :=
  { s with tireState := s.tireState.handleOnClick c xPos yPos }

def onTouchStartTires (s : Page K) (c : TiresLayout K) (e : Touch) : Page K :=
  let xPos : K := (e.clientX - e.boundingRect.left : ℤ)
  let yPos : K := (e.clientY - e.boundingRect.top : ℤ)
  let leftBoundary := c.tiresLeft - c.tireWidth / 2
  let rightBoundary := c.tiresRight + c.tireWidth / 2
  let topBoundary := c.tiresTop - c.tireHeight / 2
  let bottomBoundary := c.tiresBottom + c.tireHeight / 2
  if xPos ≥ leftBoundary ∧ xPos ≤ rightBoundary ∧ yPos ≥ topBoundary ∧ yPos ≤ bottomBoundary then
    { s with
      tireState.touchStartX := e.clientX
      tireState.touchStartY := e.clientY
      tireState.isTouchDown := true }
  else s

def onTouchEndTires (s : Page K) (c : TiresLayout K) (e : Touch) : Page K :=
  if s.tireState.isTouchDown then
    let distX := e.clientX - s.tireState.touchStartX
    let distY := e.clientY - s.tireState.touchStartY
    let minDragDist := 50
    let s :=
      if isTap distX distY 20 then
        s.handleOnClickTiresIndicatorEvent c (s.tireState.touchStartX - e.boundingRect.left : ℤ)
          (s.tireState.touchStartY - e.boundingRect.top : ℤ)
      else if |distX| > minDragDist ∨ |distY| > minDragDist then
        { s with
          tireState.toTires := swipe distX distY
          tireState.center := true }
      else s
    { s with
      tireState.touchStartX := 0
      tireState.touchStartY := 0
      tireState.isTouchDown := false }
  else s

def onClickTiresIndicator (s : Page K) (c : TiresLayout K) (event : Click K) : Page K :=
  s.handleOnClickTiresIndicatorEvent c (event.pageX - event.boundingRect.left)
    (event.pageY - event.boundingRect.top)

end Page

end IrPitCrew.Client
