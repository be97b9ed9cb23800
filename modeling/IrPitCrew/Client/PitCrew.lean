import IrPitCrew.Client.LapsOfFuelIndicator
import IrPitCrew.Client.TiresIndicator
import IrPitCrew.Lib.Run

/-!
# irPitCrew: messages, sends and the events of the page

The page takes one event after another: a message from the server, a touch, a
click, or a timer.
-/

open IrPitCrew.Text IrPitCrew.Decimal

namespace IrPitCrew.Client

variable {K : Type*} [Field K]

/-! ## The message to the server -/

structure PitSettings where
  fuelToAdd : ℤ
  tires : Tires
  isFastRepairChecked : Bool
  isWindshieldChecked : Bool
  deriving DecidableEq

def checkedLine (isChecked : Bool) (name : String) : Str :=
  if isChecked then name.toList ++ ['\n'] else []

/-- The text that `SendPitSettings` builds. -/
def PitSettings.message (p : PitSettings) : Str :=
  ['\n'] ++ "Fuel".toList ++ [';'] ++ printInt p.fuelToAdd ++ ['\n'] ++
    checkedLine p.tires.leftFront "LeftFront" ++ checkedLine p.tires.rightFront "RightFront" ++
    checkedLine p.tires.leftRear "LeftRear" ++ checkedLine p.tires.rightRear "RightRear" ++
    checkedLine p.isFastRepairChecked "FastRepair" ++ checkedLine p.isWindshieldChecked "Windshield"

namespace Page

/-- The settings on the page. A negative amount of fuel is sent as 0. -/
def pitSettings (s : Page K) : PitSettings where
  fuelToAdd := if s.dependentData.fuelToAddVal > 0 then s.dependentData.fuelToAddVal else 0
  tires := s.tireState.toTires
  isFastRepairChecked := s.globalData.isFastRepairChecked
  isWindshieldChecked := s.globalData.isWindshieldChecked

def sendPitSettings (s : Page K) : Page K := { s with sent := s.sent ++ [s.pitSettings.message] }

variable [LinearOrder K]

def onSendButton (s : Page K) : Page K :=
  if s.serverData.isOnTrack.bool then s.setOnPitRoadState.sendPitSettings else s

/-! ## Messages from the server -/

/-- Whether the car drives into the pit lane, and the page with the two flags renewed. -/
def checkIsEnteringPitRoad (s : Page K) : Bool × Page K :=
  let isOnTrackVal := s.serverData.isOnTrack.bool
  let newOnPitRoadVal := s.serverData.onPitRoad.bool
  let newOnTrackRacingVal := isOnTrackVal && !newOnPitRoadVal
  let newOnTrackOnPitRoadVal := isOnTrackVal && newOnPitRoadVal
  let resetMinSpeed := 5
  let isEntering := s.globalData.onTrackRacingBool && !newOnTrackRacingVal &&
    newOnTrackOnPitRoadVal && decide (s.serverData.speed.val > resetMinSpeed)
  (isEntering, { s with
    globalData.onTrackRacingBool := newOnTrackRacingVal
    globalData.onTrackOnPitRoadBool := newOnTrackOnPitRoadVal })

variable [FloorRing K]

/-- The first part of `onWebSocketMessage`, up to the question whether to send. -/
def receiveMessage (s : Page K) (messageData : Str) : Bool × Page K :=
  let s := s.clearDataUpdated
  let s : Page K := { s with serverData := s.serverData.updateServerData .exact messageData }
  (s.updateDependentData.lapsOfFuelUpdateIndicator false).checkIsEnteringPitRoad

def settleMessage (s : Page K) : Page K :=
  let s := if s.globalData.onTrackOnPitRoadBool then s.updatePitRoadAppliedState
    else s.setOffPitRoadState
  s.clearDataUpdated

def heartbeat : Str := "heartbeat".toList

def onWebSocketMessage (s : Page K) (messageData : Str) : Page K :=
  if messageData = heartbeat then s
  else
    let (isEnteringPitRoad, s) := s.receiveMessage messageData
    let s := if isEnteringPitRoad && s.lapsOfFuelCoords.autoButtonState then s.onSendButton else s
    s.settleMessage

/-! ## The Apply and Auto buttons -/

def handleOnClickLapsOfFuelIndicatorEvent (s : Page K) (c : LapsOfFuelLayout K) (xPos yPos : K) :
    Page K :=
  if c.isAutoClicked xPos yPos then
    { s with lapsOfFuelCoords.autoButtonState := !s.lapsOfFuelCoords.autoButtonState }
  else if c.isApplyClicked xPos yPos then s.onSendButton
  else s

def onTouchStartLapsOfFuel (s : Page K) (c : LapsOfFuelLayout K) (e : Touch) : Page K :=
  let xPos : K := (e.clientX - e.boundingRect.left : ℤ)
  let yPos : K := (e.clientY - e.boundingRect.top : ℤ)
  let isAuto := c.isAutoClicked xPos yPos
  let isApply := c.isApplyClicked xPos yPos
  if isAuto || isApply then
    { s with
      lapsOfFuelState.touchStartX := e.clientX
      lapsOfFuelState.touchStartY := e.clientY
      lapsOfFuelState.isAutoButtonDown := isAuto || s.lapsOfFuelState.isAutoButtonDown
      lapsOfFuelState.isApplyButtonDown := isApply || s.lapsOfFuelState.isApplyButtonDown }
  else s

/-- The touch that ends started on a button and stayed near it. -/
def isLapsOfFuelTap (s : Page K) (e : Touch) : Bool :=
  (s.lapsOfFuelState.isAutoButtonDown || s.lapsOfFuelState.isApplyButtonDown) &&
    isTap (e.clientX - s.lapsOfFuelState.touchStartX) (e.clientY - s.lapsOfFuelState.touchStartY) 20

def lapsOfFuelTouchStart (s : Page K) (e : Touch) : K × K :=
  ((s.lapsOfFuelState.touchStartX - e.boundingRect.left : ℤ),
    (s.lapsOfFuelState.touchStartY - e.boundingRect.top : ℤ))

def clearLapsOfFuelTouch (s : Page K) : Page K :=
  { s with
    lapsOfFuelState.touchStartX := 0
    lapsOfFuelState.touchStartY := 0
    lapsOfFuelState.isAutoButtonDown := false
    lapsOfFuelState.isApplyButtonDown := false }

def onTouchEndLapsOfFuel (s : Page K) (c : LapsOfFuelLayout K) (e : Touch) : Page K :=
  let start : K × K := s.lapsOfFuelTouchStart e
  let s := if s.isLapsOfFuelTap e then s.handleOnClickLapsOfFuelIndicatorEvent c start.1 start.2 else s
  s.clearLapsOfFuelTouch

def onClickLapsOfFuelIndicator (s : Page K) (c : LapsOfFuelLayout K) (event : Click K) : Page K :=
  s.handleOnClickLapsOfFuelIndicatorEvent c (event.pageX - event.boundingRect.left)
    (event.pageY - event.boundingRect.top)

end Page

/-! ## Events -/

inductive Event (K : Type*) where
  | message (data : Str)
  | touchStartFuel (e : Touch)
  | touchMoveFuel (e : Touch)
  | touchEndFuel (e : Touch)
  | clickFuel (e : Click K)
  | touchStartTires (e : Touch)
  | touchEndTires (e : Touch)
  | clickTires (e : Click K)
  | touchStartLapsOfFuel (e : Touch)
  | touchEndLapsOfFuel (e : Touch)
  | clickLapsOfFuel (e : Click K)
  | clickFastRepair
  | clickWindshield
  | applyFlashInterval
  | fuelImageFlashInterval

variable [LinearOrder K] [FloorRing K]

def step (canvases : Canvases K) (s : Page K) : Event K → Page K
  | .message data => s.onWebSocketMessage data
  | .touchStartFuel e => s.onTouchStartFuel (calculateFuelOffsets canvases.fuel) e
  | .touchMoveFuel e => s.onTouchMoveFuel (calculateFuelOffsets canvases.fuel) e
  | .touchEndFuel e => s.onTouchEndFuel (calculateFuelOffsets canvases.fuel) e
  | .clickFuel e => s.onClickFuelIndicator (calculateFuelOffsets canvases.fuel) e
  | .touchStartTires e => s.onTouchStartTires (calculateTiresOffsets canvases.tires) e
  | .touchEndTires e => s.onTouchEndTires (calculateTiresOffsets canvases.tires) e
  | .clickTires e => s.onClickTiresIndicator (calculateTiresOffsets canvases.tires) e
  | .touchStartLapsOfFuel e =>
    s.onTouchStartLapsOfFuel (calculateLapsOfFuelOffsets canvases.lapsOfFuel) e
  | .touchEndLapsOfFuel e => s.onTouchEndLapsOfFuel (calculateLapsOfFuelOffsets canvases.lapsOfFuel) e
  | .clickLapsOfFuel e =>
    s.onClickLapsOfFuelIndicator (calculateLapsOfFuelOffsets canvases.lapsOfFuel) e
  | .clickFastRepair =>
    { s with globalData.isFastRepairChecked := !s.globalData.isFastRepairChecked }
  | .clickWindshield =>
    { s with globalData.isWindshieldChecked := !s.globalData.isWindshieldChecked }
  | .applyFlashInterval => s.applyFlashIntervalCallback
  | .fuelImageFlashInterval => s.fuelImageFlashIntervalCallback

end IrPitCrew.Client
