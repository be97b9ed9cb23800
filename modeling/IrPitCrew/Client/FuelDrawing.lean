import IrPitCrew.Client.Frame
import Mathlib.Data.Rat.Floor

/-!
# FuelIndicator: when the gauge is drawn again

`FuelIndicator_UpdateFuelIndicator` draws when one of nine flags is raised. The
handlers are those of the page, with the calls that draw.
-/

open IrPitCrew.Text IrPitCrew.Run

namespace IrPitCrew.Client

variable {K : Type*} [Field K]

/-! ## The drawing -/

/-- The values that the gauge is drawn with. -/
structure FuelDrawing (K : Type*) where
  fuelLevelStr : Str
  fuelLevelVal : K
  fuelForOneLapVal : K
  fuelRequiredStr : Str
  fuelRequiredVal : K
  maxFuelStr : Str
  maxFuelVal : K
  lapsOfFuelVal : K
  fuelUnitsStr : Str
  fuelToAddVal : ℤ
  manualFuelRequiredVal : K
  isManualFuelRequiredMode : Bool
  fullButtonState : Bool
  noneButtonState : Bool
  requiredButtonState : Bool
  isFineAdjustMode : Bool
  deriving DecidableEq

def Page.fuelDrawing (s : Page K) : FuelDrawing K where
  fuelLevelStr := s.serverData.fuelLevel.str
  fuelLevelVal := s.serverData.fuelLevel.val
  fuelForOneLapVal := s.serverData.fuelForOneLap.val
  fuelRequiredStr := s.serverData.fuelRequired.str
  fuelRequiredVal := s.serverData.fuelRequired.val
  maxFuelStr := s.serverData.maxFuel.str
  maxFuelVal := s.serverData.maxFuel.val
  lapsOfFuelVal := s.serverData.lapsOfFuel.val
  fuelUnitsStr := s.serverData.fuelDisplayUnits.str
  fuelToAddVal := s.dependentData.fuelToAddVal
  manualFuelRequiredVal := s.fuelState.manualFuelRequiredValue
  isManualFuelRequiredMode := s.fuelState.isManualFuelRequiredMode
  fullButtonState := s.fuelCoords.fullButtonState
  noneButtonState := s.fuelCoords.noneButtonState
  requiredButtonState := s.fuelCoords.requiredButtonState
  isFineAdjustMode := s.fuelState.isFineAdjustMode

/-- The page and what the canvas shows, which is nothing before the first drawing. -/
structure Screen (K : Type*) [Field K] where
  page : Page K := {}
  isFineAdjustModeUpdated : Bool := false
  drawn : Option (FuelDrawing K) := none

namespace Screen

/-- No code sets `fuelDisplayUnitsUpdates`. The flag that a message sets is `fuelDisplayUnitsUpdated`. -/
def isDataUpdated (g : Screen K) : Bool :=
  let d := g.page.serverData
  let fuelDisplayUnitsUpdates := false
  d.fuelLevel.updated || d.fuelForOneLap.updated || d.fuelRequired.updated || d.maxFuel.updated ||
    d.lapsOfFuel.updated || fuelDisplayUnitsUpdates || g.page.dependentData.fuelToAddUpdated ||
    g.page.fuelState.manualFuelRequiredUpdated || g.isFineAdjustModeUpdated

def updateFuelIndicator (g : Screen K) (isForcedUpdate : Bool) : Screen K :=
  if !g.isDataUpdated && !isForcedUpdate then g else { g with drawn := some g.page.fuelDrawing }

/-- The first drawing is forced, when the canvas gets its size. -/
def init : Screen K := updateFuelIndicator {} true

variable [LinearOrder K] [FloorRing K]

/-! ## Handlers -/

def updateManualFuel (g : Screen K) : Screen K :=
  let s : Page K := { g.page with fuelState.manualFuelRequiredUpdated := true }
  let g := ({ g with page := s.updateDependentData } : Screen K).updateFuelIndicator false
  let s := g.page.clearDataUpdated
  { g with page := { s with fuelState.manualFuelRequiredUpdated := false } }

def setManualFuelRequiredValue (g : Screen K) (value : K) : Screen K :=
  updateManualFuel { g with page := { g.page with fuelState.manualFuelRequiredValue := value } }

def clickGauge (g : Screen K) (c : FuelLayout K) (yPos : K) : Screen K :=
  let s := g.page.setManualFuelRequiredMode true false false
  let s : Page K := { s with fuelState.touchStartFuelRequiredVal := 0 }
  setManualFuelRequiredValue { g with page := s }
    (s.calculateManualFuelRequired c ((c.fuelBottom - yPos) * -1))

def handleOnClickFuelIndicatorEvent (g : Screen K) (c : FuelLayout K) (xPos yPos : K) : Screen K :=
  let isRequiredClicked := c.isButtonClicked xPos yPos c.requiredButtonX c.requiredButtonY
  let isFullClicked := c.isButtonClicked xPos yPos c.fullButtonX c.fullButtonY
  let isNoneClicked := c.isButtonClicked xPos yPos c.noneButtonX c.noneButtonY
  let g : Screen K :=
    { g with page := g.page.clickButtons isRequiredClicked isFullClicked isNoneClicked }
  let g := if c.isXyInFuelGaugeArea xPos yPos then g.clickGauge c yPos else g
  if isRequiredClicked || isFullClicked || isNoneClicked then g.updateManualFuel else g

def onTouchMoveFuel (g : Screen K) (c : FuelLayout K) (e : Touch) : Screen K :=
  if g.page.fuelState.isTouchFuelDownForAdj then
    let dist := e.clientY - g.page.fuelState.touchStartY
    let isManualAdjustMode := g.page.fuelState.isManualFuelRequiredMode &&
      !g.page.fuelCoords.fullButtonState && !g.page.fuelCoords.noneButtonState
    if dist ≠ 0 ∨ isManualAdjustMode then
      let s := g.page.setManualFuelRequiredMode true false false
      setManualFuelRequiredValue { g with page := s }
        (s.calculateManualFuelRequired c (s.fineAdjust dist))
    else g
  else g

/-- A click draws with the flag of the fine mode raised. -/
def toggleFineAdjustMode (g : Screen K) : Screen K :=
  let s : Page K := { g.page with fuelState.isFineAdjustMode := !g.page.fuelState.isFineAdjustMode }
  let g : Screen K := { g with page := s, isFineAdjustModeUpdated := true }
  { g.updateFuelIndicator false with isFineAdjustModeUpdated := false }

def endGaugeTouch (g : Screen K) (c : FuelLayout K) (distX distY : ℤ) : Screen K :=
  if isTap distX distY 5 then g.toggleFineAdjustMode
  else if g.page.fuelState.isTouchFuelDownForAdj && g.page.fuelState.isManualFuelRequiredMode then
    g.setManualFuelRequiredValue (g.page.calculateManualFuelRequired c (g.page.fineAdjust distY))
  else g

def endButtonTouch (g : Screen K) (c : FuelLayout K) (boundingRect : Offset) (distX distY : ℤ) :
    Screen K :=
  if isTap distX distY 20 then
    g.handleOnClickFuelIndicatorEvent c (g.page.fuelState.touchStartX - boundingRect.left : ℤ)
      (g.page.fuelState.touchStartY - boundingRect.top : ℤ)
  else g

def onTouchEndFuel (g : Screen K) (c : FuelLayout K) (e : Touch) : Screen K :=
  let distX := e.clientX - g.page.fuelState.touchStartX
  let distY := e.clientY - g.page.fuelState.touchStartY
  let g :=
    if g.page.fuelState.isTouchFuelDown || g.page.fuelState.isTouchFuelDownForAdj then
      g.endGaugeTouch c distX distY
    else if g.page.fuelState.isTouchButtonDown then g.endButtonTouch c e.boundingRect distX distY
    else g
  { g with
    page := { g.page with
      fuelState.touchStartX := 0
      fuelState.touchStartY := 0
      fuelState.isTouchFuelDown := false
      fuelState.isTouchFuelDownForAdj := false
      fuelState.isTouchButtonDown := false
      fuelState.touchStartFuelRequiredVal := 0 } }

def onClickFuelIndicator (g : Screen K) (c : FuelLayout K) (event : Click K) : Screen K :=
  g.handleOnClickFuelIndicatorEvent c (event.pageX - event.boundingRect.left)
    (event.pageY - event.boundingRect.top)

/-- The gauge is drawn after the values, and before the other indicators. -/
def onWebSocketMessage (g : Screen K) (messageData : Str) : Screen K :=
  if messageData = Page.heartbeat then g
  else
    let s := g.page.clearDataUpdated
    let s : Page K := { s with serverData := s.serverData.updateServerData .exact messageData }
    let g := ({ g with page := s.updateDependentData } : Screen K).updateFuelIndicator false
    let (isEnteringPitRoad, s) := (g.page.lapsOfFuelUpdateIndicator false).checkIsEnteringPitRoad
    let s := if isEnteringPitRoad && s.lapsOfFuelCoords.autoButtonState then s.onSendButton else s
    { g with page := s.settleMessage }

def step (canvases : Canvases K) (g : Screen K) : Event K → Screen K
  | .message data => g.onWebSocketMessage data
  | .touchMoveFuel e => g.onTouchMoveFuel (calculateFuelOffsets canvases.fuel) e
  | .touchEndFuel e => g.onTouchEndFuel (calculateFuelOffsets canvases.fuel) e
  | .clickFuel e => g.onClickFuelIndicator (calculateFuelOffsets canvases.fuel) e
  | e => { g with page := Client.step canvases g.page e }

/-! ## Drawing leaves the page alone -/

omit [LinearOrder K] [FloorRing K] in
@[simp] theorem page_updateFuelIndicator (g : Screen K) (isForcedUpdate : Bool) :
    (g.updateFuelIndicator isForcedUpdate).page = g.page := by
  unfold updateFuelIndicator
  split <;> rfl

theorem page_updateManualFuel (g : Screen K) : g.updateManualFuel.page = g.page.updateManualFuel := by
  simp only [updateManualFuel, page_updateFuelIndicator]
  rfl

theorem page_setManualFuelRequiredValue (g : Screen K) (value : K) :
    (g.setManualFuelRequiredValue value).page = g.page.setManualFuelRequiredValue value :=
  page_updateManualFuel _

theorem page_clickGauge (g : Screen K) (c : FuelLayout K) (yPos : K) :
    (g.clickGauge c yPos).page = g.page.clickGauge c yPos := page_setManualFuelRequiredValue _ _

theorem page_handleOnClickFuelIndicatorEvent (g : Screen K) (c : FuelLayout K) (xPos yPos : K) :
    (g.handleOnClickFuelIndicatorEvent c xPos yPos).page =
      g.page.handleOnClickFuelIndicatorEvent c xPos yPos := by
  unfold handleOnClickFuelIndicatorEvent Page.handleOnClickFuelIndicatorEvent
  dsimp only
  split
  · rw [page_updateManualFuel]
    split
    · rw [page_clickGauge]
    · rfl
  · split
    · rw [page_clickGauge]
    · rfl

theorem page_endButtonTouch (g : Screen K) (c : FuelLayout K) (boundingRect : Offset)
    (distX distY : ℤ) :
    (g.endButtonTouch c boundingRect distX distY).page =
      g.page.endButtonTouch c boundingRect distX distY := by
  unfold endButtonTouch Page.endButtonTouch
  split
  · rw [page_handleOnClickFuelIndicatorEvent]
  · rfl

theorem page_endGaugeTouch (g : Screen K) (c : FuelLayout K) (distX distY : ℤ) :
    (g.endGaugeTouch c distX distY).page = g.page.endGaugeTouch c distX distY := by
  unfold endGaugeTouch Page.endGaugeTouch
  split
  · simp only [toggleFineAdjustMode, page_updateFuelIndicator]
  · split
    · rw [page_setManualFuelRequiredValue]
    · rfl

theorem page_onTouchMoveFuel (g : Screen K) (c : FuelLayout K) (e : Touch) :
    (g.onTouchMoveFuel c e).page = g.page.onTouchMoveFuel c e := by
  unfold onTouchMoveFuel Page.onTouchMoveFuel
  dsimp only
  split
  · split
    · rw [page_setManualFuelRequiredValue]
    · rfl
  · rfl

theorem page_onTouchEndFuel (g : Screen K) (c : FuelLayout K) (e : Touch) :
    (g.onTouchEndFuel c e).page = g.page.onTouchEndFuel c e := by
  unfold onTouchEndFuel Page.onTouchEndFuel
  dsimp only
  split
  · rw [page_endGaugeTouch]
  · split
    · rw [page_endButtonTouch]
    · rfl

theorem page_onWebSocketMessage (g : Screen K) (messageData : Str) :
    (g.onWebSocketMessage messageData).page = g.page.onWebSocketMessage messageData := by
  unfold onWebSocketMessage Page.onWebSocketMessage
  split
  · rfl
  · simp only [page_updateFuelIndicator]
    rfl

/-- **Simulation.** What is drawn is read from the page and not written to it. -/
theorem page_step (canvases : Canvases K) (g : Screen K) (e : Event K) :
    (g.step canvases e).page = Client.step canvases g.page e := by
  cases e with
  | message data => exact g.page_onWebSocketMessage data
  | touchMoveFuel e => exact g.page_onTouchMoveFuel _ e
  | touchEndFuel e => exact g.page_onTouchEndFuel _ e
  | clickFuel e => exact g.page_handleOnClickFuelIndicatorEvent _ _ _
  | _ => rfl

/-! ## What each handler draws -/

/-- The gauge was last drawn with the values of the page. -/
def Shown (g : Screen K) : Prop := g.drawn = some g.page.fuelDrawing

/-- Between two events the two flags of the gauge are down. -/
structure Settled (g : Screen K) : Prop where
  manual : g.page.fuelState.manualFuelRequiredUpdated = false
  fine : g.isFineAdjustModeUpdated = false

structure Current (g : Screen K) : Prop extends Settled g where
  shown : g.Shown

omit [LinearOrder K] [FloorRing K] in
theorem Shown.congr {g g' : Screen K} (hs : g.Shown) (hdrawn : g'.drawn = g.drawn)
    (hpage : g'.page.fuelDrawing = g.page.fuelDrawing) : g'.Shown := by
  rw [Shown, hdrawn, hpage]
  exact hs

omit [LinearOrder K] [FloorRing K] in
theorem shown_updateFuelIndicator (g : Screen K) (isForcedUpdate : Bool)
    (h : (g.isDataUpdated || isForcedUpdate) = true) : (g.updateFuelIndicator isForcedUpdate).Shown := by
  unfold updateFuelIndicator Shown
  rw [Bool.or_eq_true] at h
  rw [if_neg]
  rcases h with hdata | hforced
  · simp [hdata]
  · simp [hforced]

omit [LinearOrder K] [FloorRing K] in
theorem isFineAdjustModeUpdated_updateFuelIndicator (g : Screen K) (isForcedUpdate : Bool) :
    (g.updateFuelIndicator isForcedUpdate).isFineAdjustModeUpdated = g.isFineAdjustModeUpdated := by
  unfold updateFuelIndicator
  split <;> rfl

theorem manualFuelRequiredUpdated_updateDependentData (s : Page K) :
    s.updateDependentData.fuelState.manualFuelRequiredUpdated =
      s.fuelState.manualFuelRequiredUpdated := by
  unfold Page.updateDependentData Page.storeFuelToAdd Page.refreshFull
  dsimp only
  repeat' split
  all_goals rfl

/-- **Change by hand.** Its flag is up, so it is always drawn. -/
theorem current_updateManualFuel (g : Screen K) (h : g.isFineAdjustModeUpdated = false) :
    g.updateManualFuel.Current := by
  have hflag := manualFuelRequiredUpdated_updateDependentData
    ({ g.page with fuelState.manualFuelRequiredUpdated := true } : Page K)
  refine ⟨⟨rfl, (isFineAdjustModeUpdated_updateFuelIndicator _ _).trans h⟩, ?_⟩
  refine Shown.congr (shown_updateFuelIndicator ({ g with
    page := ({ g.page with fuelState.manualFuelRequiredUpdated := true } : Page K).updateDependentData }
    : Screen K) false ?_) rfl rfl
  simp only [isDataUpdated, hflag, Bool.or_true, Bool.true_or]

theorem current_setManualFuelRequiredValue (g : Screen K) (value : K)
    (h : g.isFineAdjustModeUpdated = false) : (g.setManualFuelRequiredValue value).Current :=
  current_updateManualFuel _ h

theorem current_clickGauge (g : Screen K) (c : FuelLayout K) (yPos : K)
    (h : g.isFineAdjustModeUpdated = false) : (g.clickGauge c yPos).Current := by
  unfold clickGauge
  exact current_setManualFuelRequiredValue _ _ h

omit [LinearOrder K] [FloorRing K] in
theorem current_toggleFineAdjustMode {g : Screen K} (hs : g.Settled) :
    g.toggleFineAdjustMode.Current := by
  refine ⟨⟨?_, rfl⟩, ?_⟩
  · simp only [toggleFineAdjustMode, page_updateFuelIndicator]
    exact hs.manual
  · refine Shown.congr (shown_updateFuelIndicator ({ g with
      page := { g.page with fuelState.isFineAdjustMode := !g.page.fuelState.isFineAdjustMode }
      isFineAdjustModeUpdated := true } : Screen K) false ?_) rfl rfl
    simp only [isDataUpdated, Bool.or_true, Bool.true_or]

theorem Current.handleOnClickFuelIndicatorEvent {g : Screen K} (hs : g.Current) (c : FuelLayout K)
    (xPos yPos : K) : (g.handleOnClickFuelIndicatorEvent c xPos yPos).Current := by
  unfold Screen.handleOnClickFuelIndicatorEvent
  dsimp only
  generalize c.isButtonClicked xPos yPos c.requiredButtonX _ = isRequiredClicked
  generalize c.isButtonClicked xPos yPos c.fullButtonX _ = isFullClicked
  generalize c.isButtonClicked xPos yPos c.noneButtonX _ = isNoneClicked
  split
  · apply current_updateManualFuel
    split
    · refine (current_clickGauge _ c yPos ?_).fine
      exact hs.fine
    · exact hs.fine
  · rename_i hclicked
    -- No button was clicked, so the buttons are those drawn before.
    simp only [Bool.or_eq_true, not_or, Bool.not_eq_true] at hclicked
    obtain ⟨⟨rfl, rfl⟩, rfl⟩ := hclicked
    split
    · exact current_clickGauge _ c yPos hs.fine
    · exact hs

theorem Current.onTouchMoveFuel {g : Screen K} (hs : g.Current) (c : FuelLayout K) (e : Touch) :
    (g.onTouchMoveFuel c e).Current := by
  unfold Screen.onTouchMoveFuel
  dsimp only
  split
  · split
    · exact current_setManualFuelRequiredValue _ _ hs.fine
    · exact hs
  · exact hs

theorem Current.endGaugeTouch {g : Screen K} (hs : g.Current) (c : FuelLayout K) (distX distY : ℤ) :
    (g.endGaugeTouch c distX distY).Current := by
  unfold Screen.endGaugeTouch
  split
  · exact current_toggleFineAdjustMode hs.toSettled
  · split
    · exact current_setManualFuelRequiredValue _ _ hs.fine
    · exact hs

theorem Current.endButtonTouch {g : Screen K} (hs : g.Current) (c : FuelLayout K)
    (boundingRect : Offset) (distX distY : ℤ) :
    (g.endButtonTouch c boundingRect distX distY).Current := by
  unfold Screen.endButtonTouch
  split
  · exact hs.handleOnClickFuelIndicatorEvent _ _ _
  · exact hs

theorem Current.onTouchEndFuel {g : Screen K} (hs : g.Current) (c : FuelLayout K) (e : Touch) :
    (g.onTouchEndFuel c e).Current := by
  unfold Screen.onTouchEndFuel
  dsimp only
  have htouch (g' : Screen K) (hg' : g'.Current) : Current { g' with
      page := { g'.page with
        fuelState.touchStartX := 0
        fuelState.touchStartY := 0
        fuelState.isTouchFuelDown := false
        fuelState.isTouchFuelDownForAdj := false
        fuelState.isTouchButtonDown := false
        fuelState.touchStartFuelRequiredVal := 0 } } :=
    ⟨⟨hg'.manual, hg'.fine⟩, hg'.shown.congr rfl rfl⟩
  apply htouch
  split
  · exact hs.endGaugeTouch _ _ _
  · split
    · exact hs.endButtonTouch _ _ _ _
    · exact hs

omit [FloorRing K] in
theorem Current.onTouchStartFuel {g : Screen K} (hs : g.Current) (c : FuelLayout K) (e : Touch) :
    Current { g with page := g.page.onTouchStartFuel c e } := by
  unfold Page.onTouchStartFuel
  dsimp only
  repeat' split
  all_goals exact ⟨⟨hs.manual, hs.fine⟩, hs.shown.congr rfl rfl⟩

omit [LinearOrder K] [FloorRing K] in
theorem isOutsideButtons_fuelDrawing : Page.IsOutsideButtons (Page.fuelDrawing (K := K)) :=
  ⟨fun _ _ _ _ _ _ _ _ _ => rfl⟩

omit [LinearOrder K] [FloorRing K] in
theorem isOutsideButtons_fuelState : Page.IsOutsideButtons fun s : Page K => s.fuelState :=
  ⟨fun _ _ _ _ _ _ _ _ _ => rfl⟩

/-! ## One message -/

/-- The values of the gauge that come from the server, the units apart. -/
def gaugeValues (d : ServerData K) : K × K × K × K × K :=
  (d.fuelLevel.val, d.fuelForOneLap.val, d.fuelRequired.val, d.maxFuel.val, d.lapsOfFuel.val)

def isGaugeUpdated (d : ServerData K) : Bool :=
  d.fuelLevel.updated || d.fuelForOneLap.updated || d.fuelRequired.updated || d.maxFuel.updated ||
    d.lapsOfFuel.updated

/-- A message that brings other units brings another value of the gauge too. -/
def UnitsWithValue (g : Screen K) : Event K → Prop
  | .message data =>
    data ≠ Page.heartbeat →
      (g.page.serverData.receive .exact data).fuelDisplayUnits.str ≠ g.page.serverData.fuelDisplayUnits.str →
      gaugeValues (g.page.serverData.receive .exact data) ≠ gaugeValues g.page.serverData
  | _ => True

theorem isGaugeUpdated_receive_iff (d : ServerData K) (message : Str) :
    isGaugeUpdated (d.receive .exact message) = true ↔
      gaugeValues (d.receive .exact message) ≠ gaugeValues d := by
  simp only [isGaugeUpdated, gaugeValues, Bool.or_eq_true, ne_eq, Prod.mk.injEq, not_and_or]
  unfold ServerData.receive ServerData.updateServerData
  dsimp only
  rw [NumberField.updated_receive_iff _ _ _ _ _ rfl, NumberField.updated_receive_iff _ _ _ _ _ rfl,
    NumberField.updated_receive_iff _ _ _ _ _ rfl, NumberField.updated_receive_iff _ _ _ _ _ rfl,
    NumberField.updated_receive_iff _ _ _ _ _ rfl, or_assoc, or_assoc, or_assoc]
  rfl

/-- The page when a message calls for the drawing. -/
def receivedPage (s : Page K) (messageData : Str) : Page K :=
  ({ s.clearDataUpdated with
    serverData := s.serverData.receive .exact messageData } : Page K).updateDependentData

/-- The fuel to add has a new flag only where a value that it depends on has one. -/
theorem isDataUpdated_received {g : Screen K} (hs : g.Settled) (messageData : Str) :
    isDataUpdated { g with page := receivedPage g.page messageData } =
      isGaugeUpdated (g.page.serverData.receive .exact messageData) := by
  have hserver : (receivedPage g.page messageData).serverData =
      g.page.serverData.receive .exact messageData := Page.serverData_updateDependentData _
  have hmanual : (receivedPage g.page messageData).fuelState.manualFuelRequiredUpdated = false :=
    (manualFuelRequiredUpdated_updateDependentData _).trans hs.manual
  simp only [isDataUpdated, isGaugeUpdated, hserver, hmanual, hs.fine, Bool.or_false]
  cases hfuel : (g.page.serverData.receive .exact messageData).isFuelUpdated with
  | true =>
    simp only [ServerData.isFuelUpdated, Bool.or_eq_true] at hfuel
    rcases hfuel with (hlevel | hmax) | hrequired
    · simp [hlevel]
    · simp [hmax]
    · simp [hrequired]
  | false =>
    have hkept : (receivedPage g.page messageData).dependentData.fuelToAddUpdated = false := by
      rw [receivedPage, Page.updateDependentData, if_neg]
      · rfl
      · simp [hfuel, Page.clearDataUpdated, hs.manual]
    rw [hkept, Bool.or_false]

/-- Without a new value of the gauge nothing but the units is new. -/
theorem fuelDrawing_received {s : Page K} (messageData : Str)
    (hmanual : s.fuelState.manualFuelRequiredUpdated = false)
    (h : isGaugeUpdated (s.serverData.receive .exact messageData) = false) :
    (receivedPage s messageData).fuelDrawing =
      { s.fuelDrawing with
        fuelUnitsStr := (s.serverData.receive .exact messageData).fuelDisplayUnits.str } := by
  simp only [isGaugeUpdated, Bool.or_eq_false_iff] at h
  obtain ⟨⟨⟨⟨hlevel, honeLap⟩, hrequired⟩, hmax⟩, hlaps⟩ := h
  have hpage : receivedPage s messageData =
      { s.clearDataUpdated with serverData := s.serverData.receive .exact messageData } := by
    rw [receivedPage, Page.updateDependentData, if_neg]
    simp [ServerData.isFuelUpdated, hlevel, hmax, hrequired, Page.clearDataUpdated, hmanual]
  have hlevel := NumberField.receive_of_not_updated _ _ _ _ _ hlevel
  have honeLap := NumberField.receive_of_not_updated _ _ _ _ _ honeLap
  have hrequired := NumberField.receive_of_not_updated _ _ _ _ _ hrequired
  have hmax := NumberField.receive_of_not_updated _ _ _ _ _ hmax
  have hlaps := NumberField.receive_of_not_updated _ _ _ _ _ hlaps
  rw [hpage]
  simp only [Page.fuelDrawing, ServerData.receive, ServerData.updateServerData, hlevel, honeLap,
    hrequired, hmax, hlaps]
  rfl

/-- After the drawing a message leaves the gauge alone. -/
theorem view_onWebSocketMessage {τ : Type*} {view : Page K → τ} (hv : Page.IsOutsideButtons view)
    (hclear : ∀ s : Page K, view s.clearDataUpdated = view s)
    (hentering : ∀ s : Page K, view s.checkIsEnteringPitRoad.2 = view s) (g : Screen K)
    (messageData : Str) (h : messageData ≠ Page.heartbeat) :
    view (g.onWebSocketMessage messageData).page = view (receivedPage g.page messageData) := by
  have hsettle (s : Page K) : view s.settleMessage = view s := by
    unfold Page.settleMessage
    rw [hclear]
    split
    · exact hv.updatePitRoadAppliedState s
    · exact hv.setOffPitRoadState s
  simp only [onWebSocketMessage, if_neg h, page_updateFuelIndicator]
  rw [hsettle]
  split
  · rw [hv.onSendButton, hentering]
    exact hv.lapsOfFuelUpdateIndicator _ _
  · rw [hentering]
    exact hv.lapsOfFuelUpdateIndicator _ _

theorem drawn_onWebSocketMessage (g : Screen K) (messageData : Str) (h : messageData ≠ Page.heartbeat) :
    (g.onWebSocketMessage messageData).drawn =
      (updateFuelIndicator { g with page := receivedPage g.page messageData } false).drawn := by
  simp only [onWebSocketMessage, if_neg h]
  rfl

theorem shown_message_iff {g : Screen K} (hs : g.Current) (messageData : Str) :
    (g.onWebSocketMessage messageData).Shown ↔ UnitsWithValue g (.message messageData) := by
  by_cases hdata : messageData = Page.heartbeat
  · simp only [onWebSocketMessage, UnitsWithValue, hdata, if_true, ne_eq, not_true_eq_false,
      false_implies, iff_true]
    exact hs.shown
  · have hdrawn := g.drawn_onWebSocketMessage messageData hdata
    have hpage := view_onWebSocketMessage isOutsideButtons_fuelDrawing (fun _ => rfl) (fun _ => rfl)
      g messageData hdata
    have hflags := isDataUpdated_received hs.toSettled messageData
    rw [Shown, hdrawn, hpage]
    cases hgauge : isGaugeUpdated (g.page.serverData.receive .exact messageData) with
    | true =>
      have hvalue := (isGaugeUpdated_receive_iff _ _).mp hgauge
      have hshown := shown_updateFuelIndicator
        { g with page := receivedPage g.page messageData } false (by rw [hflags, hgauge]; rfl)
      rw [Shown, page_updateFuelIndicator] at hshown
      exact iff_of_true hshown fun _ _ => hvalue
    | false =>
      have hsame : gaugeValues (g.page.serverData.receive .exact messageData) =
          gaugeValues g.page.serverData := by
        rw [← not_ne_iff, ← isGaugeUpdated_receive_iff, hgauge]
        decide
      rw [updateFuelIndicator, if_pos (by rw [hflags, hgauge]; rfl), hs.shown,
        fuelDrawing_received messageData hs.manual hgauge]
      constructor
      · intro heq _ hunits
        rw [Option.some.injEq] at heq
        exact absurd (congrArg FuelDrawing.fuelUnitsStr heq).symm hunits
      · intro hvalue
        have hunits : (g.page.serverData.receive .exact messageData).fuelDisplayUnits.str =
            g.page.serverData.fuelDisplayUnits.str := by
          by_contra hne
          exact hvalue hdata hne hsame
        rw [hunits]
        rfl

/-! ## Runs -/

theorem settled_onWebSocketMessage {g : Screen K} (hs : g.Settled) (messageData : Str) :
    (g.onWebSocketMessage messageData).Settled := by
  by_cases hdata : messageData = Page.heartbeat
  · rw [onWebSocketMessage, if_pos hdata]
    exact hs
  · have hstate := view_onWebSocketMessage isOutsideButtons_fuelState (fun _ => rfl) (fun _ => rfl) g messageData hdata
    constructor
    · rw [hstate]
      exact (manualFuelRequiredUpdated_updateDependentData _).trans hs.manual
    · simp only [onWebSocketMessage, if_neg hdata]
      exact (isFineAdjustModeUpdated_updateFuelIndicator _ _).trans hs.fine

/-- Only a message can leave the gauge behind. -/
theorem Current.step {g : Screen K} (hs : g.Current) (canvases : Canvases K) (e : Event K)
    (h : ∀ data, e ≠ .message data) : (g.step canvases e).Current := by
  have hother (e : Event K) (he : ¬ IsFuelEvent e) :
      Current { g with page := Client.step canvases g.page e } := by
    have hstate : (Client.step canvases g.page e).fuelState = g.page.fuelState :=
      isOutsideButtons_fuelState.step canvases g.page e he
    refine ⟨⟨?_, hs.fine⟩, hs.shown.congr rfl (isOutsideButtons_fuelDrawing.step canvases g.page e he)⟩
    rw [hstate]
    exact hs.manual
  cases e with
  | message data => exact absurd rfl (h data)
  | touchStartFuel e => exact hs.onTouchStartFuel _ e
  | touchMoveFuel e => exact hs.onTouchMoveFuel _ e
  | touchEndFuel e => exact hs.onTouchEndFuel _ e
  | clickFuel e => exact hs.handleOnClickFuelIndicatorEvent _ _ _
  | _ => exact hother _ id

/-- **Step.** The gauge stays current unless a message brings other units and no other value of it. -/
theorem shown_step_iff (canvases : Canvases K) (g : Screen K) (e : Event K) (hs : g.Current) :
    (g.step canvases e).Shown ↔ UnitsWithValue g e := by
  cases e with
  | message data => exact shown_message_iff hs data
  | _ => exact iff_of_true (hs.step canvases _ (by simp)).shown trivial

theorem current_step_iff (canvases : Canvases K) (g : Screen K) (e : Event K) (hs : g.Current) :
    (g.step canvases e).Current ↔ UnitsWithValue g e := by
  rw [← shown_step_iff canvases g e hs]
  refine ⟨Current.shown, fun hshown => ⟨?_, hshown⟩⟩
  cases e with
  | message data => exact settled_onWebSocketMessage hs.toSettled data
  | _ => exact (hs.step canvases _ (by simp)).toSettled

omit [LinearOrder K] [FloorRing K] in
theorem current_init : (init : Screen K).Current :=
  ⟨⟨rfl, rfl⟩, shown_updateFuelIndicator {} true rfl⟩

/-- **Fuel gauge.** After each event the gauge is drawn with the values of the page, along exactly
the runs in which no message brings other units without another value of the gauge. -/
theorem gauge_drawn_iff (canvases : Canvases K) (es : List (Event K)) :
    (∀ fs, fs <+: es → (run (step canvases) init fs).drawn =
      some (run (step canvases) init fs).page.fuelDrawing) ↔
    StepsOk (step canvases) UnitsWithValue init es :=
  (stepsOk_iff_forall_of_invariant (P := Shown)
    (fun g e hg he => (current_step_iff canvases g e hg).mpr he) (shown_step_iff canvases) es
    current_init current_init.shown).symm

/-! ## A message with the units only -/

def drawingCanvases : Canvases ℚ := ⟨⟨400, 600⟩, ⟨400, 600⟩, ⟨400, 600⟩⟩

def unitsOnly : Str := "***D.A.T.A***\n\nFuelDisplayUnits;gal\n".toList

theorem units_not_drawn :
    (run (step drawingCanvases) init [.message unitsOnly]).drawn ≠
      some (run (step drawingCanvases) init [.message unitsOnly]).page.fuelDrawing := by
  decide +kernel

end Screen

end IrPitCrew.Client
