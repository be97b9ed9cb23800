import IrPitCrew.Client.PitCrew

/-!
# What each indicator leaves alone

The fuel gauge works on one part of the page. The wheels and the buttons work on
the rest.
-/

open IrPitCrew.Text

namespace IrPitCrew.Client

variable {K : Type*} [Field K]

namespace Page

/-! ## What the other indicators leave alone -/

/-- A view of the page without the parts that the wheels and the buttons write. Of the values that
they share with the messages it can have the flag of a car that races. -/
structure IsOutsideButtons {τ : Type*} (view : Page K → τ) : Prop where
  buttons (s : Page K) (globalData : GlobalData) (tireState : TireState)
    (lapsOfFuelCoords : LapsOfFuelCoords) (lapsOfFuelState : LapsOfFuelState)
    (applyFlashTimers fuelImageFlashTimers : Nat) (sent : List Str)
    (h : globalData.onTrackRacingBool = s.globalData.onTrackRacingBool) :
    view { s with
      globalData, tireState, lapsOfFuelCoords, lapsOfFuelState, applyFlashTimers,
      fuelImageFlashTimers, sent } = view s

/-- The part of the page that the fuel gauge reads and writes. -/
def fuelSide (s : Page K) : ServerData K × DependentData × FuelState K × FuelCoords :=
  (s.serverData, s.dependentData, s.fuelState, s.fuelCoords)

theorem isOutsideButtons_fuelSide : IsOutsideButtons (fuelSide (K := K)) :=
  ⟨fun _ _ _ _ _ _ _ _ _ => rfl⟩

variable [LinearOrder K]

theorem fuelSide_checkIsEnteringPitRoad (s : Page K) :
    s.checkIsEnteringPitRoad.2.fuelSide = s.fuelSide := rfl

/-- What depends on the values from the server is not one of them. -/
theorem serverData_updateDependentData [FloorRing K] (s : Page K) :
    s.updateDependentData.serverData = s.serverData := by
  unfold updateDependentData storeFuelToAdd refreshFull
  dsimp only
  repeat' split
  all_goals rfl

end Page

def IsFuelEvent : Event K → Prop
  | .message _ | .touchStartFuel _ | .touchMoveFuel _ | .touchEndFuel _ | .clickFuel _ => True
  | _ => False

namespace Page.IsOutsideButtons

variable {τ : Type*} {view : Page K → τ} (hv : IsOutsideButtons view)

include hv

theorem setOffPitRoadState (s : Page K) : view s.setOffPitRoadState = view s := by
  unfold Page.setOffPitRoadState
  split
  · rfl
  · exact hv.buttons s _ _ _ _ _ _ _ rfl

variable [LinearOrder K]

theorem updatePitRoadAppliedState (s : Page K) : view s.updatePitRoadAppliedState = view s :=
  hv.buttons s _ _ _ _ _ _ _ rfl

theorem onSendButton (s : Page K) : view s.onSendButton = view s := by
  unfold Page.onSendButton Page.setOnPitRoadState
  split
  · split <;> exact hv.buttons s _ _ _ _ _ _ _ rfl
  · rfl

theorem lapsOfFuelUpdateIndicator (s : Page K) (isForcedUpdate : Bool) :
    view (s.lapsOfFuelUpdateIndicator isForcedUpdate) = view s := by
  unfold Page.lapsOfFuelUpdateIndicator Page.updateFuelImage
  dsimp only
  repeat' split
  all_goals first | rfl | exact hv.buttons s _ _ _ _ _ _ _ rfl

theorem handleOnClickLapsOfFuelIndicatorEvent (s : Page K) (c : LapsOfFuelLayout K) (xPos yPos : K) :
    view (s.handleOnClickLapsOfFuelIndicatorEvent c xPos yPos) = view s := by
  unfold Page.handleOnClickLapsOfFuelIndicatorEvent
  split
  · exact hv.buttons s _ _ _ _ _ _ _ rfl
  · split
    · exact hv.onSendButton s
    · rfl

theorem onTouchEndLapsOfFuel (s : Page K) (c : LapsOfFuelLayout K) (e : Touch) :
    view (s.onTouchEndLapsOfFuel c e) = view s := by
  unfold Page.onTouchEndLapsOfFuel Page.clearLapsOfFuelTouch
  dsimp only
  refine (hv.buttons _ _ _ _ _ _ _ _ rfl).trans ?_
  split
  · exact hv.handleOnClickLapsOfFuelIndicatorEvent _ _ _ _
  · rfl

theorem onTouchEndTires (s : Page K) (c : TiresLayout K) (e : Touch) :
    view (s.onTouchEndTires c e) = view s := by
  unfold Page.onTouchEndTires
  dsimp only
  repeat' split
  all_goals first | rfl | exact hv.buttons s _ _ _ _ _ _ _ rfl

/-- Only messages and the handlers of the gauge change the view. -/
theorem step [FloorRing K] (canvases : Canvases K) (s : Page K) (e : Event K) (h : ¬ IsFuelEvent e) :
    view (step canvases s e) = view s := by
  cases e with
  | touchStartTires e =>
    simp only [Client.step, Page.onTouchStartTires]
    split
    · exact hv.buttons s _ _ _ _ _ _ _ rfl
    · rfl
  | touchEndTires e => exact hv.onTouchEndTires s _ e
  | clickTires e => exact hv.buttons s _ _ _ _ _ _ _ rfl
  | touchStartLapsOfFuel e =>
    simp only [Client.step, Page.onTouchStartLapsOfFuel]
    split
    · exact hv.buttons s _ _ _ _ _ _ _ rfl
    · rfl
  | touchEndLapsOfFuel e => exact hv.onTouchEndLapsOfFuel s _ e
  | clickLapsOfFuel e => exact hv.handleOnClickLapsOfFuelIndicatorEvent _ _ _ _
  | clickFastRepair => exact hv.buttons s _ _ _ _ _ _ _ rfl
  | clickWindshield => exact hv.buttons s _ _ _ _ _ _ _ rfl
  | applyFlashInterval =>
    simp only [Client.step, Page.applyFlashIntervalCallback]
    repeat' split
    all_goals first | rfl | exact hv.buttons s _ _ _ _ _ _ _ rfl
  | fuelImageFlashInterval =>
    simp only [Client.step, Page.fuelImageFlashIntervalCallback]
    repeat' split
    all_goals first | rfl | exact hv.buttons s _ _ _ _ _ _ _ rfl
  | message | touchStartFuel | touchMoveFuel | touchEndFuel | clickFuel => exact absurd trivial h

end Page.IsOutsideButtons

namespace Page

variable [LinearOrder K]

/-! ## What the fuel gauge leaves alone -/

/-- A view of the page without the parts that the gauge writes and the flags that it clears. -/
structure IsOutsideGauge {τ : Type*} (view : Page K → τ) : Prop where
  gauge (s : Page K) (dependentData : DependentData) (fuelState : FuelState K)
    (fuelCoords : FuelCoords) : view { s with dependentData, fuelState, fuelCoords } = view s
  clear (s : Page K) : view s.clearDataUpdated = view s

def otherSide (s : Page K) :
    GlobalData × TireState × LapsOfFuelCoords × LapsOfFuelState × Nat × Nat × List Str :=
  (s.globalData, s.tireState, s.lapsOfFuelCoords, s.lapsOfFuelState, s.applyFlashTimers,
    s.fuelImageFlashTimers, s.sent)

omit [LinearOrder K] in
theorem isOutsideGauge_otherSide : IsOutsideGauge (otherSide (K := K)) := ⟨fun _ _ _ _ => rfl, fun _ => rfl⟩

namespace IsOutsideGauge

variable {τ : Type*} {view : Page K → τ} (hv : IsOutsideGauge view)

include hv

theorem setManualFuelRequiredMode (s : Page K) (value isFull isNone : Bool) :
    view (s.setManualFuelRequiredMode value isFull isNone) = view s := by
  unfold Page.setManualFuelRequiredMode
  dsimp only
  split <;> apply hv.gauge s s.dependentData

theorem refreshFull (s : Page K) : view s.refreshFull = view s := by
  unfold Page.refreshFull
  split
  · apply hv.gauge s s.dependentData _ s.fuelCoords
  · rfl

theorem clickRequired (s : Page K) : view s.clickRequired = view s := by
  unfold Page.clickRequired
  split <;> apply hv.setManualFuelRequiredMode

theorem clickButtons (s : Page K) (isRequired isFull isNone : Bool) :
    view (s.clickButtons isRequired isFull isNone) = view s := by
  cases isRequired <;> cases isFull <;> cases isNone <;>
    simp [Page.clickButtons, hv.clickRequired, hv.setManualFuelRequiredMode]

variable [FloorRing K]

theorem storeFuelToAdd (s : Page K) : view s.storeFuelToAdd = view s := by
  unfold Page.storeFuelToAdd
  dsimp only
  repeat' split
  all_goals first | rfl | apply hv.gauge s _ s.fuelState s.fuelCoords

theorem updateDependentData (s : Page K) : view s.updateDependentData = view s := by
  unfold Page.updateDependentData
  split
  · rw [hv.storeFuelToAdd, hv.refreshFull]
  · rfl

theorem updateManualFuel (s : Page K) : view s.updateManualFuel = view s := by
  unfold Page.updateManualFuel
  dsimp only
  refine (hv.gauge _ _ _ _).trans ?_
  rw [hv.clear, hv.updateDependentData]
  apply hv.gauge s s.dependentData _ s.fuelCoords

theorem setManualFuelRequiredValue (s : Page K) (value : K) :
    view (s.setManualFuelRequiredValue value) = view s := by
  unfold Page.setManualFuelRequiredValue
  rw [hv.updateManualFuel]
  apply hv.gauge s s.dependentData _ s.fuelCoords

theorem clickGauge (s : Page K) (c : FuelLayout K) (yPos : K) : view (s.clickGauge c yPos) = view s := by
  unfold Page.clickGauge
  dsimp only
  rw [hv.setManualFuelRequiredValue]
  refine Eq.trans ?_ (hv.setManualFuelRequiredMode s true false false)
  apply hv.gauge (s.setManualFuelRequiredMode true false false) _ _ _

theorem handleOnClickFuelIndicatorEvent (s : Page K) (c : FuelLayout K) (xPos yPos : K) :
    view (s.handleOnClickFuelIndicatorEvent c xPos yPos) = view s := by
  unfold Page.handleOnClickFuelIndicatorEvent
  dsimp only
  split
  · rw [hv.updateManualFuel]
    split
    · rw [hv.clickGauge, hv.clickButtons]
    · rw [hv.clickButtons]
  · split
    · rw [hv.clickGauge, hv.clickButtons]
    · rw [hv.clickButtons]

omit [FloorRing K] in
theorem onTouchStartFuel (s : Page K) (c : FuelLayout K) (e : Touch) :
    view (s.onTouchStartFuel c e) = view s := by
  unfold Page.onTouchStartFuel
  dsimp only
  split
  · split <;> apply hv.gauge s s.dependentData _ s.fuelCoords
  · split
    · apply hv.gauge s s.dependentData _ s.fuelCoords
    · rfl

theorem onTouchMoveFuel (s : Page K) (c : FuelLayout K) (e : Touch) :
    view (s.onTouchMoveFuel c e) = view s := by
  unfold Page.onTouchMoveFuel
  dsimp only
  split
  · split
    · rw [hv.setManualFuelRequiredValue, hv.setManualFuelRequiredMode]
    · rfl
  · rfl

theorem endGaugeTouch (s : Page K) (c : FuelLayout K) (distX distY : ℤ) :
    view (s.endGaugeTouch c distX distY) = view s := by
  unfold Page.endGaugeTouch
  split
  · apply hv.gauge s s.dependentData _ s.fuelCoords
  · split
    · apply hv.setManualFuelRequiredValue
    · rfl

theorem endButtonTouch (s : Page K) (c : FuelLayout K) (boundingRect : Offset) (distX distY : ℤ) :
    view (s.endButtonTouch c boundingRect distX distY) = view s := by
  unfold Page.endButtonTouch
  split
  · apply hv.handleOnClickFuelIndicatorEvent
  · rfl

theorem onTouchEndFuel (s : Page K) (c : FuelLayout K) (e : Touch) :
    view (s.onTouchEndFuel c e) = view s := by
  unfold Page.onTouchEndFuel
  dsimp only
  refine (hv.gauge _ _ _ _).trans ?_
  split
  · apply hv.endGaugeTouch
  · split
    · apply hv.endButtonTouch
    · rfl

theorem onClickFuelIndicator (s : Page K) (c : FuelLayout K) (event : Click K) :
    view (s.onClickFuelIndicator c event) = view s := hv.handleOnClickFuelIndicatorEvent s c _ _

end IsOutsideGauge

end Page

end IrPitCrew.Client
