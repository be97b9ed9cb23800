import IrPitCrew.Client.Frame
import Mathlib.Data.Rat.Floor

/-!
# The fuel to add is never stale

It is computed only when a flag says that something it depends on changed. The
handlers that change the choice by hand raise the flag, and the others leave the
values it depends on alone.
-/

open IrPitCrew.Text IrPitCrew.Rounding IrPitCrew.Run

namespace IrPitCrew.Client

variable {K : Type*} [Field K]

namespace Page

variable [LinearOrder K]

/-! ## The value -/

def selectedFuel (s : Page K) : K :=
  if s.fuelState.isManualFuelRequiredMode then s.fuelState.manualFuelRequiredValue
  else max s.serverData.fuelRequired.val 0

def deficit (s : Page K) : K := s.selectedFuel - s.serverData.fuelLevel.val

variable [FloorRing K]

/-- The fuel to add is the deficit, half a unit more if positive, without decimal places. -/
def FuelToAddCurrent (s : Page K) : Prop :=
  (s.dependentData.fuelToAddVal : K) =
    parseFloat (toFixed 0 (if s.deficit > 0 then s.deficit + 1 / 2 else s.deficit))

omit [FloorRing K] in
theorem autoFuelRequired_eq (s : Page K) : s.autoFuelRequired = max s.serverData.fuelRequired.val 0 := by
  unfold autoFuelRequired
  split
  · rename_i h
    rw [max_eq_right h.le]
  · rename_i h
    rw [max_eq_left (not_lt.mp h)]

omit [FloorRing K] in
theorem deficit_congr {s t : Page K} (h : t.fuelSide = s.fuelSide) : t.deficit = s.deficit := by
  simp only [fuelSide, Prod.mk.injEq] at h
  obtain ⟨hserver, -, hfuel, -⟩ := h
  rw [deficit, deficit, selectedFuel, selectedFuel, hserver, hfuel]

theorem FuelToAddCurrent.congr {s t : Page K} (h : t.fuelSide = s.fuelSide)
    (hs : s.FuelToAddCurrent) : t.FuelToAddCurrent := by
  have hdata : t.dependentData = s.dependentData := congrArg (fun p => p.2.1) h
  unfold FuelToAddCurrent at hs ⊢
  rwa [deficit_congr h, hdata]

variable [IsStrictOrderedRing K]

def roundedDeficit (s : Page K) : ℤ :=
  roundHalfAway (if s.deficit > 0 then s.deficit + 1 / 2 else s.deficit)

omit [IsStrictOrderedRing K] in
theorem storeFuelToAdd_eq (s : Page K) :
    s.storeFuelToAdd = if s.roundedDeficit ≠ s.dependentData.fuelToAddVal then
      { s with dependentData := { fuelToAddUpdated := true, fuelToAddVal := s.roundedDeficit } }
    else s := by
  unfold storeFuelToAdd roundedDeficit deficit selectedFuel
  rw [← autoFuelRequired_eq]

theorem fuelToAddCurrent_iff (s : Page K) :
    s.FuelToAddCurrent ↔ s.dependentData.fuelToAddVal = s.roundedDeficit := by
  unfold FuelToAddCurrent
  rw [parseFloat_toFixed, roundPlaces, pow_zero, mul_one, div_one, Int.cast_inj]
  rfl

theorem fuelToAddCurrent_storeFuelToAdd (s : Page K) : s.storeFuelToAdd.FuelToAddCurrent := by
  rw [fuelToAddCurrent_iff, storeFuelToAdd_eq]
  split
  · rfl
  · rename_i h
    exact (not_ne_iff.mp h).symm

/-- **Update.** Either nothing was flagged and nothing changed, or the value is stored anew. -/
theorem FuelToAddCurrent.updateDependentData {s : Page K}
    (hs : (s.serverData.isFuelUpdated || s.fuelState.manualFuelRequiredUpdated) = false →
      s.FuelToAddCurrent) : s.updateDependentData.FuelToAddCurrent := by
  unfold Page.updateDependentData
  split
  · exact fuelToAddCurrent_storeFuelToAdd _
  · rename_i h
    exact hs (by simpa using h)

/-! ## Handlers of the fuel gauge -/

theorem fuelToAddCurrent_updateManualFuel (s : Page K) : s.updateManualFuel.FuelToAddCurrent := by
  have hflag : ({ s with fuelState.manualFuelRequiredUpdated := true } : Page K).updateDependentData
      |>.FuelToAddCurrent := FuelToAddCurrent.updateDependentData fun h => by simp at h
  exact hflag

theorem fuelToAddCurrent_setManualFuelRequiredValue (s : Page K) (value : K) :
    (s.setManualFuelRequiredValue value).FuelToAddCurrent := fuelToAddCurrent_updateManualFuel _

theorem FuelToAddCurrent.handleOnClickFuelIndicatorEvent {s : Page K} (c : FuelLayout K)
    (xPos yPos : K) (hs : s.FuelToAddCurrent) :
    (s.handleOnClickFuelIndicatorEvent c xPos yPos).FuelToAddCurrent := by
  unfold Page.handleOnClickFuelIndicatorEvent
  dsimp only
  generalize c.isButtonClicked xPos yPos c.requiredButtonX _ = isRequiredClicked
  generalize c.isButtonClicked xPos yPos c.fullButtonX _ = isFullClicked
  generalize c.isButtonClicked xPos yPos c.noneButtonX _ = isNoneClicked
  split
  · exact fuelToAddCurrent_updateManualFuel _
  · rename_i hclicked
    -- No button was clicked, so the mode is the one before.
    simp only [Bool.or_eq_true, not_or, Bool.not_eq_true] at hclicked
    obtain ⟨⟨rfl, rfl⟩, rfl⟩ := hclicked
    split
    · exact fuelToAddCurrent_setManualFuelRequiredValue _ _
    · exact hs

omit [IsStrictOrderedRing K] in
theorem FuelToAddCurrent.onTouchStartFuel {s : Page K} (c : FuelLayout K) (e : Touch)
    (hs : s.FuelToAddCurrent) : (s.onTouchStartFuel c e).FuelToAddCurrent := by
  unfold Page.onTouchStartFuel
  dsimp only
  repeat' split
  all_goals exact hs

theorem FuelToAddCurrent.onTouchMoveFuel {s : Page K} (c : FuelLayout K) (e : Touch)
    (hs : s.FuelToAddCurrent) : (s.onTouchMoveFuel c e).FuelToAddCurrent := by
  unfold Page.onTouchMoveFuel
  dsimp only
  split
  · split
    · exact fuelToAddCurrent_setManualFuelRequiredValue _ _
    · exact hs
  · exact hs

theorem FuelToAddCurrent.endGaugeTouch {s : Page K} (c : FuelLayout K) (distX distY : ℤ)
    (hs : s.FuelToAddCurrent) : (s.endGaugeTouch c distX distY).FuelToAddCurrent := by
  unfold Page.endGaugeTouch
  split
  · exact hs
  · split
    · exact fuelToAddCurrent_setManualFuelRequiredValue _ _
    · exact hs

theorem FuelToAddCurrent.endButtonTouch {s : Page K} (c : FuelLayout K) (boundingRect : Offset)
    (distX distY : ℤ) (hs : s.FuelToAddCurrent) :
    (s.endButtonTouch c boundingRect distX distY).FuelToAddCurrent := by
  unfold Page.endButtonTouch
  split
  · exact hs.handleOnClickFuelIndicatorEvent c _ _
  · exact hs

theorem FuelToAddCurrent.onTouchEndFuel {s : Page K} (c : FuelLayout K) (e : Touch)
    (hs : s.FuelToAddCurrent) : (s.onTouchEndFuel c e).FuelToAddCurrent := by
  have hend : (if s.fuelState.isTouchFuelDown || s.fuelState.isTouchFuelDownForAdj then
      s.endGaugeTouch c (e.clientX - s.fuelState.touchStartX) (e.clientY - s.fuelState.touchStartY)
    else if s.fuelState.isTouchButtonDown then
      s.endButtonTouch c e.boundingRect (e.clientX - s.fuelState.touchStartX)
        (e.clientY - s.fuelState.touchStartY)
    else s).FuelToAddCurrent := by
    split
    · exact hs.endGaugeTouch c _ _
    · split
      · exact hs.endButtonTouch c _ _ _
      · exact hs
  exact hend

/-! ## Messages -/

/-- A message that leaves the three flags down leaves the deficit as it was. -/
theorem FuelToAddCurrent.receiveMessage {s : Page K} (messageData : Str) (hs : s.FuelToAddCurrent) :
    (s.receiveMessage messageData).2.FuelToAddCurrent := by
  refine FuelToAddCurrent.congr ((fuelSide_checkIsEnteringPitRoad _).trans
    (isOutsideButtons_fuelSide.lapsOfFuelUpdateIndicator _ _)) (FuelToAddCurrent.updateDependentData fun h => ?_)
  rw [Bool.or_eq_false_iff] at h
  obtain ⟨hlevel, -, hrequired⟩ := s.clearDataUpdated.serverData.fuel_of_not_updated .exact messageData h.1
  unfold FuelToAddCurrent deficit selectedFuel at hs ⊢
  dsimp only
  rw [hlevel, hrequired]
  exact hs

omit [IsStrictOrderedRing K] in
theorem FuelToAddCurrent.settleMessage {s : Page K} (hs : s.FuelToAddCurrent) :
    s.settleMessage.FuelToAddCurrent := by
  have hstate : (if s.globalData.onTrackOnPitRoadBool then s.updatePitRoadAppliedState
      else s.setOffPitRoadState).FuelToAddCurrent := by
    split
    · exact hs.congr (isOutsideButtons_fuelSide.updatePitRoadAppliedState s)
    · exact hs.congr (isOutsideButtons_fuelSide.setOffPitRoadState s)
  exact hstate

theorem FuelToAddCurrent.onWebSocketMessage {s : Page K} (messageData : Str)
    (hs : s.FuelToAddCurrent) : (s.onWebSocketMessage messageData).FuelToAddCurrent := by
  unfold Page.onWebSocketMessage
  split
  · exact hs
  · apply FuelToAddCurrent.settleMessage
    have hreceived := hs.receiveMessage messageData
    split
    · exact hreceived.congr (isOutsideButtons_fuelSide.onSendButton _)
    · exact hreceived

end Page

/-! ## Runs -/

variable [LinearOrder K] [FloorRing K] [IsStrictOrderedRing K]

theorem Page.FuelToAddCurrent.step (canvases : Canvases K) {s : Page K} (e : Event K)
    (hs : s.FuelToAddCurrent) : (step canvases s e).FuelToAddCurrent := by
  cases e with
  | message data => exact hs.onWebSocketMessage data
  | touchStartFuel e => exact hs.onTouchStartFuel _ e
  | touchMoveFuel e => exact hs.onTouchMoveFuel _ e
  | touchEndFuel e => exact hs.onTouchEndFuel _ e
  | clickFuel e => exact hs.handleOnClickFuelIndicatorEvent _ _ _
  | _ => exact hs.congr (Page.isOutsideButtons_fuelSide.step canvases s _ id)

/-- **The fuel to add is current** after every event of every run. -/
theorem fuelToAdd_current (canvases : Canvases K) (es : List (Event K)) :
    (run (step canvases) {} es).FuelToAddCurrent := by
  apply run_invariant_of_step fun s e hs => hs.step canvases e
  have hdeficit : ({} : Page K).deficit = ((0 : ℤ) : K) := by simp [Page.deficit, Page.selectedFuel]
  rw [Page.fuelToAddCurrent_iff, Page.roundedDeficit, hdeficit, if_neg (by simp),
    roundHalfAway_intCast]

def sampleCanvases : Canvases ℚ := ⟨⟨400, 600⟩, ⟨400, 600⟩, ⟨400, 600⟩⟩

def fullTankEvents : List (Event ℚ) :=
  [.message "***D.A.T.A***\n\nFuelLevel;10.2\nMaxFuel;60\nFuelRequired;42.9\n".toList,
   .clickFuel ⟨310, 120, ⟨0, 0⟩⟩]

theorem fuelToAdd_current_sample :
    (run (step sampleCanvases) {} fullTankEvents).dependentData.fuelToAddVal = 50 ∧
    (run (step sampleCanvases) {} fullTankEvents).FuelToAddCurrent :=
  ⟨by decide +kernel, fuelToAdd_current sampleCanvases fullTankEvents⟩

end IrPitCrew.Client
