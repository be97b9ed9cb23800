import IrPitCrew.Client.Frame
import Mathlib.Data.Rat.Floor

/-!
# The three fuel buttons and the value chosen by hand

Full and None stand for a value. Each handler that chooses another value puts
them out, apart from the end of a drag, which counts on the moves before it.
-/

open IrPitCrew.Text IrPitCrew.Rounding IrPitCrew.Run

namespace IrPitCrew.Client

variable {K : Type*} [Field K] [LinearOrder K]

namespace Page

/-! ## The buttons match -/

/-- The buttons show the mode and the value. -/
structure SelectionMatches (s : Page K) : Prop where
  required : s.fuelCoords.requiredButtonState = !s.fuelState.isManualFuelRequiredMode
  notBoth : ¬ (s.fuelCoords.fullButtonState = true ∧ s.fuelCoords.noneButtonState = true)
  manual : s.fuelCoords.fullButtonState = true ∨ s.fuelCoords.noneButtonState = true →
    s.fuelState.isManualFuelRequiredMode = true
  full : s.fuelCoords.fullButtonState = true →
    s.fuelState.manualFuelRequiredValue = max s.serverData.maxFuel.val 0
  none : s.fuelCoords.noneButtonState = true → s.fuelState.manualFuelRequiredValue = 0
  nonneg : 0 ≤ s.fuelState.manualFuelRequiredValue

/-- What the buttons and the value depend on. -/
def choiceSide (s : Page K) : Bool × K × FuelCoords × K :=
  (s.fuelState.isManualFuelRequiredMode, s.fuelState.manualFuelRequiredValue, s.fuelCoords,
    s.serverData.maxFuel.val)

theorem SelectionMatches.congr {s t : Page K} (h : t.choiceSide = s.choiceSide)
    (hs : s.SelectionMatches) : t.SelectionMatches := by
  simp only [choiceSide, Prod.mk.injEq] at h
  obtain ⟨hmode, hvalue, hcoords, hmax⟩ := h
  constructor
  · rw [hcoords, hmode]
    exact hs.required
  · rw [hcoords]
    exact hs.notBoth
  · rw [hcoords, hmode]
    exact hs.manual
  · rw [hcoords, hvalue, hmax]
    exact hs.full
  · rw [hcoords, hvalue]
    exact hs.none
  · rw [hvalue]
    exact hs.nonneg

omit [LinearOrder K] in
theorem choiceSide_congr {s t : Page K} (h : t.fuelSide = s.fuelSide) : t.choiceSide = s.choiceSide := by
  simp only [fuelSide, Prod.mk.injEq] at h
  obtain ⟨hserver, -, hfuel, hcoords⟩ := h
  rw [choiceSide, choiceSide, hserver, hfuel, hcoords]

theorem fullFuel_eq (s : Page K) : s.fullFuel = max s.serverData.maxFuel.val 0 := by
  unfold fullFuel
  split
  · rename_i h
    rw [max_eq_left h.le]
  · rename_i h
    rw [max_eq_right (not_lt.mp h)]

theorem autoFuelRequired_nonneg (s : Page K) : 0 ≤ s.autoFuelRequired := by
  unfold autoFuelRequired
  split
  · exact le_rfl
  · rename_i h
    exact not_lt.mp h

theorem calculateManualFuelRequired_nonneg (s : Page K) (c : FuelLayout K) (yDist : K) :
    0 ≤ s.calculateManualFuelRequired c yDist := by
  unfold calculateManualFuelRequired
  dsimp only
  split
  · exact le_rfl
  · rename_i hmax
    split
    · exact le_rfl
    · rename_i hneg
      split
      · exact (not_le.mp hmax).le
      · exact not_lt.mp hneg

/-! ## Setting the mode -/

theorem SelectionMatches.setManualFuelRequiredMode {s : Page K} (hs : s.SelectionMatches)
    (value isFull isNone : Bool) (h : ¬ (isFull = true ∧ isNone = true)) :
    (s.setManualFuelRequiredMode value isFull isNone).SelectionMatches := by
  have hnonneg := hs.nonneg
  unfold Page.setManualFuelRequiredMode
  cases value with
  | false => constructor <;> simp
  | true =>
    simp only [Bool.true_eq_false, if_false]
    constructor
    · rfl
    · exact h
    · exact fun _ => rfl
    · intro hfull
      dsimp only at hfull ⊢
      rw [if_pos hfull, fullFuel_eq]
    · intro hnone
      dsimp only at hnone ⊢
      rw [if_neg (fun hfull => h ⟨hfull, hnone⟩), if_pos hnone]
    · dsimp only
      repeat' split
      · rw [fullFuel_eq]
        exact le_max_right _ _
      · exact le_rfl
      · exact s.autoFuelRequired_nonneg
      · exact hnonneg

theorem SelectionMatches.clickRequired {s : Page K} (hs : s.SelectionMatches) :
    s.clickRequired.SelectionMatches := by
  unfold Page.clickRequired
  split <;> exact hs.setManualFuelRequiredMode _ _ _ (by simp)

theorem SelectionMatches.clickButtons {s : Page K} (hs : s.SelectionMatches)
    (isRequired isFull isNone : Bool) : (s.clickButtons isRequired isFull isNone).SelectionMatches := by
  unfold Page.clickButtons
  dsimp only
  have hrequired : (if isRequired then s.clickRequired else s).SelectionMatches := by
    split
    · exact hs.clickRequired
    · exact hs
  have hfull : (if isFull then
      (if isRequired then s.clickRequired else s).setManualFuelRequiredMode true true false
      else if isRequired then s.clickRequired else s).SelectionMatches := by
    split
    · exact hrequired.setManualFuelRequiredMode _ _ _ (by simp)
    · exact hrequired
  split
  · exact hfull.setManualFuelRequiredMode _ _ _ (by simp)
  · exact hfull

/-! ## The dependent data -/

variable [FloorRing K]

theorem choiceSide_storeFuelToAdd (s : Page K) : s.storeFuelToAdd.choiceSide = s.choiceSide := by
  unfold storeFuelToAdd
  dsimp only
  repeat' split
  all_goals rfl

omit [FloorRing K] in
theorem refreshFull_of_not_updated {s : Page K} (h : s.serverData.maxFuel.updated = false) :
    s.refreshFull = s := by
  unfold refreshFull
  rw [if_neg (by simp [h])]

/-- Without a new maximum the choice stays as it is. -/
theorem choiceSide_updateDependentData {s : Page K} (h : s.serverData.maxFuel.updated = false) :
    s.updateDependentData.choiceSide = s.choiceSide := by
  unfold updateDependentData
  split
  · rw [choiceSide_storeFuelToAdd, refreshFull_of_not_updated h]
  · rfl

theorem choiceSide_updateManualFuel {s : Page K} (h : s.serverData.maxFuel.updated = false) :
    s.updateManualFuel.choiceSide = s.choiceSide :=
  choiceSide_updateDependentData (s := { s with fuelState.manualFuelRequiredUpdated := true }) h

theorem not_updated_updateManualFuel (s : Page K) :
    s.updateManualFuel.serverData.maxFuel.updated = false := rfl

/-- A new value by hand, with the buttons as they are. -/
theorem selectionMatches_setManualFuelRequiredValue_iff {s : Page K} (value : K)
    (hs : s.SelectionMatches) (h : s.serverData.maxFuel.updated = false) (hvalue : 0 ≤ value) :
    (s.setManualFuelRequiredValue value).SelectionMatches ↔
      (s.fuelCoords.fullButtonState = true → value = max s.serverData.maxFuel.val 0) ∧
      (s.fuelCoords.noneButtonState = true → value = 0) := by
  have hside : (s.setManualFuelRequiredValue value).choiceSide =
      Page.choiceSide { s with fuelState.manualFuelRequiredValue := value } :=
    choiceSide_updateManualFuel (s := { s with fuelState.manualFuelRequiredValue := value }) h
  constructor
  · intro hafter
    have hmatches := hafter.congr hside.symm
    exact ⟨hmatches.full, hmatches.none⟩
  · rintro ⟨hfull, hnone⟩
    exact SelectionMatches.congr hside ⟨hs.required, hs.notBoth, hs.manual, hfull, hnone, hvalue⟩

/-! ## Clicks and moves -/

/-- Between two events no flag of a new maximum is up. -/
structure SelectionSettled (s : Page K) : Prop where
  matched : s.SelectionMatches
  notUpdated : s.serverData.maxFuel.updated = false

omit [FloorRing K] in
theorem SelectionSettled.congr {s t : Page K} (hs : s.SelectionSettled) (h : t.fuelSide = s.fuelSide) :
    t.SelectionSettled := by
  refine ⟨hs.matched.congr (choiceSide_congr h), ?_⟩
  rw [show t.serverData = s.serverData from congrArg Prod.fst h]
  exact hs.notUpdated

omit [FloorRing K] in
theorem serverData_setManualFuelRequiredMode (s : Page K) (value isFull isNone : Bool) :
    (s.setManualFuelRequiredMode value isFull isNone).serverData = s.serverData := by
  unfold setManualFuelRequiredMode
  dsimp only
  split <;> rfl

omit [FloorRing K] in
theorem serverData_clickButtons (s : Page K) (isRequired isFull isNone : Bool) :
    (s.clickButtons isRequired isFull isNone).serverData = s.serverData := by
  have hrequired : s.clickRequired.serverData = s.serverData := by
    unfold clickRequired
    split <;> apply serverData_setManualFuelRequiredMode
  cases isRequired <;> cases isFull <;> cases isNone <;>
    simp [clickButtons, hrequired, serverData_setManualFuelRequiredMode]

/-- Another value by hand, with the two buttons put out. -/
theorem SelectionSettled.setManualFuelRequiredValue {s : Page K} (hs : s.SelectionSettled)
    (value : K) (hvalue : 0 ≤ value) (hfull : s.fuelCoords.fullButtonState = false)
    (hnone : s.fuelCoords.noneButtonState = false) :
    (s.setManualFuelRequiredValue value).SelectionSettled := by
  refine ⟨?_, not_updated_updateManualFuel _⟩
  rw [selectionMatches_setManualFuelRequiredValue_iff value hs.matched hs.notUpdated hvalue]
  simp [hfull, hnone]

theorem SelectionSettled.updateManualFuel {s : Page K} (hs : s.SelectionSettled) :
    s.updateManualFuel.SelectionSettled :=
  ⟨hs.matched.congr (choiceSide_updateManualFuel hs.notUpdated), not_updated_updateManualFuel s⟩

omit [FloorRing K] in
theorem SelectionSettled.setManual {s : Page K} (hs : s.SelectionSettled) :
    (s.setManualFuelRequiredMode true false false).SelectionSettled := by
  refine ⟨hs.matched.setManualFuelRequiredMode _ _ _ (by simp), ?_⟩
  rw [serverData_setManualFuelRequiredMode]
  exact hs.notUpdated

theorem SelectionSettled.clickGauge {s : Page K} (hs : s.SelectionSettled) (c : FuelLayout K)
    (yPos : K) : (s.clickGauge c yPos).SelectionSettled := by
  unfold Page.clickGauge
  have hmanual : SelectionSettled { s.setManualFuelRequiredMode true false false with
      fuelState.touchStartFuelRequiredVal := 0 } :=
    ⟨hs.setManual.matched.congr (by rfl), hs.setManual.notUpdated⟩
  exact hmanual.setManualFuelRequiredValue _ (calculateManualFuelRequired_nonneg _ _ _) rfl rfl

theorem SelectionSettled.handleOnClickFuelIndicatorEvent {s : Page K} (hs : s.SelectionSettled)
    (c : FuelLayout K) (xPos yPos : K) :
    (s.handleOnClickFuelIndicatorEvent c xPos yPos).SelectionSettled := by
  unfold Page.handleOnClickFuelIndicatorEvent
  dsimp only
  generalize c.isButtonClicked xPos yPos c.requiredButtonX _ = isRequired
  generalize c.isButtonClicked xPos yPos c.fullButtonX _ = isFull
  generalize c.isButtonClicked xPos yPos c.noneButtonX _ = isNone
  have hbuttons : (s.clickButtons isRequired isFull isNone).SelectionSettled := by
    refine ⟨hs.matched.clickButtons _ _ _, ?_⟩
    rw [serverData_clickButtons]
    exact hs.notUpdated
  have hgauge : (if c.isXyInFuelGaugeArea xPos yPos then
      (s.clickButtons isRequired isFull isNone).clickGauge c yPos
      else s.clickButtons isRequired isFull isNone).SelectionSettled := by
    split
    · exact hbuttons.clickGauge c yPos
    · exact hbuttons
  split
  · exact hgauge.updateManualFuel
  · exact hgauge

omit [FloorRing K] in
theorem SelectionSettled.onTouchStartFuel {s : Page K} (hs : s.SelectionSettled) (c : FuelLayout K)
    (e : Touch) : (s.onTouchStartFuel c e).SelectionSettled := by
  have hside : (s.onTouchStartFuel c e).choiceSide = s.choiceSide ∧
      (s.onTouchStartFuel c e).serverData = s.serverData := by
    unfold Page.onTouchStartFuel
    dsimp only
    repeat' split
    all_goals exact ⟨rfl, rfl⟩
  refine ⟨hs.matched.congr hside.1, ?_⟩
  rw [hside.2]
  exact hs.notUpdated

theorem SelectionSettled.onTouchMoveFuel {s : Page K} (hs : s.SelectionSettled) (c : FuelLayout K)
    (e : Touch) : (s.onTouchMoveFuel c e).SelectionSettled := by
  unfold Page.onTouchMoveFuel
  dsimp only
  split
  · split
    · exact hs.setManual.setManualFuelRequiredValue _ (calculateManualFuelRequired_nonneg _ _ _) rfl rfl
    · exact hs
  · exact hs

/-! ## The end of a drag -/

/-- Where a drag leads, before the limits of the gauge. -/
def dragTarget (s : Page K) (c : FuelLayout K) (yDist : K) : K :=
  s.fuelState.touchStartFuelRequiredVal + s.serverData.maxFuel.val * (yDist / c.fuelHeight * -1)

/-- The touch that ends sets the value once more. -/
def isDragEnd (s : Page K) (e : Touch) : Bool :=
  s.fuelState.isTouchFuelDownForAdj && s.fuelState.isManualFuelRequiredMode &&
    !isTap (e.clientX - s.fuelState.touchStartX) (e.clientY - s.fuelState.touchStartY) 5

/-- The end of a drag with a lit button leads to the value of the button, or beyond it. -/
def DragEndKept (s : Page K) (c : FuelLayout K) (e : Touch) : Prop :=
  s.isDragEnd e = true → s.serverData.maxFuel.val > 0 →
    (s.fuelCoords.fullButtonState = true →
      s.dragTarget c (s.fineAdjust (e.clientY - s.fuelState.touchStartY)) ≥ s.serverData.maxFuel.val) ∧
    (s.fuelCoords.noneButtonState = true →
      s.dragTarget c (s.fineAdjust (e.clientY - s.fuelState.touchStartY)) ≤ 0)

omit [FloorRing K] in
theorem calculateManualFuelRequired_eq (s : Page K) (c : FuelLayout K) (yDist : K) :
    s.calculateManualFuelRequired c yDist =
      if s.serverData.maxFuel.val ≤ 0 then 0
      else if s.dragTarget c yDist < 0 then 0
      else if s.dragTarget c yDist > s.serverData.maxFuel.val then s.serverData.maxFuel.val
      else s.dragTarget c yDist := rfl

omit [FloorRing K] in
theorem calculateManualFuelRequired_eq_max_iff (s : Page K) (c : FuelLayout K) (yDist : K) :
    s.calculateManualFuelRequired c yDist = max s.serverData.maxFuel.val 0 ↔
      (s.serverData.maxFuel.val > 0 → s.dragTarget c yDist ≥ s.serverData.maxFuel.val) := by
  rw [calculateManualFuelRequired_eq]
  split
  · rename_i hmax
    simp [max_eq_right hmax, not_lt.mpr hmax]
  · rename_i hmax
    have hpos : 0 < s.serverData.maxFuel.val := not_le.mp hmax
    rw [max_eq_left hpos.le]
    split
    · rename_i hneg
      simp [hpos, hpos.ne, hneg.trans hpos]
    · split
      · rename_i habove
        simp [habove.le]
      · rename_i hbelow
        rw [not_lt] at hbelow
        exact ⟨fun h _ => h.ge, fun h => le_antisymm hbelow (h hpos)⟩

omit [FloorRing K] in
theorem calculateManualFuelRequired_eq_zero_iff (s : Page K) (c : FuelLayout K) (yDist : K) :
    s.calculateManualFuelRequired c yDist = 0 ↔
      (s.serverData.maxFuel.val > 0 → s.dragTarget c yDist ≤ 0) := by
  rw [calculateManualFuelRequired_eq]
  split
  · rename_i hmax
    simp [not_lt.mpr hmax]
  · rename_i hmax
    have hpos : 0 < s.serverData.maxFuel.val := not_le.mp hmax
    split
    · rename_i hneg
      simp [hneg.le]
    · rename_i hnonneg
      split
      · rename_i habove
        simp [hpos, hpos.ne', hpos.trans habove]
      · exact ⟨fun h _ => h.le, fun h => le_antisymm (h hpos) (not_lt.mp hnonneg)⟩

theorem selectionSettled_endGaugeTouch_iff {s : Page K} (hs : s.SelectionSettled) (c : FuelLayout K)
    (e : Touch) :
    (s.endGaugeTouch c (e.clientX - s.fuelState.touchStartX)
        (e.clientY - s.fuelState.touchStartY)).SelectionSettled ↔ s.DragEndKept c e := by
  unfold endGaugeTouch DragEndKept isDragEnd
  split
  · rename_i htap
    rw [htap]
    have htapped : SelectionSettled
        { s with fuelState.isFineAdjustMode := !s.fuelState.isFineAdjustMode } :=
      ⟨hs.matched.congr (by rfl), hs.notUpdated⟩
    simp [htapped]
  · rename_i htap
    rw [Bool.not_eq_true] at htap
    rw [htap]
    split
    · rename_i hdrag
      have hset (value : K) : (s.setManualFuelRequiredValue value).SelectionSettled ↔
          (s.setManualFuelRequiredValue value).SelectionMatches :=
        ⟨fun h => h.matched, fun h => ⟨h, not_updated_updateManualFuel _⟩⟩
      rw [hset, selectionMatches_setManualFuelRequiredValue_iff _ hs.matched hs.notUpdated
        (calculateManualFuelRequired_nonneg _ _ _), calculateManualFuelRequired_eq_max_iff,
        calculateManualFuelRequired_eq_zero_iff, hdrag]
      simp only [Bool.not_false, Bool.and_self, forall_const]
      constructor
      · rintro ⟨hfull, hnone⟩ hmax
        exact ⟨fun h => hfull h hmax, fun h => hnone h hmax⟩
      · intro h
        exact ⟨fun hfull hmax => (h hmax).1 hfull, fun hnone hmax => (h hmax).2 hnone⟩
    · rename_i hdrag
      simp [hs, hdrag]

theorem SelectionSettled.endButtonTouch {s : Page K} (hs : s.SelectionSettled) (c : FuelLayout K)
    (boundingRect : Offset) (distX distY : ℤ) :
    (s.endButtonTouch c boundingRect distX distY).SelectionSettled := by
  unfold Page.endButtonTouch
  split
  · exact hs.handleOnClickFuelIndicatorEvent c _ _
  · exact hs

/-- **End of a touch.** -/
theorem selectionSettled_onTouchEndFuel_iff {s : Page K} (hs : s.SelectionSettled) (c : FuelLayout K)
    (e : Touch) : (s.onTouchEndFuel c e).SelectionSettled ↔ s.DragEndKept c e := by
  have hcleared (t : Page K) : SelectionSettled { t with
      fuelState.touchStartX := 0
      fuelState.touchStartY := 0
      fuelState.isTouchFuelDown := false
      fuelState.isTouchFuelDownForAdj := false
      fuelState.isTouchButtonDown := false
      fuelState.touchStartFuelRequiredVal := 0 } ↔ t.SelectionSettled :=
    ⟨fun h => ⟨h.matched.congr (by rfl), h.notUpdated⟩, fun h => ⟨h.matched.congr (by rfl), h.notUpdated⟩⟩
  refine (hcleared _).trans ?_
  split
  · exact selectionSettled_endGaugeTouch_iff hs c e
  · rename_i hdown
    have hdrag : s.isDragEnd e = false := by
      simp only [Bool.or_eq_true, not_or, Bool.not_eq_true] at hdown
      simp [isDragEnd, hdown.2]
    have hkept : s.DragEndKept c e := by simp [DragEndKept, hdrag]
    simp only [hkept, iff_true]
    split
    · exact hs.endButtonTouch c _ _ _
    · exact hs

theorem SelectionSettled.notUpdated_onTouchEndFuel {s : Page K} (hs : s.SelectionSettled)
    (c : FuelLayout K) (e : Touch) : (s.onTouchEndFuel c e).serverData.maxFuel.updated = false := by
  unfold Page.onTouchEndFuel
  dsimp only
  split
  · unfold Page.endGaugeTouch
    split
    · exact hs.notUpdated
    · split
      · exact not_updated_updateManualFuel _
      · exact hs.notUpdated
  · split
    · exact (hs.endButtonTouch c _ _ _).notUpdated
    · exact hs.notUpdated

/-! ## Messages -/

omit [FloorRing K] in
/-- With a new maximum only the value of the Full button may be the one before. -/
theorem SelectionMatches.refreshFull {s t : Page K} (hs : s.SelectionMatches)
    (hfuel : t.fuelState = s.fuelState) (hcoords : t.fuelCoords = s.fuelCoords)
    (h : t.serverData.maxFuel.updated = true) : t.refreshFull.SelectionMatches := by
  obtain ⟨hrequired, hboth, hmanual, -, hnone, hnonneg⟩ := hs
  rw [← hfuel, ← hcoords] at *
  unfold Page.refreshFull
  split
  · rename_i hlit
    simp only [Bool.and_eq_true] at hlit
    refine ⟨hrequired, hboth, hmanual, fun _ => t.fullFuel_eq, ?_, ?_⟩
    · intro hlitnone
      exact absurd ⟨hlit.2, hlitnone⟩ hboth
    · dsimp only
      rw [fullFuel_eq]
      exact le_max_right _ _
  · rename_i hunlit
    refine ⟨hrequired, hboth, hmanual, ?_, hnone, hnonneg⟩
    intro hfull
    exact absurd (by simp [hfull, h, hmanual (.inl hfull)]) hunlit

theorem SelectionMatches.received {s : Page K} (hs : s.SelectionMatches) (messageData : Str) :
    Page.SelectionMatches (Page.updateDependentData { s.clearDataUpdated with
      serverData := s.clearDataUpdated.serverData.updateServerData .exact messageData }) := by
  set t : Page K := { s.clearDataUpdated with
    serverData := s.clearDataUpdated.serverData.updateServerData .exact messageData } with ht
  cases hupdated : t.serverData.maxFuel.updated with
  | false =>
    have hmax : t.serverData.maxFuel = s.clearDataUpdated.serverData.maxFuel :=
      NumberField.receive_of_not_updated _ _ _ _ _ hupdated
    have hside : t.choiceSide = s.choiceSide := by
      rw [choiceSide, choiceSide, hmax]
      rfl
    exact hs.congr ((choiceSide_updateDependentData hupdated).trans hside)
  | true =>
    have hupdate : t.updateDependentData = t.refreshFull.storeFuelToAdd :=
      if_pos (by simp [ServerData.isFuelUpdated, hupdated])
    rw [hupdate]
    exact (hs.refreshFull (t := t) rfl rfl hupdated).congr (choiceSide_storeFuelToAdd _)

omit [FloorRing K] in
theorem SelectionSettled.settleMessage {s : Page K} (hs : s.SelectionMatches) :
    s.settleMessage.SelectionSettled := by
  have hstate : (if s.globalData.onTrackOnPitRoadBool then s.updatePitRoadAppliedState
      else s.setOffPitRoadState).choiceSide = s.choiceSide := by
    split
    · exact choiceSide_congr (isOutsideButtons_fuelSide.updatePitRoadAppliedState s)
    · exact choiceSide_congr (isOutsideButtons_fuelSide.setOffPitRoadState s)
  exact ⟨(hs.congr hstate).congr (by rfl), rfl⟩

theorem SelectionSettled.onWebSocketMessage {s : Page K} (hs : s.SelectionSettled) (messageData : Str) :
    (s.onWebSocketMessage messageData).SelectionSettled := by
  unfold Page.onWebSocketMessage
  split
  · exact hs
  · apply SelectionSettled.settleMessage
    have hreceived : (s.receiveMessage messageData).2.SelectionMatches :=
      (hs.matched.received messageData).congr (choiceSide_congr
        ((fuelSide_checkIsEnteringPitRoad _).trans (isOutsideButtons_fuelSide.lapsOfFuelUpdateIndicator _ _)))
    split
    · exact hreceived.congr (choiceSide_congr (isOutsideButtons_fuelSide.onSendButton _))
    · exact hreceived

end Page

/-! ## Runs -/

variable [FloorRing K]

/-- A drag that ends with a lit button ends where the button stands. -/
def DragsKept (canvases : Canvases K) (s : Page K) : Event K → Prop
  | .touchEndFuel e => s.DragEndKept (calculateFuelOffsets canvases.fuel) e
  | _ => True

theorem selectionSettled_step_iff (canvases : Canvases K) (s : Page K) (e : Event K)
    (hs : s.SelectionSettled) : (step canvases s e).SelectionSettled ↔ DragsKept canvases s e := by
  cases e with
  | touchEndFuel e => exact Page.selectionSettled_onTouchEndFuel_iff hs _ e
  | message data => exact iff_of_true (hs.onWebSocketMessage data) trivial
  | touchStartFuel e => exact iff_of_true (hs.onTouchStartFuel _ e) trivial
  | touchMoveFuel e => exact iff_of_true (hs.onTouchMoveFuel _ e) trivial
  | clickFuel e => exact iff_of_true (hs.handleOnClickFuelIndicatorEvent _ _ _) trivial
  | _ => exact iff_of_true (hs.congr (Page.isOutsideButtons_fuelSide.step canvases s _ id)) trivial

theorem selectionMatches_step_iff (canvases : Canvases K) (s : Page K) (e : Event K)
    (hs : s.SelectionSettled) : (step canvases s e).SelectionMatches ↔ DragsKept canvases s e := by
  rw [← selectionSettled_step_iff canvases s e hs]
  refine ⟨fun h => ⟨h, ?_⟩, fun h => h.matched⟩
  cases e with
  | touchEndFuel e => exact hs.notUpdated_onTouchEndFuel _ e
  | _ =>
    apply Page.SelectionSettled.notUpdated
    apply (selectionSettled_step_iff canvases s _ hs).mpr
    trivial

/-- **The fuel buttons.** They match the mode and the value along exactly the runs in which each
drag with a lit button ends where the button stands. -/
theorem selection_matches_iff (canvases : Canvases K) (es : List (Event K)) :
    StepsOk (step canvases) (DragsKept canvases) {} es ↔
      ∀ fs, fs <+: es → (run (step canvases) {} fs).SelectionMatches := by
  have hinit : ({} : Page K).SelectionSettled := by
    refine ⟨⟨rfl, ?_, ?_, ?_, ?_, le_rfl⟩, rfl⟩ <;> simp
  exact stepsOk_iff_forall_of_invariant
    (fun s e hs => (selectionSettled_step_iff canvases s e hs).mpr)
    (selectionMatches_step_iff canvases) es hinit hinit.matched

/-! ## A touch that lost its moves -/

def gaugeCanvases : Canvases ℚ := ⟨⟨400, 600⟩, ⟨400, 600⟩, ⟨400, 600⟩⟩

/-- Full is lit, and a touch in the gauge ends 100 pixels farther down without a move. -/
def fullThenDrag : List (Event ℚ) :=
  [.message "***D.A.T.A***\n\nFuelLevel;10.2\nMaxFuel;60\nFuelRequired;42.9\n".toList,
   .clickFuel ⟨310, 120, ⟨0, 0⟩⟩, .touchStartFuel ⟨200, 300, ⟨0, 0⟩⟩, .touchEndFuel ⟨200, 400, ⟨0, 0⟩⟩]

theorem full_after_drag :
    (run (step gaugeCanvases) {} fullThenDrag).fuelCoords.fullButtonState = true ∧
    ¬ (run (step gaugeCanvases) {} fullThenDrag).SelectionMatches := by
  have hlit : (run (step gaugeCanvases) {} fullThenDrag).fuelCoords.fullButtonState = true := by
    decide +kernel
  refine ⟨hlit, ?_⟩
  intro h
  have hvalue := h.full hlit
  revert hvalue
  decide +kernel

end IrPitCrew.Client
