import IrPitCrew.Client.FuelDrawing
import IrPitCrew.Client.FuelSelection
import Mathlib.Tactic.FieldSimp

/-!
# Drags on the fuel gauge

The line of the required fuel is drawn at a height, and a drag computes a fuel
from a height. While a touch is down the line is where the finger is, whatever
the moves and messages before.
-/

open IrPitCrew.Text IrPitCrew.Run

namespace IrPitCrew.Client

variable {K : Type*} [Field K] [LinearOrder K]

/-! ## The line of the required fuel -/

/-- `fuelRequiredPos` of the drawing. -/
def FuelLayout.fuelRequiredPos (c : FuelLayout K) (maxFuelVal fuelRequiredDrawVal : K) : K :=
  if maxFuelVal > 0 then
    if fuelRequiredDrawVal > 0 then
      let fuelRequiredHeight :=
        if fuelRequiredDrawVal < maxFuelVal then fuelRequiredDrawVal / maxFuelVal * c.fuelHeight
        else c.fuelHeight
      c.fuelBottom - fuelRequiredHeight
    else c.fuelBottom
  else c.fuelBottom

namespace Page

def fuelRequiredDrawVal (s : Page K) : K :=
  if s.fuelState.isManualFuelRequiredMode then s.fuelState.manualFuelRequiredValue
  else s.serverData.fuelRequired.val

def fuelRequiredPos (s : Page K) (c : FuelLayout K) : K :=
  c.fuelRequiredPos s.serverData.maxFuel.val s.fuelRequiredDrawVal

/-- The value that a touch starts from. -/
def startFuelRequired (s : Page K) : K :=
  if s.fuelState.isManualFuelRequiredMode then s.fuelState.manualFuelRequiredValue
  else s.autoFuelRequired

end Page

/-! ## Heights -/

/-- The height of a value on the scale of the gauge, also above and below it. -/
def FuelLayout.height (c : FuelLayout K) (maxFuelVal value : K) : K :=
  c.fuelBottom - value / maxFuelVal * c.fuelHeight

section

variable [IsStrictOrderedRing K]

omit [LinearOrder K] [IsStrictOrderedRing K] in
theorem calculateFuelOffsets_fuelTop (canvas : Canvas K) :
    (calculateFuelOffsets canvas).fuelTop =
      (calculateFuelOffsets canvas).fuelBottom - (calculateFuelOffsets canvas).fuelHeight :=
  (sub_sub_cancel _ _).symm

variable {c : FuelLayout K} {maxFuelVal : K}

/-- The line stays in the gauge. -/
theorem fuelRequiredPos_eq (htop : c.fuelTop = c.fuelBottom - c.fuelHeight) (hheight : 0 < c.fuelHeight)
    (hmax : 0 < maxFuelVal) (value : K) :
    c.fuelRequiredPos maxFuelVal value =
      max c.fuelTop (min c.fuelBottom (c.height maxFuelVal value)) := by
  have horder : c.fuelTop ≤ c.fuelBottom := by
    rw [htop]
    linarith
  unfold FuelLayout.fuelRequiredPos FuelLayout.height
  rw [if_pos hmax]
  by_cases hvalue : value > 0
  · have hpart : 0 < value / maxFuelVal * c.fuelHeight := mul_pos (div_pos hvalue hmax) hheight
    rw [if_pos hvalue, min_eq_right (by linarith)]
    dsimp only
    split
    · rename_i hbelow
      have hpart : value / maxFuelVal * c.fuelHeight ≤ 1 * c.fuelHeight :=
        mul_le_mul_of_nonneg_right ((div_le_one hmax).mpr hbelow.le) hheight.le
      rw [max_eq_right (by linarith)]
    · rename_i habove
      have hpart : 1 * c.fuelHeight ≤ value / maxFuelVal * c.fuelHeight :=
        mul_le_mul_of_nonneg_right ((one_le_div hmax).mpr (not_lt.mp habove)) hheight.le
      rw [max_eq_left (by linarith), htop]
  · have hpart : value / maxFuelVal * c.fuelHeight ≤ 0 :=
      mul_nonpos_of_nonpos_of_nonneg (div_nonpos_of_nonpos_of_nonneg (not_lt.mp hvalue) hmax.le) hheight.le
    rw [if_neg hvalue, min_eq_left (by linarith), max_eq_right horder]

/-- The value of a drag is drawn where its height is. -/
theorem fuelRequiredPos_calculate {s : Page K} (htop : c.fuelTop = c.fuelBottom - c.fuelHeight)
    (hheight : 0 < c.fuelHeight) (hmax : 0 < s.serverData.maxFuel.val) (yDist : K) :
    c.fuelRequiredPos s.serverData.maxFuel.val (s.calculateManualFuelRequired c yDist) =
      max c.fuelTop (min c.fuelBottom
        (c.height s.serverData.maxFuel.val s.fuelState.touchStartFuelRequiredVal + yDist)) := by
  have htarget : c.height s.serverData.maxFuel.val (s.dragTarget c yDist) =
      c.height s.serverData.maxFuel.val s.fuelState.touchStartFuelRequiredVal + yDist := by
    unfold FuelLayout.height Page.dragTarget
    field_simp
    ring
  rw [← htarget, ← fuelRequiredPos_eq htop hheight hmax, Page.calculateManualFuelRequired_eq,
    if_neg (not_le.mpr hmax)]
  unfold FuelLayout.fuelRequiredPos
  rw [if_pos hmax, if_pos hmax]
  split
  · rename_i hneg
    rw [if_neg (lt_irrefl _), if_neg (not_lt.mpr hneg.le)]
  · split
    · rename_i habove
      rw [if_pos (hmax.trans habove)]
      dsimp only
      rw [if_neg (lt_irrefl _), if_neg (not_lt.mpr habove.le)]
    · rfl

end

/-! ## While a touch is down -/

namespace Page

/-- What a touch that starts in the gauge leaves for the moves. -/
def dragSide (s : Page K) : Bool × ℤ × K × Bool :=
  (s.fuelState.isTouchFuelDownForAdj, s.fuelState.touchStartY, s.fuelState.touchStartFuelRequiredVal,
    s.fuelState.isFineAdjustMode)

omit [LinearOrder K] in
theorem isOutsideButtons_dragSide : IsOutsideButtons (dragSide (K := K)) :=
  ⟨fun _ _ _ _ _ _ _ _ _ => rfl⟩

theorem dragSide_setManualFuelRequiredMode (s : Page K) (value isFull isNone : Bool) :
    (s.setManualFuelRequiredMode value isFull isNone).dragSide = s.dragSide := by
  unfold setManualFuelRequiredMode
  dsimp only
  split <;> rfl

/-- The value is set by hand, and no button stands for it. -/
def isAdjusting (s : Page K) : Bool :=
  s.fuelState.isManualFuelRequiredMode && !s.fuelCoords.fullButtonState && !s.fuelCoords.noneButtonState

variable [FloorRing K]

theorem dragSide_updateDependentData (s : Page K) : s.updateDependentData.dragSide = s.dragSide := by
  unfold updateDependentData storeFuelToAdd refreshFull
  dsimp only
  repeat' split
  all_goals rfl

theorem dragSide_setManualFuelRequiredValue (s : Page K) (value : K) :
    (s.setManualFuelRequiredValue value).dragSide = s.dragSide :=
  dragSide_updateDependentData { s with
    fuelState.manualFuelRequiredValue := value
    fuelState.manualFuelRequiredUpdated := true }

theorem dragSide_onTouchMoveFuel (s : Page K) (c : FuelLayout K) (e : Touch) :
    (s.onTouchMoveFuel c e).dragSide = s.dragSide := by
  unfold onTouchMoveFuel
  dsimp only
  split
  · split
    · rw [dragSide_setManualFuelRequiredValue, dragSide_setManualFuelRequiredMode]
    · rfl
  · rfl

theorem dragSide_onWebSocketMessage (s : Page K) (messageData : Str) :
    (s.onWebSocketMessage messageData).dragSide = s.dragSide := by
  by_cases hdata : messageData = heartbeat
  · have hsame : s.onWebSocketMessage messageData = s := if_pos hdata
    rw [hsame]
  · have hpage := Screen.view_onWebSocketMessage isOutsideButtons_dragSide (fun _ => rfl) (fun _ => rfl)
      { page := s } messageData hdata
    rw [Screen.page_onWebSocketMessage] at hpage
    rw [hpage, Screen.receivedPage, dragSide_updateDependentData]
    rfl

/-! ## The value that is set -/

/-- Without the Full button nothing but the value by hand changes. -/
theorem choiceSide_setManualFuelRequiredValue {s : Page K} (h : s.fuelCoords.fullButtonState = false)
    (value : K) :
    (s.setManualFuelRequiredValue value).choiceSide =
      (s.fuelState.isManualFuelRequiredMode, value, s.fuelCoords, s.serverData.maxFuel.val) := by
  unfold setManualFuelRequiredValue updateManualFuel updateDependentData
  dsimp only
  rw [if_pos (by simp), refreshFull, if_neg (by simp [h])]
  exact choiceSide_storeFuelToAdd _

/-- The touch that an event of a drag leads to: a move, or an end that is no tap, with no button lit.
Left out is an end with Full or None still lit, which sets the value too but leaves the button lit. -/
def draggedTo (s : Page K) : Event K → Option Touch
  | .touchMoveFuel e =>
    if s.fuelState.isTouchFuelDownForAdj ∧
        (e.clientY - s.fuelState.touchStartY ≠ 0 ∨ s.isAdjusting) then some e else none
  | .touchEndFuel e =>
    if s.fuelState.isTouchFuelDownForAdj ∧ s.isAdjusting ∧
        isTap (e.clientX - s.fuelState.touchStartX) (e.clientY - s.fuelState.touchStartY) 5 = false then
      some e
    else none
  | _ => none

theorem choiceSide_onTouchMoveFuel {s : Page K} {e : Touch} (c : FuelLayout K)
    (hdown : s.fuelState.isTouchFuelDownForAdj = true)
    (hmove : e.clientY - s.fuelState.touchStartY ≠ 0 ∨ s.isAdjusting = true) :
    (s.onTouchMoveFuel c e).choiceSide =
      (true, s.calculateManualFuelRequired c (s.fineAdjust (e.clientY - s.fuelState.touchStartY)),
        { fullButtonState := false, noneButtonState := false, requiredButtonState := false },
        s.serverData.maxFuel.val) := by
  unfold isAdjusting at hmove
  unfold onTouchMoveFuel
  dsimp only
  rw [if_pos hdown, if_pos hmove]
  exact choiceSide_setManualFuelRequiredValue rfl _

theorem choiceSide_onTouchEndFuel {s : Page K} {e : Touch} (c : FuelLayout K)
    (hdown : s.fuelState.isTouchFuelDownForAdj = true) (hadjusting : s.isAdjusting = true)
    (htap : isTap (e.clientX - s.fuelState.touchStartX) (e.clientY - s.fuelState.touchStartY) 5 = false) :
    (s.onTouchEndFuel c e).choiceSide =
      (true, s.calculateManualFuelRequired c (s.fineAdjust (e.clientY - s.fuelState.touchStartY)),
        s.fuelCoords, s.serverData.maxFuel.val) := by
  simp only [isAdjusting, Bool.and_eq_true, Bool.not_eq_true'] at hadjusting
  obtain ⟨⟨hmanual, hfull⟩, -⟩ := hadjusting
  have hend : (s.onTouchEndFuel c e).choiceSide = (s.setManualFuelRequiredValue
      (s.calculateManualFuelRequired c (s.fineAdjust (e.clientY - s.fuelState.touchStartY)))).choiceSide := by
    unfold onTouchEndFuel endGaugeTouch
    dsimp only
    rw [if_pos (by simp [hdown]), if_neg (by simp [htap]), if_pos (by simp [hdown, hmanual])]
    rfl
  rw [hend, choiceSide_setManualFuelRequiredValue hfull, hmanual]

end Page

variable [FloorRing K]

/-- Anything but the start and the end of a touch, and clicks. -/
def IsDuringDrag : Event K → Prop
  | .touchStartFuel _ | .touchEndFuel _ | .clickFuel _ => False
  | _ => True

theorem dragSide_step (canvases : Canvases K) (s : Page K) (e : Event K) (h : IsDuringDrag e) :
    (step canvases s e).dragSide = s.dragSide := by
  cases e with
  | message data => exact s.dragSide_onWebSocketMessage data
  | touchMoveFuel e => exact s.dragSide_onTouchMoveFuel _ e
  | touchStartFuel | touchEndFuel | clickFuel => exact h.elim
  | _ => exact Page.isOutsideButtons_dragSide.step canvases s _ id

/-- The event sets the value that the finger points to, with no button lit. -/
theorem choiceSide_draggedTo (canvases : Canvases K) {s : Page K} {e : Event K} {touch : Touch}
    (h : s.draggedTo e = some touch) :
    (step canvases s e).fuelState.isManualFuelRequiredMode = true ∧
    (step canvases s e).fuelState.manualFuelRequiredValue =
      s.calculateManualFuelRequired (calculateFuelOffsets canvases.fuel)
        (s.fineAdjust (touch.clientY - s.fuelState.touchStartY)) ∧
    (step canvases s e).serverData.maxFuel.val = s.serverData.maxFuel.val := by
  have hside : ∃ coords, (step canvases s e).choiceSide =
      (true, s.calculateManualFuelRequired (calculateFuelOffsets canvases.fuel)
        (s.fineAdjust (touch.clientY - s.fuelState.touchStartY)), coords, s.serverData.maxFuel.val) := by
    cases e with
    | touchMoveFuel e =>
      simp only [Page.draggedTo, Option.ite_none_right_eq_some, Option.some.injEq] at h
      obtain ⟨⟨hdown, hmove⟩, rfl⟩ := h
      exact ⟨_, Page.choiceSide_onTouchMoveFuel _ hdown hmove⟩
    | touchEndFuel e =>
      simp only [Page.draggedTo, Option.ite_none_right_eq_some, Option.some.injEq] at h
      obtain ⟨⟨hdown, hadjusting, htap⟩, rfl⟩ := h
      exact ⟨_, Page.choiceSide_onTouchEndFuel _ hdown hadjusting htap⟩
    | _ => cases h
  obtain ⟨coords, hside⟩ := hside
  simp only [Page.choiceSide, Prod.mk.injEq] at hside
  exact ⟨hside.1, hside.2.1, hside.2.2.2⟩

/-- A touch in the gauge of a known tank. -/
theorem dragSide_touchStartFuel (canvases : Canvases K) {s : Page K} {e : Touch}
    (hgauge : (calculateFuelOffsets canvases.fuel).isXyInFuelGaugeArea
      (e.clientX - e.boundingRect.left : ℤ) (e.clientY - e.boundingRect.top : ℤ) = true)
    (hmax : 0 < s.serverData.maxFuel.val) :
    (step canvases s (.touchStartFuel e)).dragSide =
      (true, e.clientY, s.startFuelRequired, s.fuelState.isFineAdjustMode) := by
  simp only [step, Page.onTouchStartFuel]
  rw [if_pos hgauge, if_pos hmax]
  rfl

/-- **Drags.** Whatever moves and messages come between, the line of the required fuel goes the way of
the finger from where the touch started, fine or not, and stays in the gauge. -/
theorem drag_follows [IsStrictOrderedRing K] (canvases : Canvases K) (c : FuelLayout K)
    (s t : Page K) (start touch : Touch) (es : List (Event K)) (e : Event K)
    (hc : c = calculateFuelOffsets canvases.fuel) (hheight : 0 < c.fuelHeight)
    (hgauge : c.isXyInFuelGaugeArea (start.clientX - start.boundingRect.left : ℤ)
      (start.clientY - start.boundingRect.top : ℤ) = true)
    (hstart : 0 < s.serverData.maxFuel.val) (hes : ∀ d ∈ es, IsDuringDrag d)
    (ht : t = run (step canvases) s (.touchStartFuel start :: es)) (hmax : 0 < t.serverData.maxFuel.val)
    (he : t.draggedTo e = some touch) :
    (step canvases t e).fuelRequiredPos c =
      max c.fuelTop (min c.fuelBottom (c.height t.serverData.maxFuel.val s.startFuelRequired +
        s.fineAdjust (touch.clientY - start.clientY))) := by
  subst hc
  have hkeep (t : Page K) (d : Event K) (hd : IsDuringDrag d)
      (ht : t.dragSide = (step canvases s (.touchStartFuel start)).dragSide) :
      (step canvases t d).dragSide = (step canvases s (.touchStartFuel start)).dragSide :=
    (dragSide_step canvases t d hd).trans ht
  have hside : t.dragSide = (step canvases s (.touchStartFuel start)).dragSide := by
    rw [ht, run_cons]
    exact run_invariant_of_forall hkeep hes rfl
  obtain ⟨hmanual, hvalue, hserver⟩ := choiceSide_draggedTo canvases he
  rw [dragSide_touchStartFuel canvases hgauge hstart] at hside
  simp only [Page.dragSide, Prod.mk.injEq] at hside
  obtain ⟨-, hy, hfrom, hfine⟩ := hside
  have hadjust : t.fineAdjust (touch.clientY - t.fuelState.touchStartY) =
      s.fineAdjust (touch.clientY - start.clientY) := by
    rw [Page.fineAdjust, Page.fineAdjust, hfine, hy]
  rw [Page.fuelRequiredPos, Page.fuelRequiredDrawVal, if_pos hmanual, hvalue, hserver,
    fuelRequiredPos_calculate (calculateFuelOffsets_fuelTop _) hheight hmax, hfrom, hadjust]

/-- A tank of 60 litres, and a finger that goes up by 20 pixels on a detour. -/
def dragCanvases : Canvases ℚ := ⟨⟨400, 600⟩, ⟨400, 600⟩, ⟨400, 600⟩⟩

def tankPage : Page ℚ :=
  run (step dragCanvases) {}
    [.message "***D.A.T.A***\n\nFuelLevel;10.2\nMaxFuel;60\nFuelRequired;42.9\n".toList]

def detour : List (Event ℚ) := [.touchMoveFuel ⟨200, 550, ⟨0, 0⟩⟩, .clickWindshield]

theorem drag_follows_detour :
    (step dragCanvases (run (step dragCanvases) tankPage (.touchStartFuel ⟨200, 300, ⟨0, 0⟩⟩ :: detour))
      (.touchMoveFuel ⟨200, 280, ⟨0, 0⟩⟩)).fuelRequiredPos (calculateFuelOffsets dragCanvases.fuel) =
      200375 / 1000 := by
  refine (drag_follows dragCanvases _ tankPage _ ⟨200, 300, ⟨0, 0⟩⟩ ⟨200, 280, ⟨0, 0⟩⟩ detour
    (.touchMoveFuel ⟨200, 280, ⟨0, 0⟩⟩) rfl
    (by decide +kernel) (by decide +kernel) (by decide +kernel) ?_ rfl (by decide +kernel)
    (if_pos ⟨by decide +kernel, .inl (by decide +kernel)⟩)).trans (by decide +kernel)
  intro d hd
  rcases List.mem_cons.mp hd with rfl | hd
  · trivial
  · rw [List.mem_singleton.mp hd]
    trivial

end IrPitCrew.Client
