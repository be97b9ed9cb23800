import IrPitCrew.Client.Frame
import Mathlib.Data.Rat.Floor

/-!
# Where the Apply and Auto buttons take a press

Each button takes a press around what is drawn of it. Auto is on the right and
still has the margin of the border on its left, so it takes the last ten pixels of
Apply too. A tap is looked up by its place in the window, with the canvas's place in
the page taken off: on a scrolled page that is another point than the one under the
finger.
-/

open IrPitCrew.Text IrPitCrew.Run IrPitCrew.Rounding

namespace IrPitCrew.Client

variable {K : Type*} [Field K] [LinearOrder K]

/-! ## The areas -/

namespace LapsOfFuelLayout

/-- Inside the rectangle that `drawApplyButton` fills. -/
def isInApply (c : LapsOfFuelLayout K) (x y : K) : Bool :=
  isXyInButtonArea x y c.applyButtonX c.applyButtonY c.applyButtonWidth c.buttonHeight

/-- Inside the rectangle that `drawApplyButtonArea` fills for Auto. -/
def isInAuto (c : LapsOfFuelLayout K) (x y : K) : Bool :=
  isXyInButtonArea x y c.autoButtonX c.autoButtonY c.autoButtonWidth c.buttonHeight

def isAutoAt (c : LapsOfFuelLayout K) (point : Option (K × K)) : Bool :=
  point.any fun p => c.isAutoClicked p.1 p.2

def isApplyAt (c : LapsOfFuelLayout K) (point : Option (K × K)) : Bool :=
  point.any fun p => c.isApplyClicked p.1 p.2

end LapsOfFuelLayout

theorem isXyInButtonArea_iff (x y buttonX buttonY buttonW buttonH : K) :
    isXyInButtonArea x y buttonX buttonY buttonW buttonH = true ↔
      (buttonX < x ∧ x < buttonX + buttonW) ∧ buttonY < y ∧ y < buttonY + buttonH := by
  simp [isXyInButtonArea, and_assoc]

section

variable [IsStrictOrderedRing K]

theorem isXyInButtonArea_of_margins {x y buttonX buttonY buttonW buttonH left right top bottom : K}
    (hleft : 0 ≤ left) (hright : 0 ≤ right) (htop : 0 ≤ top) (hbottom : 0 ≤ bottom)
    (h : isXyInButtonArea x y buttonX buttonY buttonW buttonH = true) :
    isXyInButtonArea x y (buttonX - left) (buttonY - top) (buttonW + left + right)
      (buttonH + top + bottom) = true := by
  rw [isXyInButtonArea_iff] at h ⊢
  obtain ⟨⟨hx, hx'⟩, hy, hy'⟩ := h
  refine ⟨⟨?_, ?_⟩, ?_, ?_⟩ <;> linarith

variable (canvas : Canvas K) {x y : K}

theorem isApplyClicked_of_isInApply (h : (calculateLapsOfFuelOffsets canvas).isInApply x y = true) :
    (calculateLapsOfFuelOffsets canvas).isApplyClicked x y = true := by
  apply isXyInButtonArea_of_margins _ _ _ _ h <;> norm_num [calculateLapsOfFuelOffsets]

theorem isAutoClicked_of_isInAuto (h : (calculateLapsOfFuelOffsets canvas).isInAuto x y = true) :
    (calculateLapsOfFuelOffsets canvas).isAutoClicked x y = true := by
  apply isXyInButtonArea_of_margins _ _ _ _ h <;> norm_num [calculateLapsOfFuelOffsets]

/-- The left margin of Auto reaches ten pixels into Apply. -/
theorem isAutoClicked_iff_of_isInApply
    (h : (calculateLapsOfFuelOffsets canvas).isInApply x y = true) :
    (calculateLapsOfFuelOffsets canvas).isAutoClicked x y = true ↔
      (calculateLapsOfFuelOffsets canvas).applyButtonX +
        (calculateLapsOfFuelOffsets canvas).applyButtonWidth - 10 < x := by
  unfold LapsOfFuelLayout.isInApply at h
  unfold LapsOfFuelLayout.isAutoClicked
  rw [isXyInButtonArea_iff] at h ⊢
  obtain ⟨⟨hleft, hright⟩, htop, hbottom⟩ := h
  simp only [calculateLapsOfFuelOffsets] at hleft hright htop hbottom ⊢
  constructor
  · rintro ⟨⟨hauto, -⟩, -⟩
    linarith
  · intro hedge
    refine ⟨⟨?_, ?_⟩, ?_, ?_⟩ <;> linarith

end

/-! ## From the start of a touch to its end -/

/-- `xPos` and `yPos` of the touch handlers. -/
def Touch.point (e : Touch) : K × K :=
  ((e.clientX - e.boundingRect.left : ℤ), (e.clientY - e.boundingRect.top : ℤ))

def Click.point (event : Click K) : K × K :=
  (event.pageX - event.boundingRect.left, event.pageY - event.boundingRect.top)

def IsLapsOfFuelTouch : Event K → Prop
  | .touchStartLapsOfFuel _ | .touchEndLapsOfFuel _ => True
  | _ => False

namespace Page

/-- What the start of a touch leaves for its end. -/
def touchSide (s : Page K) : ℤ × ℤ × Bool × Bool :=
  (s.lapsOfFuelState.touchStartX, s.lapsOfFuelState.touchStartY, s.lapsOfFuelState.isAutoButtonDown,
    s.lapsOfFuelState.isApplyButtonDown)

omit [LinearOrder K] in
theorem isOutsideGauge_touchSide : IsOutsideGauge (touchSide (K := K)) := ⟨fun _ _ _ _ => rfl, fun _ => rfl⟩

theorem touchSide_onSendButton (s : Page K) : s.onSendButton.touchSide = s.touchSide := by
  unfold onSendButton setOnPitRoadState
  repeat' split
  all_goals rfl

theorem touchSide_lapsOfFuelUpdateIndicator (s : Page K) (isForcedUpdate : Bool) :
    (s.lapsOfFuelUpdateIndicator isForcedUpdate).touchSide = s.touchSide := by
  unfold lapsOfFuelUpdateIndicator updateFuelImage
  dsimp only
  repeat' split
  all_goals rfl

theorem touchSide_settleMessage (s : Page K) : s.settleMessage.touchSide = s.touchSide := by
  unfold settleMessage setOffPitRoadState
  dsimp only
  repeat' split
  all_goals rfl

theorem touchSide_handleOnClick (s : Page K) (c : LapsOfFuelLayout K) (xPos yPos : K) :
    (s.handleOnClickLapsOfFuelIndicatorEvent c xPos yPos).touchSide = s.touchSide := by
  unfold handleOnClickLapsOfFuelIndicatorEvent
  split
  · rfl
  · split
    · exact touchSide_onSendButton s
    · rfl

/-- The point that the end of a touch gives to the handler of the buttons, if it does. -/
def endPoint (s : Page K) (e : Touch) : Option (K × K) :=
  if s.isLapsOfFuelTap e then some (s.lapsOfFuelTouchStart e) else none

/-- The point of a touch from `e` to `e'`: where it started, if that is in an area, and else where
an earlier touch did that is still to end. -/
def tapPoint (s : Page K) (c : LapsOfFuelLayout K) (e e' : Touch) : Option (K × K) :=
  if c.isAutoAt (some e.point) || c.isApplyAt (some e.point) then some e.point else s.endPoint e'

def handleAt (s : Page K) (c : LapsOfFuelLayout K) : Option (K × K) → Page K
  | some p => s.handleOnClickLapsOfFuelIndicatorEvent c p.1 p.2
  | none => s

theorem onTouchEnd_eq (s : Page K) (c : LapsOfFuelLayout K) (e : Touch) :
    s.onTouchEndLapsOfFuel c e = (s.handleAt c (s.endPoint e)).clearLapsOfFuelTouch := by
  unfold onTouchEndLapsOfFuel endPoint
  cases s.isLapsOfFuelTap e <;> rfl

omit [LinearOrder K] in
theorem endPoint_congr {s t : Page K} (h : s.touchSide = t.touchSide) (e : Touch) :
    s.endPoint e = t.endPoint e := by
  simp only [touchSide, Prod.mk.injEq] at h
  obtain ⟨hX, hY, hauto, happly⟩ := h
  have htap : s.isLapsOfFuelTap e = t.isLapsOfFuelTap e := by
    simp only [isLapsOfFuelTap, hX, hY, hauto, happly]
  rw [endPoint, endPoint, htap, lapsOfFuelTouchStart, lapsOfFuelTouchStart, hX, hY]

theorem onTouchStart_of_area (s : Page K) (c : LapsOfFuelLayout K) (e : Touch)
    (h : (c.isAutoAt (some e.point) || c.isApplyAt (some e.point)) = true) :
    (s.onTouchStartLapsOfFuel c e).lapsOfFuelState.touchStartX = e.clientX ∧
      (s.onTouchStartLapsOfFuel c e).lapsOfFuelState.touchStartY = e.clientY ∧
      ((s.onTouchStartLapsOfFuel c e).lapsOfFuelState.isAutoButtonDown ||
        (s.onTouchStartLapsOfFuel c e).lapsOfFuelState.isApplyButtonDown) = true := by
  simp only [LapsOfFuelLayout.isAutoAt, LapsOfFuelLayout.isApplyAt, Touch.point, Option.any_some] at h
  unfold onTouchStartLapsOfFuel
  dsimp only
  rw [if_pos h]
  refine ⟨rfl, rfl, ?_⟩
  rw [Bool.or_eq_true] at h
  rcases h with hauto | happly
  · simp only [hauto, Bool.true_or]
  · simp only [happly, Bool.true_or, Bool.or_true]

theorem onTouchStart_of_not_area (s : Page K) (c : LapsOfFuelLayout K) (e : Touch)
    (h : ¬ (c.isAutoAt (some e.point) || c.isApplyAt (some e.point)) = true) :
    s.onTouchStartLapsOfFuel c e = s := by
  simp only [LapsOfFuelLayout.isAutoAt, LapsOfFuelLayout.isApplyAt, Touch.point, Option.any_some] at h
  unfold onTouchStartLapsOfFuel
  dsimp only
  rw [if_neg h]

/-- What the end of a touch takes as pressed, from the page before the touch. -/
theorem tapPoint_eq (s : Page K) (c : LapsOfFuelLayout K) (e e' : Touch)
    (hrect : e'.boundingRect = e.boundingRect) (hx : |e'.clientX - e.clientX| < 20)
    (hy : |e'.clientY - e.clientY| < 20) :
    (s.onTouchStartLapsOfFuel c e).endPoint e' = s.tapPoint c e e' := by
  unfold tapPoint
  split
  · next harea =>
    obtain ⟨hX, hY, hdown⟩ := onTouchStart_of_area s c e harea
    have htap : (s.onTouchStartLapsOfFuel c e).isLapsOfFuelTap e' = true := by
      rw [isLapsOfFuelTap, hdown, hX, hY]
      simp [isTap, hx, hy]
    rw [endPoint, if_pos htap, lapsOfFuelTouchStart, hX, hY, hrect, Touch.point]
  · next harea => rw [onTouchStart_of_not_area s c e harea]

variable [FloorRing K]

theorem touchSide_onWebSocketMessage (s : Page K) (messageData : Str) :
    (s.onWebSocketMessage messageData).touchSide = s.touchSide := by
  have hreceive : (s.receiveMessage messageData).2.touchSide = s.touchSide := by
    refine (touchSide_lapsOfFuelUpdateIndicator _ false).trans ?_
    rw [isOutsideGauge_touchSide.updateDependentData]
    rfl
  unfold onWebSocketMessage
  dsimp only
  split
  · rfl
  · rw [touchSide_settleMessage, ← hreceive]
    split
    · exact touchSide_onSendButton _
    · rfl

end Page

variable [FloorRing K]

theorem touchSide_step (canvases : Canvases K) (s : Page K) (e : Event K) (h : ¬ IsLapsOfFuelTouch e) :
    (step canvases s e).touchSide = s.touchSide := by
  cases e with
  | message data => exact Page.touchSide_onWebSocketMessage s data
  | touchStartFuel e => exact Page.isOutsideGauge_touchSide.onTouchStartFuel s _ e
  | touchMoveFuel e => exact Page.isOutsideGauge_touchSide.onTouchMoveFuel s _ e
  | touchEndFuel e => exact Page.isOutsideGauge_touchSide.onTouchEndFuel s _ e
  | clickFuel e => exact Page.isOutsideGauge_touchSide.onClickFuelIndicator s _ e
  | touchStartTires e =>
    simp only [step, Page.onTouchStartTires]
    split <;> rfl
  | touchEndTires e =>
    simp only [step, Page.onTouchEndTires]
    repeat' split
    all_goals rfl
  | clickTires e => rfl
  | touchStartLapsOfFuel e => exact absurd trivial h
  | touchEndLapsOfFuel e => exact absurd trivial h
  | clickLapsOfFuel e => exact Page.touchSide_handleOnClick s _ _ _
  | clickFastRepair => rfl
  | clickWindshield => rfl
  | applyFlashInterval =>
    simp only [step, Page.applyFlashIntervalCallback]
    repeat' split
    all_goals rfl
  | fuelImageFlashInterval =>
    simp only [step, Page.fuelImageFlashIntervalCallback]
    repeat' split
    all_goals rfl

theorem touchSide_run (canvases : Canvases K) (s : Page K) (es : List (Event K))
    (h : ∀ e ∈ es, ¬ IsLapsOfFuelTouch e) : (run (step canvases) s es).touchSide = s.touchSide := by
  have hstep : ∀ (t : Page K) (e : Event K), ¬ IsLapsOfFuelTouch e → t.touchSide = s.touchSide →
      (step canvases t e).touchSide = s.touchSide :=
    fun t e he ht => (touchSide_step canvases t e he).trans ht
  exact run_invariant_of_forall hstep h rfl

/-! ## A press -/

/-- Where the canvas is in the page, and how far the page is scrolled. -/
structure View (K : Type*) where
  left : K
  top : K
  scrollLeft : K
  scrollTop : K

namespace View

/-- `irPitCrew_getOffset`, of the canvas: its place in the window and the scroll offset, which add up to
its place in the page, with `Math.round`. -/
def getOffset (v : View K) : Offset := ⟨⌊v.left + 1 / 2⌋, ⌊v.top + 1 / 2⌋⟩

/-- A click at a point of the canvas. -/
def click (v : View K) (x y : K) : Click K := ⟨x + v.left, y + v.top, v.getOffset⟩

/-- A finger at a point of the canvas: its place in the window, without a fraction. -/
def touch (v : View K) (x y : K) : Touch where
  clientX := truncate (x + v.left - v.scrollLeft)
  clientY := truncate (y + v.top - v.scrollTop)
  boundingRect := v.getOffset

section

variable [IsStrictOrderedRing K]

theorem truncate_intCast (n : ℤ) : truncate (n : K) = n := by
  unfold truncate
  split <;> simp

theorem floor_intCast_add_half (n : ℤ) : ⌊(n : K) + 1 / 2⌋ = n := by
  rw [Int.floor_intCast_add, Int.floor_eq_zero_iff.mpr ⟨by norm_num, by norm_num⟩, add_zero]

variable {v : View K} {left top scrollLeft scrollTop : ℤ}

/-- On a canvas at a whole pixel a click is looked up where it is. -/
theorem point_click (hleft : v.left = left) (htop : v.top = top) (x y : K) :
    (v.click x y).point = (x, y) := by
  simp only [click, getOffset, Click.point, hleft, htop, floor_intCast_add_half, add_sub_cancel_right]

/-- There a tap is looked up off by what the page is scrolled. -/
theorem point_touch (hleft : v.left = left) (htop : v.top = top) (hscrollLeft : v.scrollLeft = scrollLeft)
    (hscrollTop : v.scrollTop = scrollTop) (x y : ℤ) :
    (v.touch x y).point = ((x : K) - v.scrollLeft, (y : K) - v.scrollTop) := by
  have hX : truncate ((x : K) + left - scrollLeft) = x + left - scrollLeft := by
    exact_mod_cast truncate_intCast (K := K) (x + left - scrollLeft)
  have hY : truncate ((y : K) + top - scrollTop) = y + top - scrollTop := by
    exact_mod_cast truncate_intCast (K := K) (y + top - scrollTop)
  simp only [touch, getOffset, Touch.point, hleft, htop, hscrollLeft, hscrollTop,
    floor_intCast_add_half, hX, hY]
  push_cast
  rw [add_sub_right_comm, add_sub_right_comm (y : K), add_sub_cancel_right, add_sub_cancel_right]

end

end View

/-- A click at the point `(x, y)` of the canvas, or a touch that starts there and ends near it. `point`
is the one the handler of the buttons gets, and the first page the one that takes the press. The handlers
keep the page from scrolling during a touch. -/
inductive Pressed (canvases : Canvases K) (v : View K) (x y : K) :
    Option (K × K) → Page K → Page K → Prop
  | click (s : Page K) :
      Pressed canvases v x y (some (v.click x y).point) s
        (step canvases s (.clickLapsOfFuel (v.click x y)))
  | tap (s : Page K) (x' y' : K) (es : List (Event K)) (hes : ∀ d ∈ es, ¬ IsLapsOfFuelTouch d)
      (hx : |(v.touch x' y').clientX - (v.touch x y).clientX| < 20)
      (hy : |(v.touch x' y').clientY - (v.touch x y).clientY| < 20) :
      Pressed canvases v x y
        (s.tapPoint (calculateLapsOfFuelOffsets canvases.lapsOfFuel) (v.touch x y) (v.touch x' y'))
        (run (step canvases) s (.touchStartLapsOfFuel (v.touch x y) :: es))
        (step canvases (run (step canvases) s (.touchStartLapsOfFuel (v.touch x y) :: es))
          (.touchEndLapsOfFuel (v.touch x' y')))

theorem Pressed.handled {canvases : Canvases K} {v : View K} {x y : K} {point : Option (K × K)}
    {s s' : Page K} (h : Pressed canvases v x y point s s') :
    s' = { s.handleAt (calculateLapsOfFuelOffsets canvases.lapsOfFuel) point with
      lapsOfFuelState := s'.lapsOfFuelState } := by
  cases h with
  | click s => rfl
  | tap s x' y' es hes hx hy =>
    have hside := touchSide_run canvases (step canvases s (.touchStartLapsOfFuel (v.touch x y))) es hes
    rw [run_cons]
    set t := run (step canvases) (step canvases s (.touchStartLapsOfFuel (v.touch x y))) es
    have hpoint : t.endPoint (v.touch x' y') = s.tapPoint _ (v.touch x y) (v.touch x' y') :=
      (Page.endPoint_congr hside _).trans (Page.tapPoint_eq s _ _ _ rfl hx hy)
    rw [← hpoint]
    simp only [step, Page.onTouchEnd_eq]
    rfl

/-! ## What the buttons do -/

namespace Page

variable (s : Page K) (c : LapsOfFuelLayout K)

omit [FloorRing K] in
theorem handleAt_eq (point : Option (K × K)) :
    s.handleAt c point =
      if c.isAutoAt point then { s with lapsOfFuelCoords.autoButtonState := !s.lapsOfFuelCoords.autoButtonState }
      else if c.isApplyAt point then s.onSendButton
      else s := by
  cases point <;> rfl

omit [FloorRing K] in
theorem autoButtonState_onSendButton :
    s.onSendButton.lapsOfFuelCoords.autoButtonState = s.lapsOfFuelCoords.autoButtonState := by
  unfold onSendButton setOnPitRoadState
  repeat' split
  all_goals rfl

omit [FloorRing K] in
theorem onSendButton_off_track (h : s.serverData.isOnTrack.bool = false) : s.onSendButton = s := by
  simp [onSendButton, h]

omit [FloorRing K] in
theorem sent_onSendButton_ne (h : s.serverData.isOnTrack.bool = true) : s.onSendButton.sent ≠ s.sent := by
  have hsent : s.setOnPitRoadState.sent = s.sent := by
    unfold setOnPitRoadState
    split <;> rfl
  rw [onSendButton, if_pos h, sendPitSettings, hsent]
  simp

end Page

/-- The press ran `irPitCrew_onSendButton`, and nothing else. -/
def RanSend (s s' : Page K) : Prop := s' = { s.onSendButton with lapsOfFuelState := s'.lapsOfFuelState }

section

variable {canvases : Canvases K} {v : View K} {x y : K} {point : Option (K × K)} {s s' : Page K}
  (h : Pressed canvases v x y point s s')

include h

theorem Pressed.toggles (hauto : (calculateLapsOfFuelOffsets canvases.lapsOfFuel).isAutoAt point = true) :
    s'.lapsOfFuelCoords.autoButtonState = !s.lapsOfFuelCoords.autoButtonState ∧ s'.sent = s.sent := by
  rw [h.handled, Page.handleAt_eq, if_pos hauto]
  exact ⟨rfl, rfl⟩

theorem Pressed.keeps (hauto : (calculateLapsOfFuelOffsets canvases.lapsOfFuel).isAutoAt point = false) :
    s'.lapsOfFuelCoords.autoButtonState = s.lapsOfFuelCoords.autoButtonState := by
  rw [h.handled, Page.handleAt_eq, if_neg (by simp [hauto])]
  split
  · exact s.autoButtonState_onSendButton
  · rfl

theorem Pressed.sends (hauto : (calculateLapsOfFuelOffsets canvases.lapsOfFuel).isAutoAt point = false)
    (happly : (calculateLapsOfFuelOffsets canvases.lapsOfFuel).isApplyAt point = true) : RanSend s s' := by
  have hran := h.handled
  rwa [Page.handleAt_eq, if_neg (by simp [hauto]), if_pos happly] at hran

theorem Pressed.misses (hauto : (calculateLapsOfFuelOffsets canvases.lapsOfFuel).isAutoAt point = false)
    (happly : (calculateLapsOfFuelOffsets canvases.lapsOfFuel).isApplyAt point = false) :
    s' = { s with lapsOfFuelState := s'.lapsOfFuelState } := by
  have hran := h.handled
  rwa [Page.handleAt_eq, if_neg (by simp [hauto]), if_neg (by simp [happly])] at hran

/-- Off the track `irPitCrew_onSendButton` does nothing, and a press on no button looks the same. -/
theorem Pressed.ranSend_iff
    (hauto : (calculateLapsOfFuelOffsets canvases.lapsOfFuel).isAutoAt point = false) :
    RanSend s s' ↔ (s.serverData.isOnTrack.bool = true →
      (calculateLapsOfFuelOffsets canvases.lapsOfFuel).isApplyAt point = true) := by
  constructor
  · intro hran htrack
    by_contra happly
    rw [Bool.not_eq_true] at happly
    have hsent : s'.sent = s.sent := by rw [h.misses hauto happly]
    rw [RanSend] at hran
    rw [hran] at hsent
    exact s.sent_onSendButton_ne htrack hsent
  · intro hcond
    by_cases happly : (calculateLapsOfFuelOffsets canvases.lapsOfFuel).isApplyAt point = true
    · exact h.sends hauto happly
    · have htrack : s.serverData.isOnTrack.bool = false := by
        rw [Bool.eq_false_iff]
        exact fun htrack => happly (hcond htrack)
      rw [RanSend, s.onSendButton_off_track htrack]
      exact h.misses hauto (Bool.eq_false_iff.mpr happly)

end

/-- **Apply and Auto.** A press on Apply sends exactly when the point that is looked up is not in the
area of Auto, and on the track in that of Apply. A press on Auto switches Auto and sends nothing exactly
when the point is in the area of Auto. -/
theorem pressed_buttons_iff {canvases : Canvases K} {v : View K} {x y : K} {point : Option (K × K)}
    {s s' : Page K} (h : Pressed canvases v x y point s s') :
    ((calculateLapsOfFuelOffsets canvases.lapsOfFuel).isInApply x y = true →
      (RanSend s s' ∧ s'.lapsOfFuelCoords.autoButtonState = s.lapsOfFuelCoords.autoButtonState ↔
        (calculateLapsOfFuelOffsets canvases.lapsOfFuel).isAutoAt point = false ∧
          (s.serverData.isOnTrack.bool = true →
            (calculateLapsOfFuelOffsets canvases.lapsOfFuel).isApplyAt point = true))) ∧
    ((calculateLapsOfFuelOffsets canvases.lapsOfFuel).isInAuto x y = true →
      (s'.lapsOfFuelCoords.autoButtonState = !s.lapsOfFuelCoords.autoButtonState ∧ s'.sent = s.sent ↔
        (calculateLapsOfFuelOffsets canvases.lapsOfFuel).isAutoAt point = true)) := by
  refine ⟨fun _ => ⟨?_, ?_⟩, fun _ => ⟨?_, h.toggles⟩⟩
  · rintro ⟨hran, hsame⟩
    have hauto : (calculateLapsOfFuelOffsets canvases.lapsOfFuel).isAutoAt point = false := by
      rw [Bool.eq_false_iff]
      intro hauto
      exact (Bool.eq_not_self _).mp (hsame.symm.trans (h.toggles hauto).1)
    exact ⟨hauto, (h.ranSend_iff hauto).mp hran⟩
  · rintro ⟨hauto, happly⟩
    exact ⟨(h.ranSend_iff hauto).mpr happly, h.keeps hauto⟩
  · rintro ⟨htoggled, -⟩
    by_contra hauto
    exact (Bool.eq_not_self _).mp ((h.keeps (Bool.eq_false_iff.mpr hauto)).symm.trans htoggled)

omit [FloorRing K] in
/-- Where the point looked up is the one pressed, only the last ten pixels of Apply are not its own. -/
theorem areas_of_point [IsStrictOrderedRing K] (canvas : Canvas K) (x y : K) :
    ((calculateLapsOfFuelOffsets canvas).isInApply x y = true →
      (calculateLapsOfFuelOffsets canvas).isApplyAt (some (x, y)) = true ∧
        ((calculateLapsOfFuelOffsets canvas).isAutoAt (some (x, y)) = true ↔
          (calculateLapsOfFuelOffsets canvas).applyButtonX +
            (calculateLapsOfFuelOffsets canvas).applyButtonWidth - 10 < x)) ∧
    ((calculateLapsOfFuelOffsets canvas).isInAuto x y = true →
      (calculateLapsOfFuelOffsets canvas).isAutoAt (some (x, y)) = true) :=
  ⟨fun h => ⟨isApplyClicked_of_isInApply canvas h, isAutoClicked_iff_of_isInApply canvas h⟩,
    isAutoClicked_of_isInAuto canvas⟩

/-! ## A canvas of 500 pixels -/

def canvases500 : Canvases ℚ where
  fuel := ⟨500, 400⟩
  tires := ⟨500, 400⟩
  lapsOfFuel := ⟨500, 400⟩

def onTrackPage : Page ℚ := { serverData := { isOnTrack := { bool := true } } }

/-- The canvas at `(20, 80)` in a page scrolled down by `scrollTop`. -/
def scrolledView (scrollTop : ℚ) : View ℚ := ⟨20, 80, 0, scrollTop⟩

theorem pressed_buttons_left :
    RanSend onTrackPage (step canvases500 onTrackPage (.clickLapsOfFuel ((scrolledView 0).click 100 350))) ∧
      (step canvases500 onTrackPage
        (.clickLapsOfFuel ((scrolledView 0).click 100 350))).lapsOfFuelCoords.autoButtonState =
        onTrackPage.lapsOfFuelCoords.autoButtonState :=
  ((pressed_buttons_iff (.click onTrackPage)).1 (by decide +kernel)).mpr
    ⟨by decide +kernel, fun _ => by decide +kernel⟩

/-- A click six pixels from the right side of Apply, and a tap in the middle of Auto with the page
scrolled by 100 pixels. -/
theorem apply_edge_switches_auto :
    ((calculateLapsOfFuelOffsets canvases500.lapsOfFuel).isInApply 255 350 = true ∧
      ∃ point s', Pressed canvases500 (scrolledView 0) 255 350 point onTrackPage s' ∧
        s'.lapsOfFuelCoords.autoButtonState = !onTrackPage.lapsOfFuelCoords.autoButtonState ∧
        s'.sent = []) ∧
    ((calculateLapsOfFuelOffsets canvases500.lapsOfFuel).isInAuto 375 350 = true ∧
      ∃ point s s', Pressed canvases500 (scrolledView 100) 375 350 point s s' ∧
        s.lapsOfFuelCoords.autoButtonState = true ∧ s'.lapsOfFuelCoords.autoButtonState = true) := by
  refine ⟨⟨by decide +kernel, _, _, .click onTrackPage, by decide +kernel, by decide +kernel⟩,
    by decide +kernel, _, _, _,
    .tap onTrackPage 375 350 [] (by simp) ?_ ?_, ?_, ?_⟩ <;> decide +kernel

end IrPitCrew.Client
