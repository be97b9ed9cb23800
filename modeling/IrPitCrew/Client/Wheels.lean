import IrPitCrew.Client.Frame
import Mathlib.Data.Finset.SymmDiff
import Mathlib.Data.Fintype.Basic
import Mathlib.Data.Rat.Floor

/-!
# The wheels as a set

The page keeps four flags and a marker. To the driver there is a set of wheels to
change, and three gestures.
-/

open IrPitCrew.Text IrPitCrew.Run

namespace IrPitCrew.Client

variable {K : Type*} [Field K] [LinearOrder K]

/-! ## Wheels and gestures -/

inductive Wheel where
  | leftFront
  | rightFront
  | leftRear
  | rightRear
  deriving DecidableEq

instance : Fintype Wheel where
  elems := {.leftFront, .rightFront, .leftRear, .rightRear}
  complete wheel := by cases wheel <;> decide

def Tires.isOn (t : Tires) : Wheel → Bool
  | .leftFront => t.leftFront
  | .rightFront => t.rightFront
  | .leftRear => t.leftRear
  | .rightRear => t.rightRear

def Tires.wheels (t : Tires) : Finset Wheel := Finset.univ.filter (t.isOn ·)

inductive Gesture where
  | tap (wheel : Wheel)
  | tapMarker
  | swipe (wheels : Finset Wheel)

/-- A tap switches one wheel, the marker clears what is set or sets all, and a swipe is the new set. -/
def Gesture.apply (wheels : Finset Wheel) : Gesture → Finset Wheel
  | .tap wheel => symmDiff wheels {wheel}
  | .tapMarker => if wheels.Nonempty then ∅ else Finset.univ
  | .swipe side => side

/-! ## What a place means -/

namespace TiresLayout

/-- The area of a wheel. -/
def isInArea (c : TiresLayout K) (x y : K) : Wheel → Bool
  | .leftFront => c.isXyInTireArea x y c.leftFrontX c.leftFrontY
  | .rightFront => c.isXyInTireArea x y c.rightFrontX c.rightFrontY
  | .leftRear => c.isXyInTireArea x y c.leftRearX c.leftRearY
  | .rightRear => c.isXyInTireArea x y c.rightRearX c.rightRearY

def isInMarker (c : TiresLayout K) (x y : K) : Bool := c.isXyInMarkerArea x y c.centerX c.centerY

def gestureAt (c : TiresLayout K) (x y : K) : Option Gesture :=
  match [Wheel.leftFront, .rightFront, .leftRear, .rightRear].find? (c.isInArea x y) with
  | some wheel => some (.tap wheel)
  | none => if c.isInMarker x y then some .tapMarker else none

end TiresLayout

/-- The wheels of the side that a long way points to. -/
def swipedSide (distX distY : ℤ) : Finset Wheel :=
  if |distX| > |distY| then
    if distX > 0 then {.rightFront, .rightRear} else {.leftFront, .leftRear}
  else
    if distY > 0 then {.leftRear, .rightRear} else {.leftFront, .rightFront}

/-! ## The machine -/

/-- Where the finger came down, if it is down, and the wheels to change. -/
structure WheelsState where
  finger : Option (ℤ × ℤ) := none
  wheels : Finset Wheel := ∅

/-- A touch that starts among the wheels. -/
def TiresLayout.isXyInTires (c : TiresLayout K) (xPos yPos : K) : Bool :=
  xPos ≥ c.tiresLeft - c.tireWidth / 2 ∧ xPos ≤ c.tiresRight + c.tireWidth / 2 ∧
    yPos ≥ c.tiresTop - c.tireHeight / 2 ∧ yPos ≤ c.tiresBottom + c.tireHeight / 2

namespace WheelsState

/-- The gesture that ends with an event. -/
def gesture (c : TiresLayout K) (w : WheelsState) : Event K → Option Gesture
  | .touchEndTires e => w.finger.bind fun start =>
    let distX := e.clientX - start.1
    let distY := e.clientY - start.2
    if isTap distX distY 20 then
      c.gestureAt (start.1 - e.boundingRect.left : ℤ) (start.2 - e.boundingRect.top : ℤ)
    else if |distX| > 50 ∨ |distY| > 50 then some (.swipe (swipedSide distX distY))
    else none
  | .clickTires e => c.gestureAt (e.pageX - e.boundingRect.left) (e.pageY - e.boundingRect.top)
  | _ => none

def fingerAfter (c : TiresLayout K) (w : WheelsState) : Event K → Option (ℤ × ℤ)
  | .touchStartTires e =>
    if c.isXyInTires (e.clientX - e.boundingRect.left : ℤ) (e.clientY - e.boundingRect.top : ℤ) then
      some (e.clientX, e.clientY)
    else w.finger
  | .touchEndTires _ => none
  | _ => w.finger

def step (c : TiresLayout K) (w : WheelsState) (e : Event K) : WheelsState where
  finger := w.fingerAfter c e
  wheels := ((w.gesture c e).map (Gesture.apply w.wheels)).getD w.wheels

end WheelsState

/-! ## The page as the machine -/

def TireState.finger (t : TireState) : Option (ℤ × ℤ) :=
  if t.isTouchDown then some (t.touchStartX, t.touchStartY) else none

/-- The page has the wheels and the finger, and the marker is lit for any wheel. -/
structure TireState.Shows (t : TireState) (w : WheelsState) : Prop where
  finger : t.finger = w.finger
  wheels : t.toTires.wheels = w.wheels
  center : t.center = t.toTires.any

@[simp] theorem mem_wheels {t : Tires} {wheel : Wheel} : wheel ∈ t.wheels ↔ t.isOn wheel = true := by
  simp [Tires.wheels]

theorem any_iff (t : Tires) : t.any = true ↔ t.wheels.Nonempty := by
  constructor
  · intro h
    simp only [Tires.any, Bool.or_eq_true] at h
    obtain ((h | h) | h) | h := h
    · exact ⟨.leftFront, mem_wheels.mpr h⟩
    · exact ⟨.rightFront, mem_wheels.mpr h⟩
    · exact ⟨.leftRear, mem_wheels.mpr h⟩
    · exact ⟨.rightRear, mem_wheels.mpr h⟩
  · rintro ⟨wheel, hwheel⟩
    rw [mem_wheels] at hwheel
    cases wheel <;> simp_all [Tires.any, Tires.isOn]

theorem wheels_swipe (distX distY : ℤ) : (swipe distX distY).wheels = swipedSide distX distY := by
  unfold swipe swipedSide
  split
  · split <;> rfl
  · split <;> rfl

theorem any_swipe (distX distY : ℤ) : (swipe distX distY).any = true := by
  unfold swipe
  split
  · split <;> rfl
  · split <;> rfl

/-! ## The areas -/

section

variable [IsStrictOrderedRing K]

/-- No two areas meet. -/
structure TiresLayout.Apart (c : TiresLayout K) : Prop where
  wheel {x y : K} {v w : Wheel} (hv : c.isInArea x y v = true) (hw : c.isInArea x y w = true) : v = w
  marker {x y : K} {w : Wheel} (hw : c.isInArea x y w = true) : c.isInMarker x y = false

theorem apart_calculateTiresOffsets {canvas : Canvas K} (h : 1180 / 3 ≤ canvas.height) :
    (calculateTiresOffsets canvas).Apart where
  wheel {x y v w} hv hw := by
    cases v <;> cases w <;>
      simp [TiresLayout.isInArea, TiresLayout.isXyInTireArea, calculateTiresOffsets] at hv hw ⊢ <;>
      linarith
  marker {x y w} hw := by
    rw [← Bool.not_eq_true]
    intro hmarker
    cases w <;>
      simp [TiresLayout.isInArea, TiresLayout.isInMarker, TiresLayout.isXyInTireArea,
        TiresLayout.isXyInMarkerArea, calculateTiresOffsets] at hw hmarker <;>
      linarith

omit [IsStrictOrderedRing K] in
theorem find?_isInArea {c : TiresLayout K} (hc : c.Apart) {x y : K} {wheel : Wheel}
    (h : c.isInArea x y wheel = true) :
    [Wheel.leftFront, .rightFront, .leftRear, .rightRear].find? (c.isInArea x y) = some wheel := by
  have hmem : wheel ∈ [Wheel.leftFront, .rightFront, .leftRear, .rightRear] := by
    cases wheel <;> decide
  obtain ⟨found, hfound⟩ := Option.isSome_iff_exists.mp (List.find?_isSome.mpr ⟨wheel, hmem, h⟩)
  rw [hfound, hc.wheel (List.find?_some hfound) h]

end

/-! ## One click -/

omit [Field K] [LinearOrder K] in
theorem wheels_xor (t : Tires) (wheel : Wheel) :
    Tires.wheels
      { leftFront := t.leftFront ^^ decide (wheel = .leftFront)
        rightFront := t.rightFront ^^ decide (wheel = .rightFront)
        leftRear := t.leftRear ^^ decide (wheel = .leftRear)
        rightRear := t.rightRear ^^ decide (wheel = .rightRear) } =
      symmDiff t.wheels {wheel} := by
  ext other
  rw [mem_wheels, Finset.mem_symmDiff, mem_wheels, Finset.mem_singleton]
  cases wheel <;> cases other <;> simp [Tires.isOn]

/-- What a click does to the wheels, and to the marker. -/
theorem wheels_handleOnClick {c : TiresLayout K} (hc : c.Apart) {t : TireState}
    (ht : t.center = t.toTires.any) (x y : K) :
    (t.handleOnClick c x y).toTires.wheels =
        ((c.gestureAt x y).map (Gesture.apply t.toTires.wheels)).getD t.toTires.wheels ∧
      (t.handleOnClick c x y).center = (t.handleOnClick c x y).toTires.any ∧
      (t.handleOnClick c x y).finger = t.finger := by
  have hat (wheel : Wheel) (h : c.isInArea x y wheel = true) (other : Wheel) :
      c.isInArea x y other = decide (wheel = other) := by
    rw [Bool.eq_iff_iff, decide_eq_true_iff]
    exact ⟨hc.wheel h, fun heq => heq ▸ h⟩
  have hareas : t.handleOnClick c x y =
      let tires : Tires :=
        if c.isInMarker x y then
          { leftFront := !t.center, rightFront := !t.center, leftRear := !t.center, rightRear := !t.center }
        else
          { leftFront := t.leftFront ^^ c.isInArea x y .leftFront
            rightFront := t.rightFront ^^ c.isInArea x y .rightFront
            leftRear := t.leftRear ^^ c.isInArea x y .leftRear
            rightRear := t.rightRear ^^ c.isInArea x y .rightRear }
      if c.isInArea x y .leftFront || c.isInArea x y .rightFront || c.isInArea x y .leftRear ||
          c.isInArea x y .rightRear || c.isInMarker x y then
        { t with toTires := tires, center := tires.any }
      else t := rfl
  rw [hareas]
  by_cases hwheel : ∃ wheel, c.isInArea x y wheel = true
  · obtain ⟨wheel, hwheel⟩ := hwheel
    have hsome : (c.isInArea x y .leftFront || c.isInArea x y .rightFront || c.isInArea x y .leftRear ||
        c.isInArea x y .rightRear || c.isInMarker x y) = true := by
      cases wheel <;> simp [hwheel]
    rw [TiresLayout.gestureAt, find?_isInArea hc hwheel, hc.marker hwheel]
    rw [hc.marker hwheel] at hsome
    dsimp only
    rw [if_pos hsome, if_neg (by simp)]
    refine ⟨?_, rfl, rfl⟩
    rw [hat wheel hwheel, hat wheel hwheel, hat wheel hwheel, hat wheel hwheel]
    exact wheels_xor t.toTires wheel
  · have hnone (wheel : Wheel) : c.isInArea x y wheel = false := by
      rw [← Bool.not_eq_true]
      exact fun h => hwheel ⟨wheel, h⟩
    have hfind : [Wheel.leftFront, .rightFront, .leftRear, .rightRear].find? (c.isInArea x y) = none :=
      List.find?_eq_none.mpr fun wheel _ => by simp [hnone]
    rw [TiresLayout.gestureAt, hfind]
    dsimp only
    cases hmarker : c.isInMarker x y with
    | false =>
      rw [if_neg (by simp [hnone]), if_neg (by simp)]
      exact ⟨rfl, ht, rfl⟩
    | true =>
      rw [if_pos (by simp), if_pos rfl, if_pos rfl]
      refine ⟨?_, rfl, rfl⟩
      ext other
      simp only [Option.map_some, Option.getD_some, Gesture.apply, mem_wheels]
      rw [ht]
      split
      · rename_i h
        rw [(any_iff _).mpr h]
        cases other <;> simp [Tires.isOn]
      · rename_i h
        rw [Bool.not_eq_true _ |>.mp (mt (any_iff _).mp h)]
        cases other <;> simp [Tires.isOn]

/-- An unlit marker sets all wheels. -/
theorem isOn_handleOnClick_marker {c : TiresLayout K} {t : TireState} {x y : K}
    (ht : t.center = false) (h : c.isInMarker x y = true) (wheel : Wheel) :
    (t.handleOnClick c x y).toTires.isOn wheel = true := by
  unfold TiresLayout.isInMarker at h
  unfold TireState.handleOnClick
  dsimp only
  rw [h, if_pos (by simp), if_pos rfl, ht]
  cases wheel <;> rfl

/-! ## Touches and clicks -/

section

variable {c : TiresLayout K} {s : Page K} {w : WheelsState}

theorem shows_onTouchStartTires (h : s.tireState.Shows w) (e : Touch) :
    (s.onTouchStartTires c e).tireState.Shows (w.step c (.touchStartTires e)) := by
  have hfinger : w.fingerAfter c (.touchStartTires e) =
      if c.isXyInTires (e.clientX - e.boundingRect.left : ℤ) (e.clientY - e.boundingRect.top : ℤ) then
        some (e.clientX, e.clientY)
      else w.finger := rfl
  simp only [TiresLayout.isXyInTires, decide_eq_true_eq] at hfinger
  unfold Page.onTouchStartTires
  dsimp only
  split
  · rename_i hin
    rw [if_pos hin] at hfinger
    exact ⟨hfinger.symm, h.wheels, h.center⟩
  · rename_i hout
    rw [if_neg hout] at hfinger
    exact ⟨h.finger.trans hfinger.symm, h.wheels, h.center⟩

theorem shows_clickTires (hc : c.Apart) (h : s.tireState.Shows w) (e : Click K) :
    (s.onClickTiresIndicator c e).tireState.Shows (w.step c (.clickTires e)) := by
  obtain ⟨hwheels, hcenter, hfinger⟩ := wheels_handleOnClick hc h.center
    (e.pageX - e.boundingRect.left) (e.pageY - e.boundingRect.top)
  rw [h.wheels] at hwheels
  exact ⟨hfinger.trans h.finger, hwheels, hcenter⟩

theorem shows_onTouchEndTires (hc : c.Apart) (h : s.tireState.Shows w) (e : Touch) :
    (s.onTouchEndTires c e).tireState.Shows (w.step c (.touchEndTires e)) := by
  have hdown := h.finger
  unfold TireState.finger at hdown
  unfold Page.onTouchEndTires
  split at hdown
  · rename_i hfinger
    rw [if_pos hfinger]
    dsimp only
    have hgesture : w.gesture c (.touchEndTires e) =
        if isTap (e.clientX - s.tireState.touchStartX) (e.clientY - s.tireState.touchStartY) 20 then
          c.gestureAt (s.tireState.touchStartX - e.boundingRect.left : ℤ)
            (s.tireState.touchStartY - e.boundingRect.top : ℤ)
        else if |e.clientX - s.tireState.touchStartX| > 50 ∨
            |e.clientY - s.tireState.touchStartY| > 50 then
          some (.swipe (swipedSide (e.clientX - s.tireState.touchStartX)
            (e.clientY - s.tireState.touchStartY)))
        else none := by
      unfold WheelsState.gesture
      rw [← hdown]
      rfl
    split
    · rename_i htap
      rw [if_pos htap] at hgesture
      obtain ⟨hwheels, hcenter, -⟩ := wheels_handleOnClick hc h.center
        (s.tireState.touchStartX - e.boundingRect.left : ℤ) (s.tireState.touchStartY - e.boundingRect.top : ℤ)
      refine ⟨rfl, ?_, hcenter⟩
      rw [WheelsState.step, hgesture, ← h.wheels]
      exact hwheels
    · rename_i htap
      rw [if_neg htap] at hgesture
      split
      · rename_i hlong
        rw [if_pos hlong] at hgesture
        refine ⟨rfl, ?_, (any_swipe _ _).symm⟩
        rw [WheelsState.step, hgesture]
        exact wheels_swipe _ _
      · rename_i hshort
        rw [if_neg hshort] at hgesture
        refine ⟨rfl, ?_, h.center⟩
        rw [WheelsState.step, hgesture]
        exact h.wheels
  · rename_i hfinger
    rw [if_neg hfinger]
    have hgesture : w.gesture c (.touchEndTires e) = none := by
      unfold WheelsState.gesture
      rw [← hdown]
      rfl
    refine ⟨h.finger.trans hdown.symm, ?_, h.center⟩
    rw [WheelsState.step, hgesture]
    exact h.wheels

end

/-! ## What leaves the wheels alone -/

def IsTiresEvent : Event K → Prop
  | .touchStartTires _ | .touchEndTires _ | .clickTires _ => True
  | _ => False

namespace Page

omit [LinearOrder K] in
theorem isOutsideGauge_tireState : IsOutsideGauge (fun s : Page K => s.tireState) :=
  ⟨fun _ _ _ _ => rfl, fun _ => rfl⟩

theorem tireState_onSendButton (s : Page K) : s.onSendButton.tireState = s.tireState := by
  unfold onSendButton setOnPitRoadState
  split
  · split <;> rfl
  · rfl

theorem tireState_lapsOfFuelUpdateIndicator (s : Page K) (isForcedUpdate : Bool) :
    (s.lapsOfFuelUpdateIndicator isForcedUpdate).tireState = s.tireState := by
  unfold lapsOfFuelUpdateIndicator updateFuelImage
  dsimp only
  repeat' split
  all_goals rfl

theorem tireState_handleOnClickLapsOfFuelIndicatorEvent (s : Page K) (c : LapsOfFuelLayout K)
    (xPos yPos : K) :
    (s.handleOnClickLapsOfFuelIndicatorEvent c xPos yPos).tireState = s.tireState := by
  unfold handleOnClickLapsOfFuelIndicatorEvent
  split
  · rfl
  · split
    · exact s.tireState_onSendButton
    · rfl

theorem tireState_settleMessage [FloorRing K] (s : Page K) : s.settleMessage.tireState = s.tireState := by
  unfold settleMessage setOffPitRoadState updatePitRoadAppliedState
  dsimp only
  split
  · rfl
  · split <;> rfl

variable [FloorRing K]

theorem tireState_receiveMessage (s : Page K) (messageData : Str) :
    (s.receiveMessage messageData).2.tireState = s.tireState := by
  change (lapsOfFuelUpdateIndicator (updateDependentData _) false).tireState = s.tireState
  rw [tireState_lapsOfFuelUpdateIndicator]
  exact isOutsideGauge_tireState.updateDependentData _

theorem tireState_onWebSocketMessage (s : Page K) (messageData : Str) :
    (s.onWebSocketMessage messageData).tireState = s.tireState := by
  unfold onWebSocketMessage
  split
  · rfl
  · dsimp only
    rw [tireState_settleMessage]
    split
    · rw [tireState_onSendButton, tireState_receiveMessage]
    · exact s.tireState_receiveMessage messageData

end Page

variable [FloorRing K]

theorem tireState_step (canvases : Canvases K) (s : Page K) (e : Event K) (h : ¬ IsTiresEvent e) :
    (step canvases s e).tireState = s.tireState := by
  have hgauge := Page.isOutsideGauge_tireState (K := K)
  cases e with
  | message data => exact s.tireState_onWebSocketMessage data
  | touchStartFuel e => exact hgauge.onTouchStartFuel s _ e
  | touchMoveFuel e => exact hgauge.onTouchMoveFuel s _ e
  | touchEndFuel e => exact hgauge.onTouchEndFuel s _ e
  | clickFuel e => exact hgauge.onClickFuelIndicator s _ e
  | touchStartLapsOfFuel e =>
    simp only [step, Page.onTouchStartLapsOfFuel]
    split <;> rfl
  | touchEndLapsOfFuel e =>
    simp only [step, Page.onTouchEndLapsOfFuel, Page.clearLapsOfFuelTouch]
    split
    · apply Page.tireState_handleOnClickLapsOfFuelIndicatorEvent
    · rfl
  | clickLapsOfFuel e => apply Page.tireState_handleOnClickLapsOfFuelIndicatorEvent
  | clickFastRepair | clickWindshield => rfl
  | applyFlashInterval =>
    simp only [step, Page.applyFlashIntervalCallback]
    repeat' split
    all_goals rfl
  | fuelImageFlashInterval =>
    simp only [step, Page.fuelImageFlashIntervalCallback]
    repeat' split
    all_goals rfl
  | touchStartTires | touchEndTires | clickTires => exact absurd trivial h

/-! ## Page and machine in step -/

theorem shows_step (canvases : Canvases K) (hc : (calculateTiresOffsets canvases.tires).Apart)
    (s : Page K) (w : WheelsState) (e : Event K) (h : s.tireState.Shows w) :
    (step canvases s e).tireState.Shows (w.step (calculateTiresOffsets canvases.tires) e) := by
  cases e with
  | touchStartTires e => exact shows_onTouchStartTires h e
  | touchEndTires e => exact shows_onTouchEndTires hc h e
  | clickTires e => exact shows_clickTires hc h e
  | _ =>
    rw [tireState_step canvases s _ id]
    exact ⟨h.finger, h.wheels, h.center⟩

/-- A place in the area of a wheel, and in the one of the marker on a low canvas. -/
def lowPlace (canvas : Canvas K) : Click K := ⟨109, canvas.height / 4 + 145 / 3, ⟨0, 0⟩⟩

variable [IsStrictOrderedRing K]

/-- **The wheels.** In every run the wheels of the page are the set that the gestures make, exactly when
the canvas is high enough for the five areas. -/
theorem wheels_refine_iff (canvases : Canvases K) (hheight : 0 ≤ canvases.tires.height) :
    (∀ es : List (Event K), (run (step canvases) {} es).tireState.toTires.wheels =
      (run (WheelsState.step (calculateTiresOffsets canvases.tires)) {} es).wheels) ↔
      1180 / 3 ≤ canvases.tires.height := by
  constructor
  · intro h
    by_contra hlow
    rw [not_le] at hlow
    have hclick := h [.clickTires (lowPlace canvases.tires)]
    have hfront : (calculateTiresOffsets canvases.tires).isInArea
        ((lowPlace canvases.tires).pageX - (lowPlace canvases.tires).boundingRect.left)
        ((lowPlace canvases.tires).pageY - (lowPlace canvases.tires).boundingRect.top) .leftFront = true := by
      simp [TiresLayout.isInArea, TiresLayout.isXyInTireArea, calculateTiresOffsets, lowPlace]
      refine ⟨?_, ?_, ?_, ?_⟩ <;> linarith
    have hmarker : (calculateTiresOffsets canvases.tires).isInMarker
        ((lowPlace canvases.tires).pageX - (lowPlace canvases.tires).boundingRect.left)
        ((lowPlace canvases.tires).pageY - (lowPlace canvases.tires).boundingRect.top) = true := by
      simp [TiresLayout.isInMarker, TiresLayout.isXyInMarkerArea, calculateTiresOffsets, lowPlace]
      refine ⟨?_, ?_, ?_, ?_⟩ <;> linarith
    have hrear : Wheel.rightRear ∈
        (run (step canvases) {} [.clickTires (lowPlace canvases.tires)]).tireState.toTires.wheels := by
      rw [mem_wheels]
      exact isOn_handleOnClick_marker rfl hmarker .rightRear
    rw [hclick] at hrear
    have htap : (WheelsState.gesture (calculateTiresOffsets canvases.tires) {}
        (.clickTires (lowPlace canvases.tires))) = some (.tap .leftFront) := by
      rw [WheelsState.gesture, TiresLayout.gestureAt, List.find?_cons_of_pos hfront]
    rw [run_cons, run_nil, WheelsState.step, htap] at hrear
    have hother : Wheel.rightRear ∉ Gesture.apply ∅ (.tap .leftFront) := by decide
    exact hother hrear
  · intro h es
    have hstart : (TireState.Shows {} {}) := ⟨rfl, by decide, rfl⟩
    exact (run_simulates (shows_step canvases (apart_calculateTiresOffsets h)) es hstart).wheels

/-- The canvas of the page is 400 high. -/
def pageCanvases : Canvases ℚ := ⟨⟨400, 400⟩, ⟨400, 400⟩, ⟨400, 400⟩⟩

/-- A tap on a front wheel, a click on the marker, and a swipe down. -/
def tireGestures : List (Event ℚ) :=
  [.touchStartTires ⟨80, 80, ⟨0, 0⟩⟩, .touchEndTires ⟨82, 75, ⟨0, 0⟩⟩, .clickTires ⟨155, 200, ⟨0, 0⟩⟩,
    .touchStartTires ⟨150, 100, ⟨0, 0⟩⟩, .touchEndTires ⟨160, 300, ⟨0, 0⟩⟩]

theorem wheels_refine_gestures : (run (step pageCanvases) {} tireGestures).tireState.toTires.wheels =
    {.leftRear, .rightRear} :=
  ((wheels_refine_iff pageCanvases (by decide +kernel)).mpr (by decide +kernel) tireGestures).trans
    (by decide +kernel)

end IrPitCrew.Client
