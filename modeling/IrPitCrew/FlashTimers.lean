import IrPitCrew.Applied
import IrPitCrew.Lib.Timer

/-!
# The two flash timers

The Apply button and the fuel light flash by a callback that sets the next one.
Stopping them clears a flag, and the callback is still to come.
-/

open IrPitCrew.Text IrPitCrew.Run IrPitCrew.Client IrPitCrew.Applied

namespace IrPitCrew.FlashTimers

variable {K : Type*} [Field K]

/-! ## The timers of a page -/

def applyTimer (s : Page K) : Timer := ⟨s.lapsOfFuelCoords.applyButtonFlashing, s.applyFlashTimers⟩

def fuelImageTimer (s : Page K) : Timer :=
  ⟨s.lapsOfFuelCoords.fuelImageFlashing, s.fuelImageFlashTimers⟩

def timers (s : Page K) : Timer × Timer := (applyTimer s, fuelImageTimer s)

/-- The flag that `LapsOfFuelIndicator_SetOffPitRoadState` looks at is changed by messages only. -/
def isOnPitRoad (d : ServerData K) : Bool := d.isOnTrack.bool && d.onPitRoad.bool

variable [LinearOrder K]

/-- Fuel for one lap is left. -/
def isLowFuel (d : ServerData K) : Bool :=
  isEnoughFuel .lowOneLap d.fuelLevel.val d.fuelRequired.val d.lapsOfFuel.val ∧ d.lapsOfFuel.val > 0

variable [FloorRing K]

/-- What an event does to the timer of the Apply button. -/
def applyMove (canvases : Canvases K) (s : Page K) (e : Event K) : Timer.Move :=
  if (sendState canvases s e).isSome then .start
  else
    match e with
    | .message data =>
      if data = Page.heartbeat ∨ isOnPitRoad (s.serverData.receive .exact data) ∨
        s.lapsOfFuelState.isOffPitRoadState then .stay
      else .stop
    | .applyFlashInterval => .fire (s.lapsOfFuelCoords.applyButtonFlashCount + 1 ≥ 9)
    | _ => .stay

/-- What an event does to the timer of the fuel light. -/
def fuelImageMove (s : Page K) : Event K → Timer.Move
  | .message data =>
    let d := s.serverData.receive .exact data
    if data = Page.heartbeat ∨ !Page.isLapsOfFuelUpdated d then .stay
    else if isLowFuel d then .start
    else .stop
  | .fuelImageFlashInterval => .fire false
  | _ => .stay

/-! ## The events -/

omit [LinearOrder K] [FloorRing K] in
theorem isOutsideGauge_timers : Page.IsOutsideGauge (timers (K := K)) :=
  ⟨fun _ _ _ _ => rfl, fun _ => rfl⟩

def IsTimerEvent : Event K → Prop
  | .message _ | .touchEndLapsOfFuel _ | .clickLapsOfFuel _ | .applyFlashInterval
  | .fuelImageFlashInterval => True
  | _ => False

theorem timers_step (canvases : Canvases K) (s : Page K) (e : Event K) (h : ¬ IsTimerEvent e) :
    timers (step canvases s e) = timers s := by
  cases e with
  | touchStartFuel e => exact isOutsideGauge_timers.onTouchStartFuel s _ e
  | touchMoveFuel e => exact isOutsideGauge_timers.onTouchMoveFuel s _ e
  | touchEndFuel e => exact isOutsideGauge_timers.onTouchEndFuel s _ e
  | clickFuel e => exact isOutsideGauge_timers.onClickFuelIndicator s _ e
  | touchStartTires e =>
    simp only [step, Page.onTouchStartTires]
    split <;> rfl
  | touchEndTires e =>
    simp only [step, Page.onTouchEndTires]
    repeat' split
    all_goals rfl
  | clickTires e => rfl
  | touchStartLapsOfFuel e =>
    simp only [step, Page.onTouchStartLapsOfFuel]
    split <;> rfl
  | clickFastRepair => rfl
  | clickWindshield => rfl
  | _ => exact absurd trivial h

/-! ## The Apply button -/

omit [FloorRing K] in
theorem applyTimer_onSendButton (s : Page K) (h : s.serverData.isOnTrack.bool = true) :
    applyTimer s.onSendButton = (applyTimer s).move .start := by
  rw [Page.onSendButton, if_pos h, Page.setOnPitRoadState]
  cases hflash : s.lapsOfFuelCoords.applyButtonFlashing with
  | true => simp [applyTimer, Timer.move, Page.sendPitSettings, hflash]
  | false => simp [applyTimer, Timer.move, Page.sendPitSettings, Page.createFuelToAddString, hflash]

omit [FloorRing K] in
theorem applyTimer_handleOnClick (s : Page K) (c : LapsOfFuelLayout K) (xPos yPos : K) :
    applyTimer (s.handleOnClickLapsOfFuelIndicatorEvent c xPos yPos) =
      (applyTimer s).move (if clickSends s c xPos yPos then .start else .stay) := by
  cases hsends : clickSends s c xPos yPos with
  | true =>
    obtain ⟨hclick, htrack⟩ := handleOnClick_of_clickSends s c xPos yPos hsends
    rw [hclick, applyTimer_onSendButton s htrack, if_pos rfl]
  | false =>
    simp only [clickSends, Bool.and_eq_false_imp, Bool.and_eq_true, Bool.not_eq_true'] at hsends
    unfold Page.handleOnClickLapsOfFuelIndicatorEvent Page.onSendButton
    split
    · rfl
    · rename_i hauto
      split
      · rename_i happly
        rw [if_neg (by simp [hsends ⟨by simpa using hauto, happly⟩])]
        rfl
      · rfl

omit [FloorRing K] in
theorem applyTimer_lapsOfFuelUpdateIndicator (s : Page K) (isForcedUpdate : Bool) :
    applyTimer (s.lapsOfFuelUpdateIndicator isForcedUpdate) = applyTimer s := by
  unfold Page.lapsOfFuelUpdateIndicator Page.updateFuelImage
  dsimp only
  repeat' split
  all_goals rfl

/-- Up to the question whether to send, a message leaves the timer alone. -/
theorem applyTimer_receiveMessage (s : Page K) (data : Str) :
    applyTimer (s.receiveMessage data).2 = applyTimer s := by
  refine (applyTimer_lapsOfFuelUpdateIndicator _ false).trans ?_
  have h := congrArg Prod.fst (isOutsideGauge_timers.updateDependentData
    { s.clearDataUpdated with serverData := s.serverData.receive .exact data })
  exact h

omit [FloorRing K] in
theorem applyTimer_settleMessage (s : Page K) :
    applyTimer s.settleMessage = (applyTimer s).move
      (if s.globalData.onTrackOnPitRoadBool ∨ s.lapsOfFuelState.isOffPitRoadState then .stay
      else .stop) := by
  unfold Page.settleMessage Page.setOffPitRoadState
  cases hroad : s.globalData.onTrackOnPitRoadBool with
  | true =>
    simp only [true_or, if_true]
    rfl
  | false =>
    cases hoff : s.lapsOfFuelState.isOffPitRoadState with
    | true => simp only [Bool.false_eq_true, false_or, if_true, if_false]; rfl
    | false => simp only [Bool.false_eq_true, false_or, if_false]; rfl

theorem onTrackOnPitRoadBool_receiveMessage (s : Page K) (data : Str) :
    (s.receiveMessage data).2.globalData.onTrackOnPitRoadBool =
      isOnPitRoad (s.serverData.receive .exact data) := by
  have hgauge : Page.IsOutsideGauge fun t : Page K => isOnPitRoad t.serverData :=
    ⟨fun _ _ _ _ => rfl, fun _ => rfl⟩
  have hbuttons : Page.IsOutsideButtons fun t : Page K => isOnPitRoad t.serverData :=
    ⟨fun _ _ _ _ _ _ _ _ _ => rfl⟩
  exact (hbuttons.lapsOfFuelUpdateIndicator _ false).trans (hgauge.updateDependentData
    { s.clearDataUpdated with serverData := s.serverData.receive .exact data })

theorem lapsOfFuelState_receiveMessage (s : Page K) (data : Str) :
    (s.receiveMessage data).2.lapsOfFuelState = s.lapsOfFuelState := by
  have hgauge : Page.IsOutsideGauge fun t : Page K => t.lapsOfFuelState :=
    ⟨fun _ _ _ _ => rfl, fun _ => rfl⟩
  have hindicator (t : Page K) : (t.lapsOfFuelUpdateIndicator false).lapsOfFuelState =
      t.lapsOfFuelState := by
    unfold Page.lapsOfFuelUpdateIndicator Page.updateFuelImage
    dsimp only
    repeat' split
    all_goals rfl
  exact (hindicator _).trans (hgauge.updateDependentData
    { s.clearDataUpdated with serverData := s.serverData.receive .exact data })

/-- A car that drives into the pit lane is on the track and on pit road. -/
theorem onPitRoad_of_entering (s : Page K) (data : Str) (h : (s.receiveMessage data).1 = true) :
    (s.receiveMessage data).2.globalData.onTrackOnPitRoadBool = true ∧
      (s.receiveMessage data).2.serverData.isOnTrack.bool = true := by
  simp only [Page.receiveMessage, Page.checkIsEnteringPitRoad, Bool.and_eq_true] at h ⊢
  obtain ⟨⟨-, htrack, hroad⟩, -⟩ := h
  exact ⟨⟨htrack, hroad⟩, htrack⟩

theorem applyTimer_message (canvases : Canvases K) (s : Page K) (data : Str) :
    applyTimer (s.onWebSocketMessage data) =
      (applyTimer s).move (applyMove canvases s (.message data)) := by
  by_cases hdata : data = Page.heartbeat
  · simp [Page.onWebSocketMessage, applyMove, sendState, hdata, Timer.move]
  · have hroad := onTrackOnPitRoadBool_receiveMessage s data
    have hstate := lapsOfFuelState_receiveMessage s data
    have htimer := applyTimer_receiveMessage s data
    have hentering := onPitRoad_of_entering s data
    have hstep : s.onWebSocketMessage data = (if (s.receiveMessage data).1 &&
        (s.receiveMessage data).2.lapsOfFuelCoords.autoButtonState then
        (s.receiveMessage data).2.onSendButton else (s.receiveMessage data).2).settleMessage :=
      if_neg hdata
    rw [hstep, applyTimer_settleMessage, applyMove]
    set t := (s.receiveMessage data).2 with ht
    cases hsends : (s.receiveMessage data).1 && t.lapsOfFuelCoords.autoButtonState with
    | true =>
      rw [Bool.and_eq_true] at hsends
      obtain ⟨hroadTrue, htrack⟩ := hentering hsends.1
      have hsome : sendState canvases s (.message data) = some t :=
        if_pos ⟨hdata, hsends.1, hsends.2, htrack⟩
      have hkept : t.onSendButton.globalData.onTrackOnPitRoadBool = true := by
        rw [← hroadTrue, Page.onSendButton, if_pos htrack, Page.setOnPitRoadState]
        split <;> rfl
      -- The car is on pit road, so the message does not stop what it starts.
      rw [if_pos rfl, hkept, hsome, applyTimer_onSendButton t htrack, htimer]
      simp [Timer.move]
    | false =>
      have hnone : sendState canvases s (.message data) = none := by
        apply if_neg
        rintro ⟨-, hent, hauto, -⟩
        have hboth : ((s.receiveMessage data).1 && t.lapsOfFuelCoords.autoButtonState) = true :=
          Bool.and_eq_true_iff.mpr ⟨hent, hauto⟩
        rw [hsends] at hboth
        exact absurd hboth (by decide)
      rw [hnone, if_neg (by decide), htimer, hroad, hstate]
      simp [hdata]

omit [LinearOrder K] [FloorRing K] in
theorem applyTimer_applyFlashIntervalCallback (s : Page K) :
    applyTimer s.applyFlashIntervalCallback =
      (applyTimer s).move (.fire (s.lapsOfFuelCoords.applyButtonFlashCount + 1 ≥ 9)) := by
  unfold Page.applyFlashIntervalCallback
  dsimp only
  split
  · rename_i hzero
    simp [applyTimer, Timer.move, hzero]
  · rename_i hpending
    split
    · rename_i hflash
      split
      · rename_i hlast
        simp [applyTimer, Timer.move, hpending, hflash, hlast]
      · rename_i hlast
        simp [applyTimer, Timer.move, hflash, hlast]
    · rename_i hflash
      simp [applyTimer, Timer.move, hpending, hflash]

theorem applyTimer_step (canvases : Canvases K) (s : Page K) (e : Event K) :
    applyTimer (step canvases s e) = (applyTimer s).move (applyMove canvases s e) := by
  cases e with
  | message data => exact applyTimer_message canvases s data
  | touchEndLapsOfFuel e =>
    have htap : applyTimer (step canvases s (.touchEndLapsOfFuel e)) =
        applyTimer (if s.isLapsOfFuelTap e then
          s.handleOnClickLapsOfFuelIndicatorEvent (calculateLapsOfFuelOffsets canvases.lapsOfFuel)
            (s.lapsOfFuelTouchStart e).1 (s.lapsOfFuelTouchStart e).2 else s) := rfl
    rw [htap]
    cases h : s.isLapsOfFuelTap e with
    | true =>
      rw [if_pos rfl, applyTimer_handleOnClick]
      simp [applyMove, sendState, h, apply_ite Option.isSome]
    | false => simp [applyMove, sendState, h, Timer.move]
  | clickLapsOfFuel e =>
    refine (applyTimer_handleOnClick s _ _ _).trans ?_
    simp [applyMove, sendState, apply_ite Option.isSome]
  | applyFlashInterval =>
    exact applyTimer_applyFlashIntervalCallback s
  | fuelImageFlashInterval =>
    simp only [step, Page.fuelImageFlashIntervalCallback]
    repeat' split
    all_goals rfl
  | _ => exact congrArg Prod.fst (timers_step canvases s _ id)

/-! ## The fuel light -/

omit [FloorRing K] in
theorem fuelImageTimer_updateFuelImage (s : Page K) :
    fuelImageTimer s.updateFuelImage =
      (fuelImageTimer s).move (if isLowFuel s.serverData then .start else .stop) := by
  unfold Page.updateFuelImage isLowFuel
  dsimp only
  split
  · rename_i hlow
    simp only [hlow]
    split
    · rename_i hflash
      simp [fuelImageTimer, Timer.move, hflash]
    · rename_i hflash
      simp [fuelImageTimer, Timer.move, hflash]
  · rename_i hlow
    simp only [hlow]
    split
    · simp [fuelImageTimer, Timer.move]
    · rename_i hflash
      simp [fuelImageTimer, Timer.move, hflash]

omit [FloorRing K] in
theorem fuelImageTimer_onSendButton (s : Page K) :
    fuelImageTimer s.onSendButton = fuelImageTimer s := by
  unfold Page.onSendButton Page.setOnPitRoadState
  repeat' split
  all_goals rfl

omit [FloorRing K] in
theorem fuelImageTimer_settleMessage (s : Page K) :
    fuelImageTimer s.settleMessage = fuelImageTimer s := by
  unfold Page.settleMessage Page.setOffPitRoadState
  dsimp only
  repeat' split
  all_goals rfl

theorem fuelImageTimer_receiveMessage (s : Page K) (data : Str) :
    fuelImageTimer (s.receiveMessage data).2 =
      (fuelImageTimer s).move
        (if Page.isLapsOfFuelUpdated (s.serverData.receive .exact data) then
          if isLowFuel (s.serverData.receive .exact data) then .start else .stop
        else .stay) := by
  let t : Page K := { s.clearDataUpdated with serverData := s.serverData.receive .exact data }
  have hserver : t.updateDependentData.serverData = s.serverData.receive .exact data :=
    Page.serverData_updateDependentData t
  have htimer : fuelImageTimer t.updateDependentData = fuelImageTimer s :=
    congrArg Prod.snd (isOutsideGauge_timers.updateDependentData t)
  have hstep : fuelImageTimer (s.receiveMessage data).2 =
      fuelImageTimer (t.updateDependentData.lapsOfFuelUpdateIndicator false) := rfl
  rw [hstep, Page.lapsOfFuelUpdateIndicator, hserver, Bool.or_false]
  split
  · rw [fuelImageTimer_updateFuelImage, htimer, hserver]
  · exact htimer

theorem fuelImageTimer_message (s : Page K) (data : Str) :
    fuelImageTimer (s.onWebSocketMessage data) =
      (fuelImageTimer s).move (fuelImageMove s (.message data)) := by
  unfold Page.onWebSocketMessage fuelImageMove
  dsimp only
  split
  · rename_i hdata
    simp [hdata, Timer.move]
  · rename_i hdata
    have hsend : fuelImageTimer (if (s.receiveMessage data).1 &&
        (s.receiveMessage data).2.lapsOfFuelCoords.autoButtonState then
        (s.receiveMessage data).2.onSendButton else (s.receiveMessage data).2) =
        fuelImageTimer (s.receiveMessage data).2 := by
      split
      · exact fuelImageTimer_onSendButton _
      · rfl
    rw [fuelImageTimer_settleMessage, hsend, fuelImageTimer_receiveMessage]
    cases hupdated : Page.isLapsOfFuelUpdated (s.serverData.receive .exact data) with
    | true => simp [hdata]
    | false => simp [hdata]

omit [FloorRing K] in
theorem fuelImageTimer_handleOnClick (s : Page K) (c : LapsOfFuelLayout K) (xPos yPos : K) :
    fuelImageTimer (s.handleOnClickLapsOfFuelIndicatorEvent c xPos yPos) = fuelImageTimer s := by
  unfold Page.handleOnClickLapsOfFuelIndicatorEvent
  split
  · rfl
  · split
    · exact fuelImageTimer_onSendButton s
    · rfl

theorem fuelImageTimer_step (canvases : Canvases K) (s : Page K) (e : Event K) :
    fuelImageTimer (step canvases s e) = (fuelImageTimer s).move (fuelImageMove s e) := by
  cases e with
  | message data => exact fuelImageTimer_message s data
  | touchEndLapsOfFuel e =>
    simp only [step, Page.onTouchEndLapsOfFuel]
    split
    · exact fuelImageTimer_handleOnClick s _ _ _
    · rfl
  | clickLapsOfFuel e => exact fuelImageTimer_handleOnClick s _ _ _
  | applyFlashInterval =>
    simp only [step, Page.applyFlashIntervalCallback]
    repeat' split
    all_goals rfl
  | fuelImageFlashInterval =>
    simp only [step, Page.fuelImageFlashIntervalCallback, fuelImageMove]
    split
    · rename_i hzero
      simp [fuelImageTimer, Timer.move, hzero]
    · rename_i hpending
      split
      · rename_i hflash
        simp [fuelImageTimer, Timer.move, hflash]
      · rename_i hflash
        simp [fuelImageTimer, Timer.move, hpending, hflash]
  | _ => exact congrArg Prod.snd (timers_step canvases s _ id)

/-! ## Runs of the page -/

/-- No flashing starts after it was stopped before the callback that was left has fired. -/
def FlashingSettled (canvases : Canvases K) (es : List (Event K)) : Prop :=
  Timer.StartsSettled applyTimer (applyMove canvases) (step canvases) {} es ∧
  Timer.StartsSettled fuelImageTimer fuelImageMove (step canvases) {} es

/-- **One timer for each indicator.** At most one callback of each kind is pending along exactly the
runs in which no flashing starts while the callback of its last stop is left. A flashing indicator
has exactly one then. -/
theorem flash_timers_iff (canvases : Canvases K) (es : List (Event K)) :
    ((∀ fs, fs <+: es →
        (run (step canvases) {} fs).applyFlashTimers ≤ 1 ∧
        (run (step canvases) {} fs).fuelImageFlashTimers ≤ 1) ↔
      FlashingSettled canvases es) ∧
    (FlashingSettled canvases es →
      ((run (step canvases) {} es).lapsOfFuelCoords.applyButtonFlashing = true →
        (run (step canvases) {} es).applyFlashTimers = 1) ∧
      ((run (step canvases) {} es).lapsOfFuelCoords.fuelImageFlashing = true →
        (run (step canvases) {} es).fuelImageFlashTimers = 1)) := by
  have happly := Timer.pending_le_one_iff (applyTimer_step canvases) (s := {})
    Timer.isSingle_init Timer.not_isLeft_init es
  have himage := Timer.pending_le_one_iff (fuelImageTimer_step canvases) (s := {})
    Timer.isSingle_init Timer.not_isLeft_init es
  constructor
  · rw [FlashingSettled, ← happly, ← himage]
    exact ⟨fun h => ⟨fun fs hfs => (h fs hfs).1, fun fs hfs => (h fs hfs).2⟩,
      fun h fs hfs => ⟨h.1 fs hfs, h.2 fs hfs⟩⟩
  · rintro ⟨hok, hok'⟩
    have hsingle := Timer.isSingle_run (applyTimer_step canvases) (s := {}) Timer.isSingle_init
      Timer.not_isLeft_init hok
    have hsingle' := Timer.isSingle_run (fuelImageTimer_step canvases) (s := {}) Timer.isSingle_init
      Timer.not_isLeft_init hok'
    exact ⟨hsingle.pending_of_isOn, hsingle'.pending_of_isOn⟩

/-! ## A start before the callback -/

def offPitRoad : Event ℚ := .message "***D.A.T.A***\n\nIsOnTrack;1\nOnPitRoad;0\n".toList

/-- The car leaves pit road while Apply flashes, and Apply is pressed again. -/
def pressedTwice : List (Event ℚ) := [onPitRoad, clickApply, offPitRoad, clickApply]

def lapsOfFuelLeft (laps : Str) : Event ℚ :=
  .message ("***D.A.T.A***\n\nFuelLevel;1\nFuelRequired;10\nLapsOfFuel;".toList ++ laps ++ ['\n'])

/-- Fuel for less than one lap, then for five laps, then for less than one lap. -/
def lowTwice : List (Event ℚ) :=
  [lapsOfFuelLeft "0.5".toList, lapsOfFuelLeft "5".toList, lapsOfFuelLeft "0.5".toList]

theorem two_flash_timers :
    (¬ ∀ fs, fs <+: pressedTwice → (run (step Applied.sampleCanvases) {} fs).applyFlashTimers ≤ 1) ∧
    ¬ ∀ fs, fs <+: lowTwice → (run (step Applied.sampleCanvases) {} fs).fuelImageFlashTimers ≤ 1 := by
  constructor
  · intro h
    have htwo : (run (step Applied.sampleCanvases) {} pressedTwice).applyFlashTimers = 2 := by
      decide +kernel
    have hone := h pressedTwice List.prefix_rfl
    omega
  · intro h
    have htwo : (run (step Applied.sampleCanvases) {} lowTwice).fuelImageFlashTimers = 2 := by
      decide +kernel
    have hone := h lowTwice List.prefix_rfl
    omega

end IrPitCrew.FlashTimers
