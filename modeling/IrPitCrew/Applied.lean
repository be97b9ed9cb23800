import IrPitCrew.Client.Frame
import IrPitCrew.PitMessage
import Mathlib.Data.Rat.Floor

/-!
# What is stored as last applied, and what was sent

The send button stores the settings and sends them, in two functions. The first
returns early while the button flashes, so the two agree as long as the settings
did not change since the last send that was stored.
-/

open IrPitCrew.Text IrPitCrew.Run IrPitCrew.Client IrPitCrew.Plugin IrPitCrew.PitMessage

namespace IrPitCrew.Applied

variable {K : Type*} [Field K]

/-! ## The last message -/

def messageTires (message : Str) : Tires where
  leftFront := (readPitRequest id message).isCheckedLeftFront
  rightFront := (readPitRequest id message).isCheckedRightFront
  leftRear := (readPitRequest id message).isCheckedLeftRear
  rightRear := (readPitRequest id message).isCheckedRightRear

/-- The amount as it is written. -/
def messageFuel (message : Str) : ℤ := (readPitRequest id message).fuelToAddDisplay

theorem messageTires_message (p : PitSettings) : messageTires p.message = p.tires := by
  rw [messageTires, readPitRequest_message]

theorem messageFuel_message (p : PitSettings) : messageFuel p.message = p.fuelToAdd := by
  rw [messageFuel, readPitRequest_message, id]

/-- The values stored as last applied are those of the last message. A negative amount is 0. -/
def StoredIsSent (s : Page K) : Prop :=
  ∀ message ∈ s.sent.getLast?,
    s.globalData.tiresLastApplied = messageTires message ∧
    max s.globalData.fuelToAddValLastApplied 0 = messageFuel message

/-- The settings on the page are those stored as last applied. -/
def SettingsStored (s : Page K) : Prop :=
  s.tireState.toTires = s.globalData.tiresLastApplied ∧
  max s.dependentData.fuelToAddVal 0 = max s.globalData.fuelToAddValLastApplied 0

/-- A send from this page stores what it sends. -/
def SendStores (s : Page K) : Prop :=
  s.lapsOfFuelCoords.applyButtonFlashing = true → SettingsStored s

instance (s : Page K) : Decidable (SettingsStored s) :=
  inferInstanceAs (Decidable (_ ∧ _))

instance (s : Page K) : Decidable (SendStores s) := inferInstanceAs (Decidable (_ → _))

/-! ## One send -/

def appliedSide (s : Page K) : List Str × Tires × ℤ :=
  (s.sent, s.globalData.tiresLastApplied, s.globalData.fuelToAddValLastApplied)

theorem StoredIsSent.congr {s t : Page K} (h : appliedSide t = appliedSide s) (hs : StoredIsSent s) :
    StoredIsSent t := by
  simp only [appliedSide, Prod.mk.injEq] at h
  obtain ⟨hsent, htires, hfuel⟩ := h
  unfold StoredIsSent at hs ⊢
  rwa [hsent, htires, hfuel]

theorem storedIsSent_sendPitSettings_iff (s : Page K) :
    StoredIsSent s.sendPitSettings ↔ SettingsStored s := by
  have hfuel : s.pitSettings.fuelToAdd = max s.dependentData.fuelToAddVal 0 := by
    unfold Page.pitSettings
    dsimp only
    split <;> omega
  unfold StoredIsSent Page.sendPitSettings SettingsStored
  simp only [List.getLast?_append, List.getLast?_singleton, Option.some_or, Option.mem_def,
    Option.some.injEq, forall_eq']
  rw [messageTires_message, messageFuel_message, hfuel]
  exact and_congr eq_comm eq_comm

section

variable [LinearOrder K]

/-- **One send.** The stored values are those sent unless the button flashes over other settings. -/
theorem storedIsSent_onSendButton_iff (s : Page K) (h : s.serverData.isOnTrack.bool = true) :
    StoredIsSent s.onSendButton ↔ SendStores s := by
  rw [Page.onSendButton, if_pos h, storedIsSent_sendPitSettings_iff]
  unfold SendStores Page.setOnPitRoadState
  split
  · rename_i hflash
    exact ⟨fun hs _ => hs, fun hs => hs hflash⟩
  · rename_i hflash
    exact ⟨fun _ hf => absurd hf hflash, fun _ => ⟨rfl, rfl⟩⟩

end

/-! ## Between two sends -/

/-- Nothing was sent or stored. The text stored may be back at `NotApplied`. -/
structure Quiet (s t : Page K) : Prop where
  side : appliedSide t = appliedSide s
  str : t.globalData.fuelToAddStrLastApplied = s.globalData.fuelToAddStrLastApplied ∨
    t.globalData.fuelToAddStrLastApplied = notApplied

theorem Quiet.refl (s : Page K) : Quiet s s := ⟨rfl, .inl rfl⟩

theorem Quiet.trans {s t u : Page K} (h : Quiet s t) (k : Quiet t u) : Quiet s u := by
  refine ⟨k.side.trans h.side, ?_⟩
  rcases k.str with hk | hk
  · rw [hk]
    exact h.str
  · exact .inr hk

theorem Quiet.of_otherSide {s t : Page K} (h : t.otherSide = s.otherSide) : Quiet s t := by
  simp only [Page.otherSide, Prod.mk.injEq] at h
  obtain ⟨hglobal, -, -, -, -, -, hsent⟩ := h
  refine ⟨?_, .inl (by rw [hglobal])⟩
  rw [appliedSide, appliedSide, hglobal, hsent]

theorem quiet_setOffPitRoadState (s : Page K) : Quiet s s.setOffPitRoadState := by
  unfold Page.setOffPitRoadState
  split
  · exact .refl s
  · exact ⟨rfl, .inr rfl⟩

section

variable [LinearOrder K]

theorem quiet_updatePitRoadAppliedState (s : Page K) : Quiet s s.updatePitRoadAppliedState :=
  ⟨rfl, .inl rfl⟩

theorem quiet_lapsOfFuelUpdateIndicator (s : Page K) (isForcedUpdate : Bool) :
    Quiet s (s.lapsOfFuelUpdateIndicator isForcedUpdate) := by
  unfold Page.lapsOfFuelUpdateIndicator Page.updateFuelImage
  dsimp only
  repeat' split
  all_goals exact ⟨rfl, .inl rfl⟩

theorem quiet_checkIsEnteringPitRoad (s : Page K) : Quiet s s.checkIsEnteringPitRoad.2 :=
  ⟨rfl, .inl rfl⟩

omit [LinearOrder K] in
theorem quiet_applyFlashIntervalCallback (s : Page K) : Quiet s s.applyFlashIntervalCallback := by
  unfold Page.applyFlashIntervalCallback
  dsimp only
  repeat' split
  all_goals exact ⟨rfl, .inl rfl⟩

omit [LinearOrder K] in
theorem quiet_fuelImageFlashIntervalCallback (s : Page K) :
    Quiet s s.fuelImageFlashIntervalCallback := by
  unfold Page.fuelImageFlashIntervalCallback
  repeat' split
  all_goals exact ⟨rfl, .inl rfl⟩

variable [FloorRing K]

theorem quiet_receiveMessage (s : Page K) (data : Str) : Quiet s (s.receiveMessage data).2 := by
  have hupdate (t : Page K) : Quiet t t.updateDependentData :=
    .of_otherSide (Page.isOutsideGauge_otherSide.updateDependentData t)
  have hdata : Quiet s { s.clearDataUpdated with
      serverData := s.clearDataUpdated.serverData.updateServerData .exact data } := ⟨rfl, .inl rfl⟩
  exact hdata.trans ((hupdate _).trans ((quiet_lapsOfFuelUpdateIndicator _ _).trans
    (quiet_checkIsEnteringPitRoad _)))

omit [FloorRing K] in
theorem quiet_settleMessage (s : Page K) : Quiet s s.settleMessage := by
  have hstate : Quiet s (if s.globalData.onTrackOnPitRoadBool then s.updatePitRoadAppliedState
      else s.setOffPitRoadState) := by
    split
    · exact quiet_updatePitRoadAppliedState s
    · exact quiet_setOffPitRoadState s
  exact hstate.trans ⟨rfl, .inl rfl⟩

end

/-! ## Which event sends -/

section

variable [LinearOrder K]

def clickSends (s : Page K) (c : LapsOfFuelLayout K) (xPos yPos : K) : Bool :=
  !c.isAutoClicked xPos yPos && c.isApplyClicked xPos yPos && s.serverData.isOnTrack.bool

theorem quiet_handleOnClick (s : Page K) (c : LapsOfFuelLayout K) (xPos yPos : K)
    (h : clickSends s c xPos yPos = false) :
    Quiet s (s.handleOnClickLapsOfFuelIndicatorEvent c xPos yPos) := by
  unfold Page.handleOnClickLapsOfFuelIndicatorEvent
  split
  · exact ⟨rfl, .inl rfl⟩
  · rename_i hauto
    split
    · rename_i happly
      have htrack : s.serverData.isOnTrack.bool = false := by
        simpa [clickSends, hauto, happly] using h
      rw [Page.onSendButton, if_neg (by simp [htrack])]
      exact .refl s
    · exact .refl s

theorem handleOnClick_of_clickSends (s : Page K) (c : LapsOfFuelLayout K) (xPos yPos : K)
    (h : clickSends s c xPos yPos = true) :
    s.handleOnClickLapsOfFuelIndicatorEvent c xPos yPos = s.onSendButton ∧
      s.serverData.isOnTrack.bool = true := by
  simp only [clickSends, Bool.and_eq_true, Bool.not_eq_true'] at h
  obtain ⟨⟨hauto, happly⟩, htrack⟩ := h
  refine ⟨?_, htrack⟩
  rw [Page.handleOnClickLapsOfFuelIndicatorEvent, if_neg (by simp [hauto]), if_pos happly]

variable [FloorRing K]

/-- The page from which the event sends the settings, if it does. -/
def sendState (canvases : Canvases K) (s : Page K) : Event K → Option (Page K)
  | .message data =>
    let (isEnteringPitRoad, t) := s.receiveMessage data
    if data ≠ Page.heartbeat ∧ isEnteringPitRoad ∧ t.lapsOfFuelCoords.autoButtonState ∧
        t.serverData.isOnTrack.bool then some t
    else none
  | .touchEndLapsOfFuel e =>
    let start : K × K := s.lapsOfFuelTouchStart e
    if s.isLapsOfFuelTap e ∧
        clickSends s (calculateLapsOfFuelOffsets canvases.lapsOfFuel) start.1 start.2 then some s
    else none
  | .clickLapsOfFuel e =>
    if clickSends s (calculateLapsOfFuelOffsets canvases.lapsOfFuel)
        (e.pageX - e.boundingRect.left) (e.pageY - e.boundingRect.top) then some s
    else none
  | _ => none

/-- **Step.** An event without a send stores nothing. -/
theorem quiet_step (canvases : Canvases K) (s : Page K) (e : Event K)
    (h : sendState canvases s e = none) : Quiet s (step canvases s e) := by
  cases e with
  | message data =>
    simp only [step, Page.onWebSocketMessage]
    simp only [sendState, ite_eq_right_iff, reduceCtorEq, imp_false, not_and] at h
    split
    · exact .refl s
    · rename_i hdata
      refine (quiet_receiveMessage s data).trans (Quiet.trans ?_ (quiet_settleMessage _))
      split
      · rename_i hsend
        rw [Bool.and_eq_true] at hsend
        rw [Page.onSendButton, if_neg (h hdata hsend.1 hsend.2)]
        exact .refl _
      · exact .refl _
  | touchStartFuel e => exact .of_otherSide (Page.isOutsideGauge_otherSide.onTouchStartFuel s _ e)
  | touchMoveFuel e => exact .of_otherSide (Page.isOutsideGauge_otherSide.onTouchMoveFuel s _ e)
  | touchEndFuel e => exact .of_otherSide (Page.isOutsideGauge_otherSide.onTouchEndFuel s _ e)
  | clickFuel e => exact .of_otherSide (Page.isOutsideGauge_otherSide.onClickFuelIndicator s _ e)
  | touchStartTires e =>
    simp only [step, Page.onTouchStartTires]
    split <;> exact ⟨rfl, .inl rfl⟩
  | touchEndTires e =>
    simp only [step, Page.onTouchEndTires]
    repeat' split
    all_goals exact ⟨rfl, .inl rfl⟩
  | clickTires e => exact ⟨rfl, .inl rfl⟩
  | touchStartLapsOfFuel e =>
    simp only [step, Page.onTouchStartLapsOfFuel]
    split <;> exact ⟨rfl, .inl rfl⟩
  | touchEndLapsOfFuel e =>
    simp only [step, Page.onTouchEndLapsOfFuel]
    simp only [sendState, ite_eq_right_iff, reduceCtorEq, imp_false, not_and] at h
    split
    · rename_i htap
      have hclick := quiet_handleOnClick _ _ _ _ (Bool.eq_false_of_not_eq_true (h htap))
      exact hclick.trans ⟨rfl, .inl rfl⟩
    · exact ⟨rfl, .inl rfl⟩
  | clickLapsOfFuel e =>
    simp only [sendState, ite_eq_right_iff, reduceCtorEq, imp_false, Bool.not_eq_true] at h
    exact quiet_handleOnClick _ _ _ _ h
  | clickFastRepair => exact ⟨rfl, .inl rfl⟩
  | clickWindshield => exact ⟨rfl, .inl rfl⟩
  | applyFlashInterval => exact quiet_applyFlashIntervalCallback s
  | fuelImageFlashInterval => exact quiet_fuelImageFlashIntervalCallback s

/-- **Step.** An event with a send stores and sends from one page, and nothing around it. -/
theorem send_step (canvases : Canvases K) (s t : Page K) (e : Event K)
    (h : sendState canvases s e = some t) :
    Quiet s t ∧ t.serverData.isOnTrack.bool = true ∧ Quiet t.onSendButton (step canvases s e) := by
  cases e with
  | message data =>
    simp only [sendState, Option.ite_none_right_eq_some, Option.some.injEq] at h
    obtain ⟨⟨hdata, hentering, hauto, htrack⟩, rfl⟩ := h
    refine ⟨quiet_receiveMessage s data, htrack, ?_⟩
    simp only [step, Page.onWebSocketMessage]
    rw [if_neg hdata, if_pos (by rw [hentering, hauto]; rfl)]
    exact quiet_settleMessage _
  | touchEndLapsOfFuel e =>
    simp only [sendState, Option.ite_none_right_eq_some, Option.some.injEq] at h
    obtain ⟨⟨htap, hsends⟩, rfl⟩ := h
    obtain ⟨hclick, htrack⟩ := handleOnClick_of_clickSends _ _ _ _ hsends
    refine ⟨.refl s, htrack, ?_⟩
    simp only [step, Page.onTouchEndLapsOfFuel]
    rw [if_pos htap, hclick]
    exact ⟨rfl, .inl rfl⟩
  | clickLapsOfFuel e =>
    simp only [sendState, Option.ite_none_right_eq_some, Option.some.injEq] at h
    obtain ⟨hsends, rfl⟩ := h
    obtain ⟨hclick, htrack⟩ := handleOnClick_of_clickSends _ _ _ _ hsends
    refine ⟨.refl s, htrack, ?_⟩
    simp only [step, Page.onClickLapsOfFuelIndicator]
    rw [hclick]
    exact .refl _
  | _ => simp [sendState] at h

/-! ## Runs -/

def SendsStored (canvases : Canvases K) (s : Page K) (e : Event K) : Prop :=
  ∀ t ∈ sendState canvases s e, SendStores t

instance (canvases : Canvases K) (s : Page K) (e : Event K) : Decidable (SendsStored canvases s e) :=
  match h : sendState canvases s e with
  | none => .isTrue (by simp [SendsStored, h])
  | some t => decidable_of_iff (SendStores t) (by simp [SendsStored, h])

/-- A text is stored only when something was sent. -/
def StoredOnlyIfSent (s : Page K) : Prop :=
  s.globalData.fuelToAddStrLastApplied ≠ notApplied → s.sent ≠ []

/-- **Step.** The stored values stay those sent exactly when the send stores what it sends. -/
theorem storedIsSent_step_iff (canvases : Canvases K) (s : Page K) (e : Event K) (hs : StoredIsSent s) :
    StoredIsSent (step canvases s e) ↔ SendsStored canvases s e := by
  unfold SendsStored
  cases h : sendState canvases s e with
  | none => simpa using hs.congr (quiet_step canvases s e h).side
  | some t =>
    obtain ⟨-, htrack, hafter⟩ := send_step canvases s t e h
    simp only [Option.mem_def, Option.some.injEq, forall_eq']
    rw [← storedIsSent_onSendButton_iff t htrack]
    exact ⟨fun hstep => hstep.congr hafter.side.symm, fun hsend => hsend.congr hafter.side⟩

omit [LinearOrder K] [FloorRing K] in
theorem StoredOnlyIfSent.quiet {s t : Page K} (h : Quiet s t) (hs : StoredOnlyIfSent s) :
    StoredOnlyIfSent t := by
  have hsent : t.sent = s.sent := congrArg Prod.fst h.side
  intro hstr
  rw [hsent]
  rcases h.str with heq | heq
  · exact hs (by rwa [← heq])
  · exact absurd heq hstr

theorem StoredOnlyIfSent.step (canvases : Canvases K) (s : Page K) (e : Event K)
    (hs : StoredOnlyIfSent s) : StoredOnlyIfSent (step canvases s e) := by
  cases h : sendState canvases s e with
  | none => exact hs.quiet (quiet_step canvases s e h)
  | some t =>
    obtain ⟨-, htrack, hafter⟩ := send_step canvases s t e h
    apply StoredOnlyIfSent.quiet hafter
    intro _
    rw [Page.onSendButton, if_pos htrack, Page.sendPitSettings]
    simp

/-- A green button on pit road: the wheels chosen are those last sent. -/
def GreenMeansSent (s : Page K) : Prop :=
  s.globalData.onTrackOnPitRoadBool = true → s.lapsOfFuelCoords.applyButtonApplied = true →
    ∃ message ∈ s.sent.getLast?, messageTires message = s.tireState.toTires

omit [FloorRing K] in
/-- The button is set green only for the values stored. -/
theorem greenMeansSent_settleMessage (s : Page K) (hstored : StoredIsSent s.settleMessage)
    (hsent : StoredOnlyIfSent s.settleMessage) : GreenMeansSent s.settleMessage := by
  intro hroad hgreen
  unfold Page.settleMessage at *
  cases hs : s.globalData.onTrackOnPitRoadBool with
  | false =>
    have hoff : s.setOffPitRoadState.globalData.onTrackOnPitRoadBool = false := by
      unfold Page.setOffPitRoadState
      split <;> exact hs
    simp only [hs, Bool.false_eq_true, if_false] at hroad
    rw [Page.clearDataUpdated, hoff] at hroad
    exact absurd hroad (by simp)
  | true =>
    simp only [hs, if_true] at hstored hsent hgreen ⊢
    have happlied : s.createFuelToAddString.isApplied = true := hgreen
    simp only [Page.isApplied, decide_eq_true_eq] at happlied
    obtain ⟨hstr, -, htires⟩ := happlied
    have hmessage := List.getLast?_eq_some_getLast (hsent hstr)
    exact ⟨_, hmessage, ((hstored _ hmessage).1).symm.trans htires.symm⟩

theorem greenMeansSent_message (canvases : Canvases K) (s : Page K) (data : Str)
    (hdata : data ≠ Page.heartbeat) (hstored : StoredIsSent (step canvases s (.message data)))
    (hsent : StoredOnlyIfSent (step canvases s (.message data))) :
    GreenMeansSent (step canvases s (.message data)) := by
  simp only [step, Page.onWebSocketMessage, if_neg hdata] at hstored hsent ⊢
  exact greenMeansSent_settleMessage _ hstored hsent

omit [LinearOrder K] [FloorRing K] in
theorem storedIsSent_init : StoredIsSent ({} : Page K) := by simp [StoredIsSent]

omit [LinearOrder K] [FloorRing K] in
theorem storedOnlyIfSent_init : StoredOnlyIfSent ({} : Page K) := fun h => absurd rfl h

/-- **Applied.** The values stored are those sent, and a green button on pit road stands for the
wheels sent, along exactly the runs in which each send stores what it sends. -/
theorem applied_iff (canvases : Canvases K) (es : List (Event K)) :
    StepsOk (step canvases) (SendsStored canvases) {} es ↔
      (∀ fs, fs <+: es → StoredIsSent (run (step canvases) {} fs)) ∧
      (∀ fs data, fs ++ [.message data] <+: es → data ≠ Page.heartbeat →
        GreenMeansSent (run (step canvases) {} (fs ++ [.message data]))) := by
  rw [stepsOk_iff_forall_prefixes (storedIsSent_step_iff canvases) es storedIsSent_init]
  refine ⟨fun h => ⟨h, fun fs data hfs hdata => ?_⟩, And.left⟩
  have hstored := h _ hfs
  have hsent : StoredOnlyIfSent (run (step canvases) {} (fs ++ [.message data])) :=
    run_invariant_of_step (StoredOnlyIfSent.step canvases) _ storedOnlyIfSent_init
  rw [run_append] at hstored hsent ⊢
  exact greenMeansSent_message canvases _ data hdata hstored hsent

end

/-! ## A change while the button flashes -/

def sampleCanvases : Canvases ℚ := ⟨⟨400, 600⟩, ⟨400, 600⟩, ⟨400, 600⟩⟩

def clickLeftFront : Event ℚ := .clickTires ⟨80, 80, ⟨0, 0⟩⟩

def clickApply : Event ℚ := .clickLapsOfFuel ⟨100, 550, ⟨0, 0⟩⟩

def onPitRoad : Event ℚ := .message "***D.A.T.A***\n\nIsOnTrack;1\nOnPitRoad;1\n".toList

/-- The last message asks for no wheel, and then the button is green for the left front one. -/
def falseGreen : List (Event ℚ) :=
  [onPitRoad, clickLeftFront, clickApply, clickLeftFront, clickApply, clickLeftFront, onPitRoad]

def noWheels : Str := "\nFuel;0\nFastRepair\nWindshield\n".toList

theorem false_green_button :
    ¬ StoredIsSent (run (step sampleCanvases) {} (falseGreen.take 5)) ∧
    ¬ GreenMeansSent (run (step sampleCanvases) {} falseGreen) := by
  have hsecond : (run (step sampleCanvases) {} (falseGreen.take 5)).sent.getLast? = some noWheels ∧
      (run (step sampleCanvases) {} (falseGreen.take 5)).globalData.tiresLastApplied ≠
        messageTires noWheels := by
    decide +kernel
  have hend : (run (step sampleCanvases) {} falseGreen).globalData.onTrackOnPitRoadBool = true ∧
      (run (step sampleCanvases) {} falseGreen).lapsOfFuelCoords.applyButtonApplied = true ∧
      (run (step sampleCanvases) {} falseGreen).sent.getLast? = some noWheels ∧
      messageTires noWheels ≠ (run (step sampleCanvases) {} falseGreen).tireState.toTires := by
    decide +kernel
  constructor
  · intro h
    obtain ⟨hlast, hstored⟩ := hsecond
    exact hstored (h _ hlast).1
  · intro h
    obtain ⟨hroad, hgreen, hlast, hpage⟩ := hend
    obtain ⟨message, hmessage, htires⟩ := h hroad hgreen
    rw [hlast, Option.mem_def, Option.some.injEq] at hmessage
    rw [← hmessage] at htires
    exact hpage htires

def appliedAgain : List (Event ℚ) :=
  [onPitRoad, clickLeftFront, clickApply] ++ List.replicate 8 .applyFlashInterval ++
    [clickLeftFront, clickApply, onPitRoad]

theorem applied_again : GreenMeansSent (run (step sampleCanvases) {} appliedAgain) :=
  ((applied_iff sampleCanvases appliedAgain).mp (by decide +kernel)).2 (appliedAgain.dropLast)
    _ ⟨[], by rfl⟩ (by decide)

end IrPitCrew.Applied
