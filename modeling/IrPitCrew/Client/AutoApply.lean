import IrPitCrew.Applied

/-!
# Auto: one send for each drive into the pit lane

The page remembers whether the car was on the track and off pit road. Only
messages move the car, and each of them renews the memory.
-/

open IrPitCrew.Text IrPitCrew.Rounding IrPitCrew.Binary IrPitCrew.ParseData IrPitCrew.Run
open IrPitCrew.Applied

namespace IrPitCrew.Client

variable {K : Type*} [Field K]

/-! ## Where the car is -/

namespace Page

/-- On the track, and not on pit road. -/
def isRacing (s : Page K) : Bool := s.serverData.isOnTrack.bool && !s.serverData.onPitRoad.bool

def isOnPitRoad (s : Page K) : Bool := s.serverData.isOnTrack.bool && s.serverData.onPitRoad.bool

/-- The flag is the one for the place of the car. -/
def RacingCurrent (s : Page K) : Prop := s.globalData.onTrackRacingBool = s.isRacing

/-- What the page knows of the car, and the flag it keeps. -/
def carSide (s : Page K) : Bool × Bool × Bool × K :=
  (s.globalData.onTrackRacingBool, s.serverData.isOnTrack.bool, s.serverData.onPitRoad.bool,
    s.serverData.speed.val)

theorem isOutsideGauge_carSide [LinearOrder K] : IsOutsideGauge (carSide (K := K)) :=
  ⟨fun _ _ _ _ => rfl, fun _ => rfl⟩

theorem isOutsideButtons_carSide : IsOutsideButtons (carSide (K := K)) := by
  constructor
  intro s globalData _ _ _ _ _ _ h
  simp only [carSide, h]

theorem isRacing_congr {s t : Page K} (h : t.carSide = s.carSide) : t.isRacing = s.isRacing := by
  simp only [carSide, Prod.mk.injEq] at h
  rw [isRacing, isRacing, h.2.1, h.2.2.1]

theorem RacingCurrent.congr {s t : Page K} (h : t.carSide = s.carSide) (hs : s.RacingCurrent) :
    t.RacingCurrent := by
  have hflag : t.globalData.onTrackRacingBool = s.globalData.onTrackRacingBool := congrArg Prod.fst h
  rw [RacingCurrent, hflag, isRacing_congr h]
  exact hs

variable [LinearOrder K]

theorem carSide_settleMessage (s : Page K) : s.settleMessage.carSide = s.carSide := by
  have hstate : (if s.globalData.onTrackOnPitRoadBool then s.updatePitRoadAppliedState
      else s.setOffPitRoadState).carSide = s.carSide := by
    split
    · exact isOutsideButtons_carSide.updatePitRoadAppliedState s
    · exact isOutsideButtons_carSide.setOffPitRoadState s
  exact hstate

end Page

variable [LinearOrder K] [FloorRing K]

def IsMessage : Event K → Prop
  | .message _ => True
  | _ => False

/-- Nothing but a message moves the car. -/
theorem carSide_step (canvases : Canvases K) (s : Page K) (e : Event K) (h : ¬ IsMessage e) :
    (step canvases s e).carSide = s.carSide := by
  cases e with
  | message data => exact absurd trivial h
  | touchStartFuel e => exact Page.isOutsideGauge_carSide.onTouchStartFuel s _ e
  | touchMoveFuel e => exact Page.isOutsideGauge_carSide.onTouchMoveFuel s _ e
  | touchEndFuel e => exact Page.isOutsideGauge_carSide.onTouchEndFuel s _ e
  | clickFuel e => exact Page.isOutsideGauge_carSide.onClickFuelIndicator s _ e
  | _ => exact Page.isOutsideButtons_carSide.step canvases s _ id

/-! ## One message -/

variable (K) in
/-- The flag that a message sets. -/
def flagIn (messageData : Str) (tag : String) : Option Bool :=
  let value := messageValue messageData tag.toList
  if value.length > 0 ∧ value ≠ dataNotSetString then
    let newVal : K := parseFloat (toFixed 0 (parseFloat value : K))
    some (newVal ≠ 0)
  else none

/-- The number of a message, as it is kept. -/
def numberIn (messageData : Str) (tag : String) : Option K :=
  (readValue .exact (messageValue messageData tag.toList) : Option K).map fun value =>
    parseFloat (toFixed ServerData.decimalsForVal value)

theorem bool_receive (f : FlagField) (messageData : Str) (tag : String) :
    (f.receive (.exact : Arith K) (messageValue messageData tag.toList)).bool =
      (flagIn K messageData tag).getD f.bool := by
  unfold FlagField.receive flagIn
  dsimp only
  split
  · split
    · rfl
    · rename_i hne
      have hsame := not_ne_iff.mp hne
      rw [Arith.double_exact, Arith.double_exact] at hsame
      simp [hsame]
  · rfl

theorem val_receive_readValue (f : NumberField K) (format : K → K → Str) (messageData : Str)
    (tag : String) :
    (f.receive .exact ServerData.decimalsForVal format
      (readValue .exact (messageValue messageData tag.toList))).val =
      (numberIn messageData tag).getD f.val := by
  unfold numberIn
  cases readValue (.exact : Arith K) (messageValue messageData tag.toList) with
  | none => rfl
  | some value => exact NumberField.val_receive _ _ _ _ _

namespace Page

/-- The page when `checkIsEnteringPitRoad` is called. -/
def received (s : Page K) (messageData : Str) : Page K :=
  ({ s.clearDataUpdated with
    serverData := s.clearDataUpdated.serverData.updateServerData .exact messageData } : Page K)
    |>.updateDependentData.lapsOfFuelUpdateIndicator false

theorem serverData_received (s : Page K) (messageData : Str) :
    (s.received messageData).serverData = s.serverData.receive .exact messageData := by
  have hview : IsOutsideButtons fun s : Page K => s.serverData := ⟨fun _ _ _ _ _ _ _ _ _ => rfl⟩
  exact (hview.lapsOfFuelUpdateIndicator _ false).trans (serverData_updateDependentData _)

theorem globalData_received (s : Page K) (messageData : Str) :
    (s.received messageData).globalData = s.globalData ∧
    (s.received messageData).lapsOfFuelCoords.autoButtonState = s.lapsOfFuelCoords.autoButtonState ∧
    (s.received messageData).sent = s.sent := by
  have hindicator (t : Page K) : (t.lapsOfFuelUpdateIndicator false).globalData = t.globalData ∧
      (t.lapsOfFuelUpdateIndicator false).lapsOfFuelCoords.autoButtonState =
        t.lapsOfFuelCoords.autoButtonState ∧
      (t.lapsOfFuelUpdateIndicator false).sent = t.sent := by
    unfold lapsOfFuelUpdateIndicator updateFuelImage
    dsimp only
    repeat' split
    all_goals exact ⟨rfl, rfl, rfl⟩
  have hdependent (t : Page K) : t.updateDependentData.otherSide = t.otherSide :=
    isOutsideGauge_otherSide.updateDependentData t
  simp only [otherSide, Prod.mk.injEq] at hdependent
  unfold received
  refine ⟨(hindicator _).1.trans (hdependent _).1, (hindicator _).2.1.trans ?_,
    (hindicator _).2.2.trans (hdependent _).2.2.2.2.2.2⟩
  rw [(hdependent _).2.2.1]
  rfl

omit [FloorRing K] in
theorem pitSettings_settleMessage (s : Page K) : s.settleMessage.pitSettings = s.pitSettings := by
  unfold settleMessage setOffPitRoadState
  dsimp only
  split
  · rfl
  · split <;> rfl

omit [FloorRing K] in
theorem sent_settleMessage (s : Page K) : s.settleMessage.sent = s.sent := by
  unfold settleMessage setOffPitRoadState
  dsimp only
  split
  · rfl
  · split <;> rfl

/-- The car drives into the pit lane between the two pages. -/
def isEntering (s t : Page K) : Bool :=
  s.isRacing && t.isOnPitRoad && decide (t.serverData.speed.val > 5)

omit [LinearOrder K] [FloorRing K] in
theorem isRacing_of_isOnPitRoad {s : Page K} (h : s.isOnPitRoad = true) : s.isRacing = false := by
  simp only [isOnPitRoad, Bool.and_eq_true] at h
  simp [isRacing, h]

omit [FloorRing K] in
theorem isEntering_self (s : Page K) : isEntering s s = false := by
  cases h : s.isOnPitRoad with
  | false => simp [isEntering, h]
  | true => simp [isEntering, isRacing_of_isOnPitRoad h]

omit [FloorRing K] in
theorem isEntering_congr (s : Page K) {t u : Page K} (h : t.carSide = u.carSide) :
    isEntering s t = isEntering s u := by
  simp only [carSide, Prod.mk.injEq] at h
  obtain ⟨-, htrack, hroad, hspeed⟩ := h
  rw [isEntering, isEntering, isOnPitRoad, isOnPitRoad, htrack, hroad, hspeed]

omit [FloorRing K] in
theorem checkIsEnteringPitRoad_eq (s t : Page K) (h : t.globalData.onTrackRacingBool = s.isRacing) :
    t.checkIsEnteringPitRoad.1 = isEntering s t := by
  have heq : t.checkIsEnteringPitRoad.1 =
      (s.isRacing && !t.isRacing && t.isOnPitRoad && decide (t.serverData.speed.val > 5)) := by
    rw [← h]
    rfl
  rw [heq, isEntering]
  cases hroad : t.isOnPitRoad with
  | false => simp
  | true => simp [isRacing_of_isOnPitRoad hroad]

/-- What a message other than a heartbeat does: renew the values and the flag, and then send. -/
theorem onWebSocketMessage_cases (s : Page K) (messageData : Str) (hs : s.RacingCurrent)
    (h : messageData ≠ heartbeat) :
    ∃ t : Page K, t.RacingCurrent ∧ t.serverData = s.serverData.receive .exact messageData ∧
      t.sent = s.sent ∧ (s.onWebSocketMessage messageData).carSide = t.carSide ∧
      s.onWebSocketMessage messageData =
        (if isEntering s t && s.lapsOfFuelCoords.autoButtonState then t.onSendButton
          else t).settleMessage := by
  obtain ⟨hglobal, hauto, hsent⟩ := s.globalData_received messageData
  have hflag : (s.received messageData).globalData.onTrackRacingBool = s.isRacing := by
    rw [hglobal]
    exact hs
  set u := (s.received messageData).checkIsEnteringPitRoad.2 with hu
  have hautou : u.lapsOfFuelCoords.autoButtonState = s.lapsOfFuelCoords.autoButtonState := hauto
  have hentering : (s.received messageData).checkIsEnteringPitRoad.1 = isEntering s u :=
    checkIsEnteringPitRoad_eq s _ hflag
  have hstep : s.onWebSocketMessage messageData =
      (if isEntering s u && s.lapsOfFuelCoords.autoButtonState then u.onSendButton
        else u).settleMessage := by
    rw [← hautou, ← hentering]
    exact if_neg h
  refine ⟨u, rfl, s.serverData_received messageData, hsent, ?_, hstep⟩
  rw [hstep, carSide_settleMessage]
  split
  · exact isOutsideButtons_carSide.onSendButton u
  · rfl

/-- The car is where the message says, and as fast, and what it does not say stays. -/
theorem car_onWebSocketMessage (s : Page K) (messageData : Str) (hs : s.RacingCurrent)
    (h : messageData ≠ heartbeat) :
    (s.onWebSocketMessage messageData).serverData.isOnTrack.bool =
        (flagIn K messageData "IsOnTrack").getD s.serverData.isOnTrack.bool ∧
      (s.onWebSocketMessage messageData).serverData.onPitRoad.bool =
        (flagIn K messageData "OnPitRoad").getD s.serverData.onPitRoad.bool ∧
      (s.onWebSocketMessage messageData).serverData.speed.val =
        (numberIn messageData "Speed").getD s.serverData.speed.val := by
  obtain ⟨t, -, hserver, -, hcar, -⟩ := s.onWebSocketMessage_cases messageData hs h
  simp only [carSide, Prod.mk.injEq] at hcar
  rw [hcar.2.1, hcar.2.2.1, hcar.2.2.2, hserver]
  exact ⟨bool_receive _ messageData "IsOnTrack", bool_receive _ messageData "OnPitRoad",
    val_receive_readValue _ _ messageData "Speed"⟩

/-- **One message.** It sends the settings as the car drives into the pit lane, and nothing else. -/
theorem sent_onWebSocketMessage (s : Page K) (messageData : Str) (hs : s.RacingCurrent) :
    (s.onWebSocketMessage messageData).sent =
      s.sent ++ if isEntering s (s.onWebSocketMessage messageData) &&
          s.lapsOfFuelCoords.autoButtonState then
        [(s.onWebSocketMessage messageData).pitSettings.message] else [] := by
  by_cases hheartbeat : messageData = heartbeat
  · have hsame : s.onWebSocketMessage messageData = s := if_pos hheartbeat
    rw [hsame, isEntering_self, Bool.false_and, if_neg Bool.false_ne_true, List.append_nil]
  · obtain ⟨t, -, -, hsent, hcar, hstep⟩ := s.onWebSocketMessage_cases messageData hs hheartbeat
    rw [isEntering_congr s hcar, hstep, pitSettings_settleMessage, sent_settleMessage]
    split
    · rename_i hsend
      have htrack : t.serverData.isOnTrack.bool = true := by
        simp only [isEntering, isOnPitRoad, Bool.and_eq_true] at hsend
        exact hsend.1.1.2.1
      rw [onSendButton, if_pos htrack, sendPitSettings]
      have hkept : t.setOnPitRoadState.sent = t.sent := by
        unfold setOnPitRoadState
        split <;> rfl
      rw [hkept, hsent]
      rfl
    · rw [hsent, List.append_nil]

end Page

theorem racingCurrent_step (canvases : Canvases K) (s : Page K) (e : Event K) (hs : s.RacingCurrent) :
    (step canvases s e).RacingCurrent := by
  by_cases hmessage : IsMessage e
  · cases e with
    | message data =>
      by_cases hheartbeat : data = Page.heartbeat
      · have hsame : s.onWebSocketMessage data = s := if_pos hheartbeat
        rw [step, hsame]
        exact hs
      · obtain ⟨t, ht, -, -, hcar, -⟩ := s.onWebSocketMessage_cases data hs hheartbeat
        exact ht.congr hcar
    | _ => exact absurd hmessage id
  · exact hs.congr (carSide_step canvases s e hmessage)

/-! ## Runs -/

def pageAfter (canvases : Canvases K) (es : List (Event K)) : Page K := run (step canvases) {} es

theorem racingCurrent_pageAfter (canvases : Canvases K) (es : List (Event K)) :
    (pageAfter canvases es).RacingCurrent :=
  run_invariant_of_step (racingCurrent_step canvases) es rfl

theorem sent_pageAfter_concat (canvases : Canvases K) (es : List (Event K)) (data : Str) :
    (pageAfter canvases (es ++ [.message data])).sent = (pageAfter canvases es).sent ++
      if Page.isEntering (pageAfter canvases es) (pageAfter canvases (es ++ [.message data])) &&
        (pageAfter canvases es).lapsOfFuelCoords.autoButtonState then
      [(pageAfter canvases (es ++ [.message data])).pitSettings.message] else [] := by
  have hstep : pageAfter canvases (es ++ [.message data]) =
      (pageAfter canvases es).onWebSocketMessage data := run_append _ _ _ _
  rw [hstep]
  exact Page.sent_onWebSocketMessage _ data (racingCurrent_pageAfter canvases es)

/-- The message sends the settings. -/
def IsAutoSend (canvases : Canvases K) (es : List (Event K)) (data : Str) : Prop :=
  (pageAfter canvases (es ++ [.message data])).sent ≠ (pageAfter canvases es).sent

theorem isAutoSend_iff (canvases : Canvases K) (es : List (Event K)) (data : Str) :
    IsAutoSend canvases es data ↔
      Page.isEntering (pageAfter canvases es) (pageAfter canvases (es ++ [.message data])) = true ∧
      (pageAfter canvases es).lapsOfFuelCoords.autoButtonState = true := by
  rw [IsAutoSend, sent_pageAfter_concat, ← Bool.and_eq_true]
  split
  · rename_i h
    simp [h]
  · rename_i h
    simp [h]

theorem isRacing_of_isAutoSend {canvases : Canvases K} {es : List (Event K)} {data : Str}
    (h : IsAutoSend canvases es data) :
    (pageAfter canvases es).isRacing = true ∧
      (pageAfter canvases (es ++ [.message data])).isRacing = false := by
  have hentering := ((isAutoSend_iff canvases es data).mp h).1
  simp only [Page.isEntering, Bool.and_eq_true] at hentering
  exact ⟨hentering.1.1, Page.isRacing_of_isOnPitRoad hentering.1.2⟩

/-- Back on the track, by a message. -/
theorem exists_racing_message {canvases : Canvases K} {s : Page K} {fs : List (Event K)}
    (hs : s.isRacing = false) (h : (run (step canvases) s fs).isRacing = true) :
    ∃ gs data, gs ++ [.message data] <+: fs ∧
      (run (step canvases) s (gs ++ [.message data])).isRacing = true := by
  obtain ⟨gs, e, hprefix, hbefore, hafter⟩ :=
    exists_step_of_run (P := fun t : Page K => t.isRacing = true) fs (by simp [hs]) h
  by_cases hmessage : IsMessage e
  · cases e with
    | message data => exact ⟨gs, data, hprefix, hafter⟩
    | _ => exact absurd hmessage id
  · rw [run_append, run_cons, run_nil, Page.isRacing_congr (carSide_step canvases _ e hmessage)] at hafter
    exact absurd hafter hbefore

theorem sent_of_not_racing (canvases : Canvases K) (es : List (Event K)) (messages : List Str)
    (h : ∀ ms m, ms ++ [m] <+: messages →
      (pageAfter canvases (es ++ ms.map .message)).isRacing = false) :
    (pageAfter canvases (es ++ messages.map .message)).sent = (pageAfter canvases es).sent := by
  induction messages using List.reverseRecOn with
  | nil => simp
  | append_singleton messages m ih =>
    have hbefore := h messages m List.prefix_rfl
    have hkept := ih fun ms d hd => h ms d (hd.trans (List.prefix_append messages [m]))
    rw [List.map_append, List.map_singleton, ← List.append_assoc, sent_pageAfter_concat,
      Page.isEntering, hbefore, hkept]
    simp

/-- **Auto apply.** In every run of the page, with Auto on a message sends the settings once if the
car drives into the pit lane with it, and otherwise not at all. Between two sends some message
brings the car back on the track and off pit road. While none does, nothing is sent. -/
theorem auto_apply_once (canvases : Canvases K) (es : List (Event K)) :
    (∀ data, (pageAfter canvases es).lapsOfFuelCoords.autoButtonState = true →
      (pageAfter canvases (es ++ [.message data])).sent = (pageAfter canvases es).sent ++
        if Page.isEntering (pageAfter canvases es) (pageAfter canvases (es ++ [.message data])) then
          [(pageAfter canvases (es ++ [.message data])).pitSettings.message]
        else []) ∧
    (∀ data fs data', IsAutoSend canvases es data →
      IsAutoSend canvases (es ++ .message data :: fs) data' →
      ∃ gs m, gs ++ [.message m] <+: fs ∧
        (pageAfter canvases (es ++ .message data :: (gs ++ [.message m]))).isRacing = true) ∧
    (∀ messages : List Str,
      (∀ ms m, ms ++ [m] <+: messages →
        (pageAfter canvases (es ++ ms.map .message)).isRacing = false) →
      (pageAfter canvases (es ++ messages.map .message)).sent = (pageAfter canvases es).sent) := by
  refine ⟨?_, ?_, sent_of_not_racing canvases es⟩
  · intro data hauto
    rw [sent_pageAfter_concat, hauto, Bool.and_true]
  · intro data fs data' hfirst hsecond
    have hsplit (gs : List (Event K)) : pageAfter canvases (es ++ .message data :: gs) =
        run (step canvases) (pageAfter canvases (es ++ [.message data])) gs := by
      rw [pageAfter, pageAfter, ← run_append, List.append_assoc, List.singleton_append]
    have hroad := (isRacing_of_isAutoSend hfirst).2
    have hback := (isRacing_of_isAutoSend hsecond).1
    rw [hsplit] at hback
    obtain ⟨gs, m, hprefix, hracing⟩ := exists_racing_message hroad hback
    exact ⟨gs, m, hprefix, by rw [hsplit]; exact hracing⟩

/-- Off pit road, into it at 20 and then slower: the settings are sent once. -/
example : (pageAfter (K := ℚ) ⟨⟨400, 600⟩, ⟨400, 600⟩, ⟨400, 600⟩⟩
    [.message (dataPortion [("IsOnTrack".toList, ['1'])]),
     .message (dataPortion [("OnPitRoad".toList, ['1']), ("Speed".toList, "20".toList)]),
     .message (dataPortion [("Speed".toList, "18".toList)])]).sent.length = 1 := by decide +kernel

end IrPitCrew.Client
