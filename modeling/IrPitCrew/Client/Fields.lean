import IrPitCrew.Client.DisplayStrings
import IrPitCrew.Client.FuelDrawing

/-!
# UpdateFields: the elements of the page that are text

`UpdateFields_Update` writes an element when one of its values has its flag
raised. The flag of the fuel units is not among those that it looks at, and a first
value that is rounded to 0 raises none.
-/

open IrPitCrew.Text IrPitCrew.Rounding IrPitCrew.ParseData IrPitCrew.Run
open IrPitCrew.Client.ServerData

namespace IrPitCrew.Client

variable {K : Type*} [Field K]

/-! ## The elements -/

/-- The three elements of the optional pit, their texts and colors. -/
structure PitAvailable where
  label : Str := []
  labelColor : Str := []
  text : Str := []
  color : Str := []
  label2 : Str := []
  label2Color : Str := []
  deriving DecidableEq

/-- The elements, as the html has them at first. The track name is left out. -/
structure Fields where
  remainingTime : Str := "--:--:--".toList
  remainingTimeColor : Str := []
  remainingLapsMin : Str := "---".toList
  remainingLapsSeparator : Str := []
  remainingLapsMax : Str := []
  estimatedLapTime : Str := []
  lfColdPressure : Str := []
  rfColdPressure : Str := []
  lrColdPressure : Str := []
  rrColdPressure : Str := []
  estimatedLapFuel : Str := []
  lapsOfFuel2 : Str := "---".toList
  timeOnFuel : Str := "---".toList
  pitAvailable : PitAvailable := {}
  fuelRequiredTags : Str := []
  deriving DecidableEq

variable [LinearOrder K] [FloorRing K]

/-! ## UpdateFields_Update -/

def lowTimeRemaining : K := 60 * 5

/-- Blue for the last five minutes. -/
def remainingTimeColor (remainingTimeVal : K) : Str :=
  if remainingTimeVal < lowTimeRemaining ∧ remainingTimeVal ≥ 0 then "rgb(20,130,220)".toList else []

def timeOnFuel (lapsOfFuelVal estimatedLapTimeVal : K) : Str :=
  createTimeString .exact (lapsOfFuelVal * estimatedLapTimeVal)

/-- Below zero two colors stay, of texts that are empty. -/
def updatePitAvailable (pitAvailableVal : K) (p : PitAvailable) : PitAvailable :=
  let p := { p with label := "- pit optional ".toList }
  if pitAvailableVal = 0 then
    { p with
      labelColor := "rgb(20,220,20)".toList
      text := "now".toList
      color := "rgb(220,220,20)".toList
      label2 := " ".toList
      label2Color := "grey".toList }
  else if pitAvailableVal > 0 then
    { p with
      labelColor := "rgb(20,220,20)".toList
      text := toFixed 1 pitAvailableVal
      color := "rgb(220,220,20)".toList
      label2 := " laps ".toList
      label2Color := "rgb(20,220,20)".toList }
  else { p with labelColor := "grey".toList, text := [], label2 := [] }

def fuelRequiredTags (fuelLevelVal lapsOfFuelVal fuelRequiredVal : K) : Str :=
  let isEnoughFuel := isEnoughFuel .enough fuelLevelVal fuelRequiredVal lapsOfFuelVal
  let pitRequiredStart := if isEnoughFuel then [] else "<span style='color:rgb(20,220,20)'>".toList
  -- The "in" before a number of laps is written over.
  let pitRequiredEnd := if isEnoughFuel then [] else " </span>".toList
  -- Low or not, the laps are yellow.
  let lapsOfFuelStr :=
    if isEnoughFuel then []
    else "<span style='color:rgb(220,220,20)'>".toList ++
      (if lapsOfFuelVal > 0 then
        toFixed 1 lapsOfFuelVal ++ "</span>".toList ++ "<span style='color:rgb(20,220,20)'> laps".toList
      else "now!".toList) ++ "</span>".toList
  "<span style='color:grey'>".toList ++ " - ".toList ++ pitRequiredStart ++ "pit required".toList ++
    pitRequiredEnd ++ lapsOfFuelStr ++ " - ".toList ++ "</span>".toList

def updateFields (d : ServerData K) (f : Fields) : Fields :=
  let isLapsUpdated := d.remainingLapsMin.updated || d.remainingLapsMax.updated
  -- The maximum is shown when it is another one than the minimum.
  let isRange := d.remainingLapsMin.val ≠ d.remainingLapsMax.val
  let isTimeOnFuelUpdated := d.lapsOfFuel.updated || d.estimatedLapTime.updated
  let isTagsUpdated := d.fuelLevel.updated || d.lapsOfFuel.updated || d.fuelRequired.updated
  { remainingTime := if d.remainingTime.updated then d.remainingTime.str else f.remainingTime
    remainingTimeColor :=
      if d.remainingTime.updated then remainingTimeColor d.remainingTime.val else f.remainingTimeColor
    remainingLapsMin := if isLapsUpdated then d.remainingLapsMin.str else f.remainingLapsMin
    remainingLapsSeparator :=
      if isLapsUpdated then (if isRange then " - ".toList else []) else f.remainingLapsSeparator
    remainingLapsMax :=
      if isLapsUpdated then (if isRange then d.remainingLapsMax.str else []) else f.remainingLapsMax
    estimatedLapTime :=
      if d.estimatedLapTime.updated then d.estimatedLapTime.str else f.estimatedLapTime
    lfColdPressure := if d.pressureLF.updated then d.pressureLF.str else f.lfColdPressure
    rfColdPressure := if d.pressureRF.updated then d.pressureRF.str else f.rfColdPressure
    lrColdPressure := if d.pressureLR.updated then d.pressureLR.str else f.lrColdPressure
    rrColdPressure := if d.pressureRR.updated then d.pressureRR.str else f.rrColdPressure
    estimatedLapFuel :=
      if d.estimatedLapFuel.updated then
        d.estimatedLapFuel.str ++ " ".toList ++ d.fuelDisplayUnits.str
      else f.estimatedLapFuel
    lapsOfFuel2 := if d.lapsOfFuel.updated then d.lapsOfFuel.str ++ " laps".toList else f.lapsOfFuel2
    timeOnFuel :=
      if isTimeOnFuelUpdated then timeOnFuel d.lapsOfFuel.val d.estimatedLapTime.val else f.timeOnFuel
    pitAvailable :=
      if d.pitAvailable.updated ∨ f.pitAvailable.label = [] then
        updatePitAvailable d.pitAvailable.val f.pitAvailable
      else f.pitAvailable
    fuelRequiredTags :=
      if isTagsUpdated then fuelRequiredTags d.fuelLevel.val d.lapsOfFuel.val d.fuelRequired.val
      else f.fuelRequiredTags }

/-! ## Parts that are written together -/

inductive Part
  | remainingTime | remainingLaps | estimatedLapTime | pressureLF | pressureRF | pressureLR | pressureRR
  | estimatedLapFuel | lapsOfFuel2 | timeOnFuel | fuelRequiredTags
  deriving DecidableEq

namespace Part

/-- The values whose flags call for the part. -/
def gates : Part → List Display
  | remainingTime => [.remainingTime]
  | remainingLaps => [.remainingLapsMin, .remainingLapsMax]
  | estimatedLapTime => [.estimatedLapTime]
  | pressureLF => [.pressureLF]
  | pressureRF => [.pressureRF]
  | pressureLR => [.pressureLR]
  | pressureRR => [.pressureRR]
  | estimatedLapFuel => [.estimatedLapFuel]
  | lapsOfFuel2 => [.lapsOfFuel]
  | timeOnFuel => [.lapsOfFuel, .estimatedLapTime]
  | fuelRequiredTags => [.fuelLevel, .lapsOfFuel, .fuelRequired]

def written (f : Fields) : Part → List Str
  | remainingTime => [f.remainingTime, f.remainingTimeColor]
  | remainingLaps => [f.remainingLapsMin, f.remainingLapsSeparator, f.remainingLapsMax]
  | estimatedLapTime => [f.estimatedLapTime]
  | pressureLF => [f.lfColdPressure]
  | pressureRF => [f.rfColdPressure]
  | pressureLR => [f.lrColdPressure]
  | pressureRR => [f.rrColdPressure]
  | estimatedLapFuel => [f.estimatedLapFuel]
  | lapsOfFuel2 => [f.lapsOfFuel2]
  | timeOnFuel => [f.timeOnFuel]
  | fuelRequiredTags => [f.fuelRequiredTags]

/-- What the part is to show. -/
def view (d : ServerData K) : Part → List Str
  | remainingTime => [d.remainingTime.str, remainingTimeColor d.remainingTime.val]
  | remainingLaps =>
    if d.remainingLapsMin.val ≠ d.remainingLapsMax.val then
      [d.remainingLapsMin.str, " - ".toList, d.remainingLapsMax.str]
    else [d.remainingLapsMin.str, [], []]
  | estimatedLapTime => [d.estimatedLapTime.str]
  | pressureLF => [d.pressureLF.str]
  | pressureRF => [d.pressureRF.str]
  | pressureLR => [d.pressureLR.str]
  | pressureRR => [d.pressureRR.str]
  | estimatedLapFuel => [d.estimatedLapFuel.str ++ " ".toList ++ d.fuelDisplayUnits.str]
  | lapsOfFuel2 => [d.lapsOfFuel.str ++ " laps".toList]
  | timeOnFuel => [Client.timeOnFuel d.lapsOfFuel.val d.estimatedLapTime.val]
  | fuelRequiredTags =>
    [Client.fuelRequiredTags d.fuelLevel.val d.lapsOfFuel.val d.fuelRequired.val]

def isUpdated (d : ServerData K) (x : Part) : Bool := x.gates.any fun y => (y.field d).updated

/-- One of the values was received. -/
def IsReceived (received : Display → Bool) (x : Part) : Prop := ∃ y ∈ x.gates, received y = true

instance (received : Display → Bool) (x : Part) : Decidable (x.IsReceived received) :=
  inferInstanceAs (Decidable (∃ y ∈ x.gates, received y = true))

/-- The html has what the part shows of a value that is 0 from the start. -/
def IsBlank : Part → Prop
  | estimatedLapTime | pressureLF | pressureRF | pressureLR | pressureRR => True
  | _ => False

theorem written_updateFields (d : ServerData K) (f : Fields) (x : Part) :
    x.written (updateFields d f) = if x.isUpdated d then x.view d else x.written f := by
  cases x with
  | remainingLaps =>
    simp only [written, updateFields, isUpdated, gates, view, List.any_cons, List.any_nil,
      Bool.or_false, Display.field]
    split
    · split <;> rfl
    · rfl
  | _ =>
    simp only [written, updateFields, isUpdated, gates, view, List.any_cons, List.any_nil,
      Bool.or_false, Bool.or_assoc, Display.field]
    split <;> rfl

end Part

/-- The texts of the optional pit that are not empty, with their colors. -/
def PitAvailable.shown (p : PitAvailable) : List (Str × Str) :=
  [(p.label, p.labelColor), (p.text, p.color), (p.label2, p.label2Color)].filter (·.1 ≠ [])

def pitView (pitAvailableVal : K) : List (Str × Str) :=
  if pitAvailableVal = 0 then
    [("- pit optional ".toList, "rgb(20,220,20)".toList), ("now".toList, "rgb(220,220,20)".toList),
     (" ".toList, "grey".toList)]
  else if pitAvailableVal > 0 then
    [("- pit optional ".toList, "rgb(20,220,20)".toList),
     (toFixed 1 pitAvailableVal, "rgb(220,220,20)".toList), (" laps ".toList, "rgb(20,220,20)".toList)]
  else [("- pit optional ".toList, "grey".toList)]

/-- The texts before do not matter. -/
theorem shown_updatePitAvailable (pitAvailableVal : K) (p : PitAvailable) :
    (updatePitAvailable pitAvailableVal p).shown = pitView pitAvailableVal := by
  unfold updatePitAvailable pitView
  dsimp only
  split
  · rfl
  · split
    · simp [PitAvailable.shown, toFixed_ne_nil]
    · rfl

theorem shown_ne_nil {p : PitAvailable} (h : p.label ≠ []) : p.shown ≠ [] := by
  simp [PitAvailable.shown, List.filter_cons, h]

/-! ## One message -/

omit [LinearOrder K] [FloorRing K] in
theorem Display.updated_clearDataUpdated (d : ServerData K) (y : Display) :
    (y.field d.clearDataUpdated).updated = false := by
  cases y <;> rfl

/-- A flag comes with another value, of a tag that was received. -/
theorem Display.updated_receive_iff (d : ServerData K) (message : Str) (y : Display) :
    (y.field (d.receive .exact message)).updated = true ↔
      (y.field (d.receive .exact message)).val ≠ (y.field d).val := by
  rw [field_receive, NumberField.updated_receive_iff _ _ _ _ _ (y.updated_clearDataUpdated d),
    (y.field_clearDataUpdated d).2]

theorem Display.isSome_of_updated (d : ServerData K) (message : Str) (y : Display)
    (h : (y.field (d.receive .exact message)).updated = true) :
    (received .exact d message y).isSome = true := by
  by_contra hnone
  rw [Bool.not_eq_true, Option.isSome_eq_false_iff, Option.isNone_iff_eq_none] at hnone
  rw [field_receive, hnone] at h
  exact absurd h (by simp [NumberField.receive, y.updated_clearDataUpdated d])

theorem Display.receive_of_not_updated (d : ServerData K) (message : Str) (y : Display)
    (h : (y.field (d.receive .exact message)).updated = false) :
    (y.field (d.receive .exact message)).str = (y.field d).str ∧
      (y.field (d.receive .exact message)).val = (y.field d).val := by
  rw [field_receive] at h ⊢
  rw [NumberField.receive_of_not_updated _ _ _ _ _ h]
  exact y.field_clearDataUpdated d

namespace Part

/-- Two data that agree on the values of the part. -/
def Agree (x : Part) (d d' : ServerData K) : Prop :=
  ∀ y ∈ x.gates, (y.field d').str = (y.field d).str ∧ (y.field d').val = (y.field d).val

theorem agree_receive (d : ServerData K) (message : Str) (x : Part)
    (h : x.isUpdated (d.receive .exact message) = false) : x.Agree d (d.receive .exact message) := by
  intro y hy
  refine y.receive_of_not_updated d message ?_
  unfold isUpdated at h
  simpa using List.any_eq_false.mp h y hy

/-- The flags of the part, as the values that changed. -/
theorem isUpdated_receive_iff (d : ServerData K) (message : Str) (x : Part) :
    x.isUpdated (d.receive .exact message) = true ↔
      ∃ y ∈ x.gates, (y.field (d.receive .exact message)).val ≠ (y.field d).val := by
  simp only [isUpdated, List.any_eq_true, Display.updated_receive_iff]

theorem Agree.view_eq {x : Part} {d d' : ServerData K} (h : x.Agree d d')
    (hunits : x = .estimatedLapFuel → d'.fuelDisplayUnits.str = d.fuelDisplayUnits.str) :
    x.view d' = x.view d := by
  cases x with
  | estimatedLapFuel =>
    have hfuel := h .estimatedLapFuel (by simp [gates])
    simp only [Display.field] at hfuel
    simp only [view, hfuel, hunits rfl]
  | _ =>
    simp only [Agree, gates, List.forall_mem_cons, Display.field] at h
    simp only [view, h]

theorem view_estimatedLapFuel_eq_iff {d d' : ServerData K} (h : Agree .estimatedLapFuel d d') :
    estimatedLapFuel.view d = estimatedLapFuel.view d' ↔
      d'.fuelDisplayUnits.str = d.fuelDisplayUnits.str := by
  refine ⟨?_, fun hunits => (h.view_eq fun _ => hunits).symm⟩
  intro heq
  have hfuel := (h .estimatedLapFuel (by simp [gates])).1
  simp only [Display.field] at hfuel
  simp only [view, hfuel, List.cons.injEq, and_true, List.append_assoc, List.append_cancel_left_eq] at heq
  exact heq.symm

omit [LinearOrder K] [FloorRing K] in
theorem agree_of_clearDataUpdated_eq {d d' : ServerData K}
    (h : d'.clearDataUpdated = d.clearDataUpdated) (x : Part) : x.Agree d d' := by
  intro y _
  obtain ⟨hstr, hval⟩ := y.field_clearDataUpdated d
  obtain ⟨hstr', hval'⟩ := y.field_clearDataUpdated d'
  rw [h] at hstr' hval'
  exact ⟨hstr'.symm.trans hstr, hval'.symm.trans hval⟩

theorem createTimeString_ne_dashes (x : K) : createTimeString .exact x ≠ "---".toList := by
  unfold createTimeString
  split
  · intro h
    have hcolon : ':' ∈ "---".toList := by
      rw [← h]
      simp
    exact absurd hcolon (by decide)
  · decide

/-- Before its first value only a blank part shows what the html has. -/
theorem view_init_iff {x : Part} {d : ServerData K} (h : x.Agree {} d) :
    x.written {} = x.view d ↔ x.IsBlank := by
  cases x with
  | estimatedLapFuel => simp [IsBlank, written, view]
  | timeOnFuel =>
    have htime := createTimeString_ne_dashes (d.lapsOfFuel.val * d.estimatedLapTime.val)
    simp only [IsBlank, written, view, Client.timeOnFuel, List.cons.injEq, and_true, iff_false]
    exact htime.symm
  | fuelRequiredTags =>
    simp only [IsBlank, written, view, List.cons.injEq, and_true, iff_false]
    exact List.cons_ne_nil _ _ ∘ Eq.symm
  | remainingLaps =>
    simp only [Agree, gates, List.forall_mem_cons, Display.field] at h
    simp [IsBlank, written, view, h]
  | _ =>
    simp only [Agree, gates, List.forall_mem_cons, Display.field] at h
    simp [IsBlank, written, view, h]

end Part

/-! ## The page and its elements -/

structure Panel (K : Type*) [Field K] where
  page : Page K := {}
  fields : Fields := {}
  /-- History: a message with data came. -/
  isReceived : Bool := false
  /-- History: the tags that came with a value. -/
  received : Display → Bool := fun _ => false

namespace Panel

def receivedWith (p : Panel K) (messageData : Str) (y : Display) : Bool :=
  (Client.received .exact p.page.serverData messageData y).isSome || p.received y

def onWebSocketMessage (p : Panel K) (messageData : Str) : Panel K :=
  if messageData = Page.heartbeat then p
  else
    { page := p.page.onWebSocketMessage messageData
      fields := updateFields (Screen.receivedPage p.page messageData).serverData p.fields
      isReceived := true
      received := p.receivedWith messageData }

def step (canvases : Canvases K) (p : Panel K) : Event K → Panel K
  | .message data => p.onWebSocketMessage data
  | e => { p with page := Client.step canvases p.page e }

/-- This is a run of the page. -/
theorem page_step (canvases : Canvases K) (p : Panel K) (e : Event K) :
    (p.step canvases e).page = Client.step canvases p.page e := by
  cases e with
  | message data =>
    simp only [step, onWebSocketMessage, Client.step]
    split
    · rename_i hdata
      rw [hdata]
      exact (if_pos rfl).symm
    · rfl
  | _ => rfl

/-! ## What the elements are to show -/

/-- A part shows its values when one was received, and until then what the html has. -/
structure Current (p : Panel K) : Prop where
  parts (x : Part) : x.written p.fields =
    if x.IsReceived p.received then x.view p.page.serverData else x.written {}
  pit : p.fields.pitAvailable.shown =
    if p.isReceived then pitView p.page.serverData.pitAvailable.val else []

/-- The message changes a value of the part. -/
def Changes (p : Panel K) (data : Str) (x : Part) : Prop :=
  ∃ y ∈ x.gates, (y.field (p.page.serverData.receive .exact data)).val ≠ (y.field p.page.serverData).val

/-- The first message with a value of the part has one that is not rounded to 0, if the part is not
blank. Other units come with another lap fuel, or before the first one. -/
structure PartOk (p : Panel K) (data : Str) (x : Part) : Prop where
  first : ¬ x.IsBlank → ¬ x.IsReceived p.received → x.IsReceived (p.receivedWith data) → Changes p data x
  units : x = .estimatedLapFuel →
    (p.page.serverData.receive .exact data).fuelDisplayUnits.str ≠ p.page.serverData.fuelDisplayUnits.str →
    x.IsReceived p.received → Changes p data x

def EventOk (p : Panel K) : Event K → Prop
  | .message data => data ≠ Page.heartbeat → ∀ x, PartOk p data x
  | _ => True

/-- A value that was not received is the one of the start. -/
def Untouched (p : Panel K) : Prop :=
  ∀ y, p.received y = false →
    (y.field p.page.serverData).str = [] ∧ (y.field p.page.serverData).val = 0

/-! ## The values of the page -/

omit [LinearOrder K] [FloorRing K] in
theorem isOutsideButtons_values :
    Page.IsOutsideButtons fun s : Page K => s.serverData.clearDataUpdated :=
  ⟨fun _ _ _ _ _ _ _ _ _ => rfl⟩

omit [LinearOrder K] [FloorRing K] in
theorem isOutsideGauge_values :
    Page.IsOutsideGauge fun s : Page K => s.serverData.clearDataUpdated :=
  ⟨fun _ _ _ _ => rfl, fun _ => rfl⟩

theorem values_step (canvases : Canvases K) (s : Page K) (e : Event K)
    (h : ∀ data, e ≠ .message data) :
    (Client.step canvases s e).serverData.clearDataUpdated = s.serverData.clearDataUpdated := by
  cases e with
  | message data => exact absurd rfl (h data)
  | touchStartFuel e => exact isOutsideGauge_values.onTouchStartFuel s _ e
  | touchMoveFuel e => exact isOutsideGauge_values.onTouchMoveFuel s _ e
  | touchEndFuel e => exact isOutsideGauge_values.onTouchEndFuel s _ e
  | clickFuel e => exact isOutsideGauge_values.onClickFuelIndicator s _ e
  | _ => exact isOutsideButtons_values.step canvases s _ id

theorem values_message (s : Page K) (data : Str) (h : data ≠ Page.heartbeat) :
    (s.onWebSocketMessage data).serverData.clearDataUpdated =
      (s.serverData.receive .exact data).clearDataUpdated := by
  have hpage := Screen.view_onWebSocketMessage isOutsideButtons_values (fun _ => rfl) (fun _ => rfl)
    { page := s } data h
  rw [Screen.page_onWebSocketMessage] at hpage
  exact hpage.trans (isOutsideGauge_values.updateDependentData _)

/-! ## One event -/

/-- Only the flags differ, so the elements are as current as before. -/
theorem current_congr {p q : Panel K} (hfields : q.fields = p.fields)
    (hreceived : q.isReceived = p.isReceived) (htags : q.received = p.received)
    (hvalues : q.page.serverData.clearDataUpdated = p.page.serverData.clearDataUpdated) :
    q.Current ↔ p.Current := by
  have hview (x : Part) : x.view q.page.serverData = x.view p.page.serverData :=
    (Part.agree_of_clearDataUpdated_eq hvalues x).view_eq
      fun _ => congrArg (fun d => d.fuelDisplayUnits.str) hvalues
  have hpit : q.page.serverData.pitAvailable.val = p.page.serverData.pitAvailable.val :=
    congrArg (fun d => d.pitAvailable.val) hvalues
  constructor
  · intro h
    refine ⟨fun x => ?_, ?_⟩
    · simpa only [hfields, htags, hview] using h.parts x
    · simpa only [hfields, hreceived, hpit] using h.pit
  · intro h
    refine ⟨fun x => ?_, ?_⟩
    · simpa only [hfields, htags, hview] using h.parts x
    · simpa only [hfields, hreceived, hpit] using h.pit

theorem isReceived_receivedWith {p : Panel K} (data : Str) {x : Part} (h : x.IsReceived p.received) :
    x.IsReceived (p.receivedWith data) := by
  obtain ⟨y, hy, hreceived⟩ := h
  exact ⟨y, hy, by simp [receivedWith, hreceived]⟩

theorem isReceived_of_isUpdated {p : Panel K} {data : Str} {x : Part}
    (h : x.isUpdated (p.page.serverData.receive .exact data) = true) : x.IsReceived (p.receivedWith data) := by
  obtain ⟨y, hy, hupdated⟩ := List.any_eq_true.mp h
  exact ⟨y, hy, by simp [receivedWith, y.isSome_of_updated _ _ hupdated]⟩

omit [LinearOrder K] [FloorRing K] in
theorem Untouched.agree_init {p : Panel K} (h : Untouched p) {x : Part} (hx : ¬ x.IsReceived p.received) :
    x.Agree {} p.page.serverData := by
  intro y hy
  have hnot : p.received y = false := by
    rw [Bool.eq_false_iff]
    exact fun hreceived => hx ⟨y, hy, hreceived⟩
  obtain ⟨hstr, hval⟩ := h y hnot
  rw [hstr, hval]
  cases y <;> exact ⟨rfl, rfl⟩

theorem parts_receive_iff {p : Panel K} (hp : p.Current) (huntouched : Untouched p) (data : Str)
    (x : Part) :
    (x.written (updateFields (p.page.serverData.receive .exact data) p.fields) =
      if x.IsReceived (p.receivedWith data) then x.view (p.page.serverData.receive .exact data)
      else x.written {}) ↔ PartOk p data x := by
  rw [Part.written_updateFields]
  have hchanges : x.isUpdated (p.page.serverData.receive .exact data) = true ↔ Changes p data x :=
    x.isUpdated_receive_iff _ _
  cases hupdated : x.isUpdated (p.page.serverData.receive .exact data) with
  | true =>
    rw [if_pos rfl, if_pos (isReceived_of_isUpdated hupdated)]
    exact iff_of_true rfl ⟨fun _ _ _ => hchanges.mp hupdated, fun _ _ _ => hchanges.mp hupdated⟩
  | false =>
    have hsame : ¬ Changes p data x := fun h => absurd (hchanges.mpr h) (by simp [hupdated])
    have hagree := x.agree_receive _ _ hupdated
    simp only [Bool.false_eq_true, if_false, hp.parts x]
    by_cases hbefore : x.IsReceived p.received
    · -- It showed its values, which are the same but for the units.
      rw [if_pos hbefore, if_pos (isReceived_receivedWith data hbefore)]
      constructor
      · intro heq
        refine ⟨fun _ h => absurd hbefore h, ?_⟩
        rintro rfl hunits -
        exact absurd ((Part.view_estimatedLapFuel_eq_iff hagree).mp heq) hunits
      · intro hok
        refine (hagree.view_eq fun hx => ?_).symm
        by_contra hunits
        exact hsame (hok.units hx hunits hbefore)
    · rw [if_neg hbefore]
      by_cases hafter : x.IsReceived (p.receivedWith data)
      · have hinit : x.Agree {} (p.page.serverData.receive .exact data) := fun y hy =>
          ⟨(hagree y hy).1.trans (huntouched.agree_init hbefore y hy).1,
            (hagree y hy).2.trans (huntouched.agree_init hbefore y hy).2⟩
        rw [if_pos hafter, Part.view_init_iff hinit]
        constructor
        · intro hblank
          exact ⟨fun h => absurd hblank h, fun _ _ h => absurd h hbefore⟩
        · intro hok
          by_contra hblank
          exact hsame (hok.first hblank hbefore hafter)
      · rw [if_neg hafter]
        exact iff_of_true rfl ⟨fun _ _ h => absurd h hafter, fun _ _ h => absurd h hbefore⟩

theorem pit_receive {p : Panel K} (hp : p.Current) (data : Str) :
    (updateFields (p.page.serverData.receive .exact data) p.fields).pitAvailable.shown =
      pitView (p.page.serverData.receive .exact data).pitAvailable.val := by
  unfold updateFields
  dsimp only
  split
  · exact shown_updatePitAvailable _ _
  · rename_i hgate
    obtain ⟨hupdated, hlabel⟩ := not_or.mp hgate
    obtain ⟨-, hval⟩ := Display.receive_of_not_updated p.page.serverData data .pitAvailable
      (eq_false_of_ne_true hupdated)
    -- The label is there, so a message came before.
    have hpit := hp.pit
    split at hpit
    · rw [hpit]
      exact congrArg pitView hval.symm
    · exact absurd hpit (shown_ne_nil hlabel)

theorem step_of_not_message (canvases : Canvases K) (p : Panel K) (e : Event K)
    (h : ∀ data, e ≠ .message data) :
    p.step canvases e = { p with page := Client.step canvases p.page e } := by
  cases e with
  | message data => exact absurd rfl (h data)
  | _ => rfl

theorem Untouched.step {p : Panel K} (h : Untouched p) (canvases : Canvases K) (e : Event K) :
    Untouched (p.step canvases e) := by
  have hframe (s : Page K) (hs : s.serverData.clearDataUpdated = p.page.serverData.clearDataUpdated) :
      Untouched { p with page := s } := by
    intro y hy
    obtain ⟨hstr, hval⟩ := y.field_clearDataUpdated s.serverData
    obtain ⟨hstr', hval'⟩ := y.field_clearDataUpdated p.page.serverData
    rw [hs] at hstr hval
    rw [← hstr, ← hval, hstr', hval']
    exact h y hy
  by_cases hmessage : ∃ data, e = .message data
  · obtain ⟨data, rfl⟩ := hmessage
    simp only [Panel.step, onWebSocketMessage]
    split
    · exact h
    · rename_i hdata
      intro y hy
      simp only [receivedWith, Bool.or_eq_false_iff, Option.isSome_eq_false_iff,
        Option.isNone_iff_eq_none] at hy
      obtain ⟨hnone, hnot⟩ := hy
      have hvalues := values_message p.page data hdata
      obtain ⟨hstr, hval⟩ := y.field_clearDataUpdated (p.page.onWebSocketMessage data).serverData
      obtain ⟨hstr', hval'⟩ := y.field_clearDataUpdated (p.page.serverData.receive .exact data)
      rw [hvalues] at hstr hval
      dsimp only
      rw [← hstr, ← hval, hstr', hval', field_receive, hnone]
      obtain ⟨hold, hold'⟩ := y.field_clearDataUpdated p.page.serverData
      exact ⟨hold.trans (h y hnot).1, hold'.trans (h y hnot).2⟩
  · have hnot : ∀ data, e ≠ .message data := fun data he => hmessage ⟨data, he⟩
    rw [step_of_not_message canvases p e hnot]
    exact hframe _ (values_step canvases p.page e hnot)

theorem current_step_of_not_message {p : Panel K} (canvases : Canvases K) (e : Event K)
    (h : ∀ data, e ≠ .message data) (hp : p.Current) : (p.step canvases e).Current := by
  have hcongr : Current { p with page := Client.step canvases p.page e } ↔ p.Current :=
    current_congr rfl rfl rfl (values_step canvases p.page e h)
  rw [step_of_not_message canvases p e h]
  exact hcongr.mpr hp

theorem current_step_iff (canvases : Canvases K) (p : Panel K) (e : Event K)
    (hp : p.Current ∧ Untouched p) : (p.step canvases e).Current ↔ EventOk p e := by
  cases e with
  | message data =>
    by_cases hdata : data = Page.heartbeat
    · simp only [step, onWebSocketMessage, EventOk, hdata, if_true, ne_eq,
        not_true_eq_false, false_implies, iff_true]
      exact hp.1
    · have hserver : (Screen.receivedPage p.page data).serverData = p.page.serverData.receive .exact data :=
        Page.serverData_updateDependentData _
      -- The page when the elements are written has the values of the page after the message.
      have hcongr : (p.onWebSocketMessage data).Current ↔
          Current { page := { p.page with serverData := p.page.serverData.receive .exact data }
                    fields := updateFields (p.page.serverData.receive .exact data) p.fields
                    isReceived := true
                    received := p.receivedWith data } := by
        rw [onWebSocketMessage, if_neg hdata, hserver]
        exact current_congr rfl rfl rfl (values_message p.page data hdata)
      simp only [step, hcongr, EventOk]
      constructor
      · intro h _ x
        exact (parts_receive_iff hp.1 hp.2 data x).mp (h.parts x)
      · intro h
        exact ⟨fun x => (parts_receive_iff hp.1 hp.2 data x).mpr (h hdata x), pit_receive hp.1 data⟩
  | _ => exact iff_of_true (current_step_of_not_message canvases _ (by simp) hp.1) trivial

theorem current_init : Current ({} : Panel K) := by
  refine ⟨fun x => ?_, rfl⟩
  rw [if_neg]
  rintro ⟨y, -, hy⟩
  exact absurd hy (by simp)

/-- The car's 2.5 litres a lap, and then the units of another setting alone. -/
def litresThenGallons : List (Event ℚ) :=
  [.message (dataPortion [("FuelDisplayUnits".toList, ['L']), ("estimatedLapFuel".toList, "2.5".toList)]),
   .message (dataPortion [("FuelDisplayUnits".toList, "gal".toList)])]

example : (run (step Screen.drawingCanvases) {} litresThenGallons).fields.estimatedLapFuel =
    "2.50 L".toList := by decide +kernel

/-- An empty tank, as the first thing that is known of the fuel. -/
example : (run (step (K := ℚ) Screen.drawingCanvases) {}
    [.message (dataPortion [("LapsOfFuel".toList, "0".toList)])]).fields.lapsOfFuel2 = "---".toList := by
  decide +kernel

end Panel

end IrPitCrew.Client
