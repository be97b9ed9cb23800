import IrPitCrew.Plugin.RemainingLaps

/-!
# Pit commands and connects

The client's message waits in the shared data until a tick takes it. A connect
may change the display units, and leaves the message where it is.
-/

open IrPitCrew.Text IrPitCrew.WebServer IrPitCrew.Run IrPitCrew.Plugin
open IrPitCrew.Config (settingLine strDisplayFuelImperial)

namespace IrPitCrew.PitSession

variable {K : Type*} [Field K] [LinearOrder K] [FloorRing K]

/-! ## The system -/

/-- The main loop and the data it shares with the server. The last three are history: the factor in
force and the number of connects when the message was stored, and the connects until now. -/
structure System (K : Type*) [Field K] where
  loop : Loop K
  sharedData : SharedData
  storedFactor : K
  storedSession : Nat
  sessions : Nat

inductive Event where
  /-- `LWS_CALLBACK_RECEIVE`. -/
  | receive (input : Str)
  | editConfig (file : Option Str)
  /-- One iteration of the main loop. -/
  | dataReady (f : Frame)
  | notConnected

namespace System

def init (l : Loop K) : System K := ⟨l, {}, l.settings.gFuelDisplayConversionFactor, 0, 0⟩

/-- The callback hands the input to the main loop. -/
def isStored (input : Str) : Bool :=
  input ≠ [] ∧ input.takeWhile (· ≠ '\x00') ≠ heartbeat

def receive (s : System K) (input : Str) : System K :=
  let w := (callbackIracingData { sharedData := s.sharedData } (.receive input)).1
  let s : System K := { s with sharedData := w.sharedData }
  if isStored input then
    { s with
      storedFactor := s.loop.settings.gFuelDisplayConversionFactor
      storedSession := s.sessions }
  else s

def connect (s : System K) (f : Frame) : System K :=
  { s with
    loop := (s.loop.connect f).1
    sharedData := s.sharedData.setData .empty
    sessions := s.sessions + 1 }

/-- The frame with the message that the tick takes. -/
def tickFrame (s : System K) (f : Frame) : Frame :=
  { f with fuelMessage := s.sharedData.getFuelMessage.1 }

def tick (s : System K) (f : Frame) : System K :=
  let l := (s.loop.tick (s.tickFrame f)).1
  let v := tickValues s.loop.extraLapsOfFuel s.loop.settings l.session (s.tickFrame f)
  { s with loop := l, sharedData := (s.sharedData.setData v.dataStrMap).getFuelMessage.2 }

end System

def step (s : System K) : Event → System K
  | .receive input => s.receive input
  | .editConfig file => { s with loop := after s.loop (.editConfig file) }
  | .dataReady f => if s.loop.session.isConnect f then s.connect f else s.tick f
  | .notConnected => { s with loop := after s.loop .notConnected }

/-- The message that the event executes, and the factor that its amount is converted with. -/
def executed (s : System K) : Event → Option (Str × K)
  | .dataReady f =>
    if s.loop.session.isConnect f ∨ s.sharedData.fuelMessage = [] then none
    else some (s.sharedData.fuelMessage, s.loop.settings.gFuelDisplayConversionFactor)
  | _ => none

/-- These are the steps of the main loop, and the commands of a tick are those of the message. -/
theorem step_dataReady (s : System K) (f : Frame) :
    (step s (.dataReady f)).loop = after s.loop (.dataReady (s.tickFrame f)) ∧
    ∀ v, (Plugin.step s.loop (.dataReady (s.tickFrame f))).2 = .ticked v →
      v.commands = match executed s (.dataReady f) with
        | none => []
        | some (message, factor) =>
          handlePitCommandMessage .exact factor s.loop.settings.gIsSkipClearOnApply message := by
  have hframe : s.loop.session.isConnect (s.tickFrame f) = s.loop.session.isConnect f := rfl
  unfold after step executed
  dsimp only
  rcases step_cases s.loop (s.tickFrame f) with ⟨hconnect, heq⟩ | ⟨htick, heq⟩
  · rw [hframe] at hconnect
    rw [heq, if_pos hconnect]
    refine ⟨rfl, ?_⟩
    intro v hv
    simp [Loop.connect] at hv
  · rw [hframe] at htick
    rw [heq, htick]
    refine ⟨rfl, ?_⟩
    intro v hv
    simp only [Loop.tick, Outcome.ticked.injEq] at hv
    rw [← hv]
    by_cases hmessage : s.sharedData.fuelMessage = []
    · have hnone : (s.tickFrame f).fuelMessage = [] := hmessage
      simp only [hmessage, or_true, if_true]
      rw [tickValues, hnone]
      rfl
    · simp only [hmessage, Bool.false_eq_true, or_self, if_false]
      rfl

/-! ## History -/

/-- The history is not ahead, and in one session there is one factor. -/
structure HistoryOk (s : System K) : Prop where
  le : s.storedSession ≤ s.sessions
  factor : s.storedSession = s.sessions → s.storedFactor = s.loop.settings.gFuelDisplayConversionFactor

theorem historyOk_step (s : System K) (e : Event) (hs : HistoryOk s) : HistoryOk (step s e) := by
  cases e with
  | receive input =>
    unfold step System.receive
    dsimp only
    split
    · exact ⟨le_rfl, fun _ => rfl⟩
    · exact ⟨hs.le, hs.factor⟩
  | editConfig file => exact ⟨hs.le, hs.factor⟩
  | dataReady f =>
    unfold step
    dsimp only
    split
    · have hle := hs.le
      refine ⟨hle.trans (Nat.le_succ _), ?_⟩
      intro heq
      simp only [System.connect] at heq
      omega
    · exact ⟨hs.le, hs.factor⟩
  | notConnected => exact ⟨hs.le, hs.factor⟩

/-! ## The property and its condition -/

/-- What the event executes was stored in this session, and is converted with its factor. -/
def ExecutedInSession (s : System K) (e : Event) : Prop :=
  ∀ message factor, executed s e = some (message, factor) →
    s.storedFactor = factor ∧ s.storedSession = s.sessions

def IsConnect (s : System K) : Event → Prop
  | .dataReady f => s.loop.session.isConnect f = true
  | _ => False

def IsTick (s : System K) : Event → Prop
  | .dataReady f => s.loop.session.isConnect f = false
  | _ => False

/-- The client stores a message, or a tick takes the one that waits. -/
def WritesMessage (s : System K) : Event → Prop
  | .receive input => System.isStored input = true
  | e => IsTick s e

def WaitsAtConnect (s : System K) (e : Event) : Prop :=
  IsConnect s e ∧ s.sharedData.fuelMessage ≠ []

/-- At no tick has a message waited since a connect. -/
def NoneWaits (s : System K) (es : List Event) : Prop :=
  ∀ fs e, fs ++ [e] <+: es → IsTick (run step s fs) e → ¬ Since step WaitsAtConnect WritesMessage s fs

/-- Other events leave the slot and its history alone. -/
theorem step_of_not_writes (s : System K) (e : Event) (h : ¬ WritesMessage s e) :
    (step s e).sharedData.fuelMessage = s.sharedData.fuelMessage ∧
    (step s e).storedSession = s.storedSession ∧
    (¬ IsConnect s e → (step s e).sessions = s.sessions) := by
  cases e with
  | receive input =>
    have hnot : System.isStored input = false := by simpa [WritesMessage] using h
    unfold step System.receive
    dsimp only
    rw [hnot]
    refine ⟨?_, rfl, fun _ => rfl⟩
    by_cases hempty : input = []
    · simp [callbackIracingData, hempty]
    · have hbeat : input.takeWhile (· ≠ '\x00') = heartbeat := by
        simpa [System.isStored, hempty] using hnot
      simp only [callbackIracingData, hempty, if_false, hbeat, if_true, Bool.false_eq_true]
  | editConfig file => exact ⟨rfl, rfl, fun _ => rfl⟩
  | dataReady f =>
    have hconnect : s.loop.session.isConnect f = true := by simpa [WritesMessage, IsTick] using h
    unfold step
    dsimp only
    rw [if_pos hconnect]
    exact ⟨rfl, rfl, fun hno => absurd hconnect hno⟩
  | notConnected => exact ⟨rfl, rfl, fun _ => rfl⟩

theorem step_of_connect (s : System K) (e : Event) (h : IsConnect s e) :
    (step s e).sharedData.fuelMessage = s.sharedData.fuelMessage ∧
    (step s e).storedSession = s.storedSession ∧ (step s e).sessions = s.sessions + 1 := by
  cases e with
  | dataReady f =>
    have hconnect : s.loop.session.isConnect f = true := h
    unfold step
    dsimp only
    rw [if_pos hconnect]
    exact ⟨rfl, rfl, rfl⟩
  | receive | editConfig | notConnected => exact h.elim

/-- After a connect the header has the size that the loop knows. -/
theorem isTick_of_isConnect (s : System K) (f : Frame) (h : s.loop.session.isConnect f = true) :
    IsTick (step s (.dataReady f)) (.dataReady f) := by
  unfold step
  dsimp only
  rw [if_pos h]
  exact (s.loop.session.isConnect_connect f f).trans (by simp)

/-- What waits after a step that writes the slot was stored in this session. -/
theorem step_of_writes (s : System K) (e : Event) (h : WritesMessage s e)
    (hne : (step s e).sharedData.fuelMessage ≠ []) : (step s e).storedSession = (step s e).sessions := by
  cases e with
  | receive input =>
    have hstored : System.isStored input = true := h
    unfold step System.receive
    dsimp only
    rw [hstored]
    rfl
  | dataReady f =>
    have htick : s.loop.session.isConnect f = false := h
    unfold step at hne
    dsimp only at hne
    rw [htick] at hne
    exact absurd rfl hne
  | editConfig | notConnected => exact h.elim

omit [LinearOrder K] [FloorRing K] in
theorem historyOk_init (l : Loop K) : HistoryOk (.init l) := ⟨le_rfl, fun _ => rfl⟩

/-- A message of an earlier session waits. -/
def IsOlder (s : System K) : Prop := s.sharedData.fuelMessage ≠ [] ∧ s.storedSession ≠ s.sessions

theorem isOlder_iff (l : Loop K) (es : List Event) :
    IsOlder (run step (.init l) es) ↔ Since step WaitsAtConnect WritesMessage (.init l) es := by
  apply run_iff_since historyOk_step _ _ _ es (historyOk_init l)
  · exact fun h => h.2 rfl
  · rintro s e hs ⟨hconnect, hne⟩
    obtain ⟨hmessage, hstored, hsessions⟩ := step_of_connect s e hconnect
    have hle := hs.le
    refine ⟨by rwa [hmessage], ?_⟩
    omega
  · rintro s e - hwrites ⟨hne, hold⟩
    exact hold (step_of_writes s e hwrites hne)
  · intro s e _ hwaits hwrites
    obtain ⟨hmessage, hstored, hsessions⟩ := step_of_not_writes s e hwrites
    unfold IsOlder
    rw [hmessage]
    refine and_congr_right fun hne => ?_
    have hno : ¬ IsConnect s e := fun hconnect => hwaits ⟨hconnect, hne⟩
    rw [hstored, hsessions hno]

omit [LinearOrder K] [FloorRing K] in
/-- What a tick executes waited in the slot. -/
theorem executed_eq_some {s : System K} {e : Event} {message : Str} {factor : K}
    (h : executed s e = some (message, factor)) :
    IsTick s e ∧ s.sharedData.fuelMessage ≠ [] ∧
      s.loop.settings.gFuelDisplayConversionFactor = factor := by
  cases e with
  | dataReady f =>
    unfold executed at h
    dsimp only at h
    split at h
    · exact absurd h (by simp)
    · rename_i hnot
      obtain ⟨hconnect, hne⟩ := not_or.mp hnot
      exact ⟨eq_false_of_ne_true hconnect, hne, congrArg Prod.snd (Option.some.inj h)⟩
  | receive | editConfig | notConnected => cases h

omit [LinearOrder K] [FloorRing K] in
theorem executed_of_isTick {s : System K} {e : Event} (h : IsTick s e)
    (hne : s.sharedData.fuelMessage ≠ []) :
    executed s e = some (s.sharedData.fuelMessage, s.loop.settings.gFuelDisplayConversionFactor) := by
  cases e with
  | dataReady f =>
    have htick : s.loop.session.isConnect f = false := h
    unfold executed
    dsimp only
    rw [if_neg (by simp [htick, hne])]
  | receive | editConfig | notConnected => exact h.elim

/-- **No message crosses a connect** in exactly the runs where none waits at one. -/
theorem none_crosses_iff (l : Loop K) (es : List Event) :
    (∀ fs e, fs ++ [e] <+: es → ExecutedInSession (run step (.init l) fs) e) ↔
      NoneWaits (.init l) es := by
  constructor
  · intro h fs e hpre htick hsince
    obtain ⟨hne, hold⟩ := (isOlder_iff l fs).mpr hsince
    exact hold (h fs e hpre _ _ (executed_of_isTick htick hne)).2
  · intro h fs e hpre message factor hexecuted
    obtain ⟨htick, hne, rfl⟩ := executed_eq_some hexecuted
    have hhistory : HistoryOk (run step (.init l) fs) :=
      run_invariant_of_step historyOk_step fs (historyOk_init l)
    by_cases heq : (run step (.init l) fs).storedSession = (run step (.init l) fs).sessions
    · exact ⟨hhistory.factor heq, heq⟩
    · -- The message is older than the session, so it waited at a connect.
      exact absurd ((isOlder_iff l fs).mp ⟨hne, heq⟩) (h fs e hpre htick)

/-! ## Litres in the first session, gallons in the second -/

def startedSystem : System ℚ := .init ((start none {}).get isSome_start)

def litresMessage : Str := "\nFuel;10\n".toList

/-- Connected, the client applies 10 litres, and the sim is left and joined before a tick. -/
def crossingEvents : List Event :=
  [.editConfig (some (settingLine strDisplayFuelImperial ['0'])), .dataReady practiceFrame,
   .receive litresMessage,
   .editConfig (some (settingLine strDisplayFuelImperial ['1'])), .notConnected,
   .dataReady practiceFrame]

theorem litres_executed_as_gallons :
    executed (run step startedSystem crossingEvents) (.dataReady practiceFrame) =
      some (litresMessage, 264151 / 1000000) ∧
    (run step startedSystem crossingEvents).storedFactor = 1 ∧
    handlePitCommandMessage .exact (264151 / 1000000 : ℚ) false litresMessage ≠
      handlePitCommandMessage .exact (1 : ℚ) false litresMessage ∧
    ¬ ExecutedInSession (run step startedSystem crossingEvents) (.dataReady practiceFrame) := by
  have htick : IsTick (run step startedSystem crossingEvents) (.dataReady practiceFrame) := by
    simp only [crossingEvents, run_cons, run_nil]
    apply isTick_of_isConnect
    apply Session.isConnect_notConnected
  have hmessage : (run step startedSystem crossingEvents).sharedData.fuelMessage = litresMessage := by
    decide +kernel
  have hfactor : (run step startedSystem crossingEvents).loop.settings.gFuelDisplayConversionFactor =
      264151 / 1000000 := by decide +kernel
  have hstored : (run step startedSystem crossingEvents).storedFactor = 1 := by decide +kernel
  have hwaits : (run step startedSystem crossingEvents).sharedData.fuelMessage ≠ [] := by
    rw [hmessage]
    decide
  have hexecuted := executed_of_isTick htick hwaits
  rw [hmessage, hfactor] at hexecuted
  refine ⟨hexecuted, hstored, by decide +kernel, ?_⟩
  intro h
  have hsame := (h _ _ hexecuted).1
  rw [hstored] at hsame
  exact absurd hsame (by decide +kernel)

end IrPitCrew.PitSession
