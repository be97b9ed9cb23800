import IrPitCrew.Client.ServerData
import IrPitCrew.Lib.Run
import Mathlib.Data.Rat.Floor

/-!
# The strings on the display

A string is made again when the rounded value changes. Where it shows more of the
value than the comparison sees, or nothing was received before a value of zero, it
is not the string of the last value. The values are doubles, and so are the
rounded ones that the client compares.
-/

open IrPitCrew.Text IrPitCrew.Decimal IrPitCrew.Rounding IrPitCrew.Binary IrPitCrew.ParseData
open IrPitCrew.Run IrPitCrew.Client.ServerData

namespace IrPitCrew.Client

variable {K : Type*} [Field K]

/-! ## The strings -/

inductive Display
  | remainingTime | estimatedLapTime | estimatedLapFuel | fuelForOneLap | lapsOfFuel | fuelLevel
  | maxFuel | fuelRequired | remainingLapsMin | remainingLapsMax
  | pressureLF | pressureRF | pressureLR | pressureRR | pitAvailable | speed
  deriving DecidableEq

/-- How a string is made: from the rounded value, or from the value itself. -/
inductive Format
  | time
  | rounded
  | places (decimals : Nat)
  | limit

namespace Display

def tag : Display → String
  | remainingTime => "remainingTime"
  | estimatedLapTime => "estimatedLapTime"
  | estimatedLapFuel => "estimatedLapFuel"
  | fuelForOneLap => "FuelForOneLap"
  | lapsOfFuel => "LapsOfFuel"
  | fuelLevel => "FuelLevel"
  | maxFuel => "MaxFuel"
  | fuelRequired => "FuelRequired"
  | remainingLapsMin => "remainingLapsMin"
  | remainingLapsMax => "remainingLapsMax"
  | pressureLF => "LFcoldPressure"
  | pressureRF => "RFcoldPressure"
  | pressureLR => "LRcoldPressure"
  | pressureRR => "RRcoldPressure"
  | pitAvailable => "PitAvailable"
  | speed => "Speed"

/-- The places that the comparison sees. -/
def decimals : Display → Nat
  | fuelForOneLap => 2
  | _ => decimalsForVal

def format : Display → Format
  | remainingTime | estimatedLapTime => .time
  | fuelLevel => .rounded
  | estimatedLapFuel => .places 2
  | fuelForOneLap | lapsOfFuel | maxFuel | pitAvailable | speed => .places 1
  | fuelRequired | remainingLapsMin | remainingLapsMax => .limit
  | pressureLF | pressureRF | pressureLR | pressureRR => .places 0

def field (d : ServerData K) : Display → NumberField K
  | remainingTime => d.remainingTime
  | estimatedLapTime => d.estimatedLapTime
  | estimatedLapFuel => d.estimatedLapFuel
  | fuelForOneLap => d.fuelForOneLap
  | lapsOfFuel => d.lapsOfFuel
  | fuelLevel => d.fuelLevel
  | maxFuel => d.maxFuel
  | fuelRequired => d.fuelRequired
  | remainingLapsMin => d.remainingLapsMin
  | remainingLapsMax => d.remainingLapsMax
  | pressureLF => d.pressureLF
  | pressureRF => d.pressureRF
  | pressureLR => d.pressureLR
  | pressureRR => d.pressureRR
  | pitAvailable => d.pitAvailable
  | speed => d.speed

theorem field_clearDataUpdated (d : ServerData K) (x : Display) :
    (field d.clearDataUpdated x).str = (field d x).str ∧
      (field d.clearDataUpdated x).val = (field d x).val := by
  cases x <;> exact ⟨rfl, rfl⟩

end Display

variable [LinearOrder K] [FloorRing K]

namespace Format

def text (a : Arith K) : Format → K → K → Str
  | .time, _, newVal => createTimeString a newVal
  | .rounded, _, newVal => toFixed 1 newVal
  | .places decimals, value, _ => toFixed decimals value
  | .limit, value, newVal => limitString value newVal

/-- Two values that are rounded to the same `newVal` have one string. -/
def Same : Format → K → K → K → Prop
  | .time, _, _, _ => True
  | .rounded, _, _, _ => True
  | .places decimals, v, v', _ => roundPlaces decimals v = roundPlaces decimals v' ∧ (v < 0 ↔ v' < 0)
  | .limit, v, v', newVal => newVal < 0 ∨ roundPlaces 1 v = roundPlaces 1 v' ∧ (v < 0 ↔ v' < 0)

theorem text_eq_iff [IsStrictOrderedRing K] (a : Arith K) (format : Format) (v v' newVal : K) :
    format.text a v newVal = format.text a v' newVal ↔ format.Same v v' newVal := by
  cases format with
  | time => exact iff_of_true rfl trivial
  | rounded => exact iff_of_true rfl trivial
  | places decimals => exact toFixed_eq_iff decimals v v'
  | limit =>
    simp only [text, Same, limitString]
    by_cases h : newVal ≥ 0
    · rw [if_pos h, if_pos h, toFixed_eq_iff]
      exact (or_iff_right (not_lt.mpr h)).symm
    · rw [if_neg h, if_neg h]
      exact iff_of_true rfl (.inl (not_le.mp h))

theorem same_congr (format : Format) (v v' : K) {m n : K} (h : m < 0 ↔ n < 0) :
    format.Same v v' m ↔ format.Same v v' n := by
  cases format with
  | limit => exact or_congr h Iff.rfl
  | _ => exact Iff.rfl

theorem createTimeString_ne_nil (a : Arith K) (x : K) : createTimeString a x ≠ [] := by
  unfold createTimeString
  split
  · simp
  · decide

theorem text_ne_nil (a : Arith K) (format : Format) (v newVal : K) : format.text a v newVal ≠ [] := by
  cases format with
  | time => exact createTimeString_ne_nil a newVal
  | rounded => exact toFixed_ne_nil 1 newVal
  | places decimals => exact toFixed_ne_nil decimals v
  | limit =>
    simp only [text, limitString]
    split
    · exact toFixed_ne_nil 1 v
    · decide

end Format

/-! ## One value -/

/-- The comparison sees a change, or there is none in the string either. The first value is compared
with zero, and its string with none. -/
def Refreshed (decimals : Nat) (format : Format) (last : Option K) (v : K) : Prop :=
  match last with
  | none => roundPlaces decimals v ≠ 0
  | some v' =>
    roundPlaces decimals v = roundPlaces decimals v' → format.Same v v' (roundPlaces decimals v)

/-- The rounded value that the client keeps. -/
def kept (decimals : Nat) (v : K) : K := double.round (roundPlaces decimals v)

section

variable [IsStrictOrderedRing K]

theorem kept_parse (decimals : Nat) (v : K) :
    (Arith.machine : Arith K).double (parseFloat (toFixed decimals v)) = kept decimals v := by
  rw [parseFloat_toFixed]
  rfl

theorem str_receive (f : NumberField K) (decimals : Nat) (format : K → K → Str) (v : K) :
    (f.receive .machine decimals format (some v)).str =
      if kept decimals v = f.val then f.str else format v (kept decimals v) := by
  unfold Client.NumberField.receive
  dsimp only
  rw [kept_parse]
  by_cases h : kept decimals v = f.val
  · rw [if_neg (not_ne_iff.mpr h), if_pos h]
  · rw [if_pos h, if_neg h]

theorem str_receive_iff (f : NumberField K) {decimals : Nat} (hd : decimals ≠ 0) (format : Format)
    (last : Option K) (hlast : ∀ v', last = some v' → double.Holds v')
    (hval : f.val = last.elim 0 (kept decimals))
    (hstr : f.str = last.elim [] fun v' => format.text .machine v' (kept decimals v'))
    {v : K} (hv : double.Holds v) :
    (f.receive .machine decimals (format.text .machine) (some v)).str =
        format.text .machine v (kept decimals v) ↔
      Refreshed decimals format last v := by
  rw [str_receive, hval]
  cases last with
  | none =>
    rw [Option.elim_none] at hstr ⊢
    unfold Refreshed
    rw [ne_eq, ← double.round_roundPlaces_eq_zero_iff hv hd, ← kept]
    by_cases h : kept decimals v = 0
    · rw [if_pos h, hstr]
      exact iff_of_false (fun hnil => format.text_ne_nil _ _ _ hnil.symm) (fun hne => hne h)
    · rw [if_neg h]
      exact iff_of_true rfl h
  | some v' =>
    rw [Option.elim_some] at hstr ⊢
    change _ ↔ (roundPlaces decimals v = roundPlaces decimals v' →
      format.Same v v' (roundPlaces decimals v))
    rw [← double.round_roundPlaces_eq_iff hv (hlast v' rfl) hd, ← kept, ← kept,
      ← format.same_congr v v' (double.round_roundPlaces_neg_iff hv hd), ← kept]
    by_cases h : kept decimals v = kept decimals v'
    · rw [if_pos h, hstr, ← h, eq_comm, format.text_eq_iff]
      exact ⟨fun hsame _ => hsame, fun hsame => hsame rfl⟩
    · rw [if_neg h]
      exact iff_of_true rfl (fun heq => absurd heq h)

end

/-! ## Runs of messages -/

/-- The number of a tag. A fuel level is converted with the factor that is known then. -/
def received (a : Arith K) (d : ServerData K) (message : Str) (x : Display) : Option K :=
  let number := readValue a (messageValue message x.tag.toList)
  match x with
  | .fuelLevel =>
    number.map fun fuelLevelVal =>
      if (d.receive a message).fuelDisplayConversionFactorVal > 0 then
        a.double (fuelLevelVal * (d.receive a message).fuelDisplayConversionFactorVal)
      else fuelLevelVal
  | _ => number

theorem field_receive (a : Arith K) (d : ServerData K) (message : Str) (x : Display) :
    x.field (d.receive a message) =
      (x.field d.clearDataUpdated).receive a x.decimals (x.format.text a) (received a d message x) := by
  cases x <;> rfl

/-- The client's data, and the last number received of each tag. -/
structure Seen (K : Type*) [Field K] where
  data : ServerData K
  last : Display → Option K

namespace Seen

def init : Seen K := { data := {}, last := fun _ => none }

def receive (s : Seen K) (message : Str) : Seen K where
  data := s.data.receive .machine message
  last x := (received .machine s.data message x).or (s.last x)

/-- The string of the value. -/
def shown (x : Display) (v : K) : Str :=
  x.format.text .machine v (double.round (parseFloat (toFixed x.decimals v)))

/-- Every string of a tag that was received is that of the last value. -/
def Tracks (s : Seen K) : Prop := ∀ x v, s.last x = some v → (x.field s.data).str = shown x v

def Ok (s : Seen K) (message : Str) : Prop :=
  ∀ x v, received .machine s.data message x = some v → Refreshed x.decimals x.format (s.last x) v

variable [IsStrictOrderedRing K]

structure Inv (s : Seen K) : Prop where
  holds : ∀ x v, s.last x = some v → double.Holds v
  val : ∀ x, (x.field s.data).val = (s.last x).elim 0 (kept x.decimals)
  str : ∀ x, (x.field s.data).str =
    (s.last x).elim [] fun v => x.format.text .machine v (kept x.decimals v)

theorem shown_eq (x : Display) (v : K) : shown x v = x.format.text .machine v (kept x.decimals v) := by
  rw [shown, parseFloat_toFixed, kept]

omit [IsStrictOrderedRing K] in
theorem inv_init : Inv (init : Seen K) := by
  constructor <;> intro x <;> cases x <;> first | rfl | exact fun _ h => absurd h (by simp [init])

theorem Inv.tracks {s : Seen K} (h : Inv s) : s.Tracks := by
  intro x v hlast
  rw [h.str x, hlast, shown_eq]
  rfl

theorem holds_readValue {text : Str} {v : K} (h : readValue .machine text = some v) : double.Holds v := by
  unfold readValue at h
  split at h
  · exact absurd h (by simp)
  · obtain rfl := Option.some.inj h
    exact double.holds_round _

theorem holds_received {d : ServerData K} {message : Str} {x : Display} {v : K}
    (h : received .machine d message x = some v) : double.Holds v := by
  unfold received at h
  dsimp only at h
  split at h
  · obtain ⟨w, hw, rfl⟩ := Option.map_eq_some_iff.mp h
    split
    · exact double.holds_round _
    · exact holds_readValue hw
  · exact holds_readValue h

theorem decimals_ne_zero (x : Display) : x.decimals ≠ 0 := by cases x <;> decide

theorem Inv.receive_str_iff {s : Seen K} (h : Inv s) (message : Str) {x : Display} {v : K}
    (hv : received .machine s.data message x = some v) :
    (x.field (s.receive message).data).str = x.format.text .machine v (kept x.decimals v) ↔
      Refreshed x.decimals x.format (s.last x) v := by
  obtain ⟨hstr, hval⟩ := Display.field_clearDataUpdated s.data x
  change (x.field (s.data.receive .machine message)).str = _ ↔ _
  rw [field_receive, hv]
  exact str_receive_iff _ (decimals_ne_zero x) _ _ (h.holds x) (hval.trans (h.val x))
    (hstr.trans (h.str x)) (holds_received hv)

/-- A message leaves a string of the last value for each tag exactly when it is ok. -/
theorem Inv.tracks_receive_iff {s : Seen K} (h : Inv s) (message : Str) :
    (s.receive message).Tracks ↔ Ok s message := by
  constructor
  · intro htracks x v hv
    rw [← h.receive_str_iff message hv, ← shown_eq]
    exact htracks x v (by simp [receive, hv])
  · intro hok x v hlast
    cases hv : received .machine s.data message x with
    | some w =>
      obtain rfl : w = v := by simpa [receive, hv] using hlast
      rw [shown_eq]
      exact (h.receive_str_iff message hv).mpr (hok x w hv)
    | none =>
      have hold : s.last x = some v := by simpa [receive, hv] using hlast
      change (x.field (s.data.receive .machine message)).str = _
      rw [field_receive, hv]
      exact (Display.field_clearDataUpdated s.data x).1.trans (h.tracks x v hold)

theorem Inv.receive {s : Seen K} (h : Inv s) (message : Str) (hok : Ok s message) :
    Inv (s.receive message) := by
  constructor
  · intro x v hlast
    cases hv : received .machine s.data message x with
    | some w =>
      obtain rfl : w = v := by simpa [Seen.receive, hv] using hlast
      exact holds_received hv
    | none => exact h.holds x v (by simpa [Seen.receive, hv] using hlast)
  · intro x
    change (x.field (s.data.receive .machine message)).val = _
    rw [field_receive]
    cases hv : received .machine s.data message x with
    | some v =>
      rw [Client.NumberField.val_receive, kept_parse]
      simp [Seen.receive, hv]
    | none =>
      simp only [Seen.receive, hv, Option.none_or]
      exact (Display.field_clearDataUpdated s.data x).2.trans (h.val x)
  · intro x
    cases hv : received .machine s.data message x with
    | some v =>
      rw [(h.receive_str_iff message hv).mpr (hok x v hv)]
      simp [Seen.receive, hv]
    | none =>
      change (x.field (s.data.receive .machine message)).str = _
      rw [field_receive, hv]
      simp only [Seen.receive, hv, Option.none_or]
      exact (Display.field_clearDataUpdated s.data x).1.trans (h.str x)

/-- **Display strings.** After each message of a run every string is that of the last value, if and
only if the first value of each tag is not rounded to zero, and each other value that is rounded like
the one before it also has its string. -/
theorem strings_track_iff (messages : List Str) :
    StepsOk receive Ok (init : Seen K) messages ↔
      ∀ ms, ms <+: messages → (run receive (init : Seen K) ms).Tracks :=
  stepsOk_iff_forall_of_invariant (fun _ message hinv hok => hinv.receive message hok)
    (fun _ message hinv => hinv.tracks_receive_iff message) messages inv_init inv_init.tracks

def lapsMessage (value : String) : Str := dataPortion [("LapsOfFuel".toList, value.toList)]

theorem strings_track_sample :
    (run receive (init : Seen ℚ) [lapsMessage "4.2"]).data.lapsOfFuel.str = "4.2".toList := by
  have hvalue : received .machine (init : Seen ℚ).data (lapsMessage "4.2") .lapsOfFuel =
      some (double.round (42 / 10)) := by
    decide +kernel
  have hok : Ok (init : Seen ℚ) (lapsMessage "4.2") := by
    intro x v hv
    cases x with
    | lapsOfFuel =>
      obtain rfl : double.round (42 / 10) = v := Option.some.inj (hvalue.symm.trans hv)
      change roundPlaces 1 (double.round (42 / 10) : ℚ) ≠ 0
      decide +kernel
    | _ => exact absurd (hv.symm.trans (by decide +kernel : _ = none)) (by simp)
  have htracks := (strings_track_iff [lapsMessage "4.2"]).mp ⟨hok, trivial⟩ _ List.prefix_rfl
  exact (htracks .lapsOfFuel (double.round (42 / 10)) (by simp [receive, hvalue])).trans (by decide +kernel)

/-- 2.51 and then 2.54 litres a lap: both are 2.5 for the comparison, and two places are shown. -/
def lapFuelMessages : List Str :=
  [dataPortion [("estimatedLapFuel".toList, "2.51".toList)],
   dataPortion [("estimatedLapFuel".toList, "2.54".toList)]]

theorem lapFuel_string_stale :
    (run receive (init : Seen ℚ) lapFuelMessages).data.estimatedLapFuel.str = "2.51".toList ∧
    shown .estimatedLapFuel (double.round (254 / 100) : ℚ) = "2.54".toList ∧
    ¬ (run receive (init : Seen ℚ) lapFuelMessages).Tracks := by
  have hstr : (run receive (init : Seen ℚ) lapFuelMessages).data.estimatedLapFuel.str = "2.51".toList := by
    decide +kernel
  have hshown : shown .estimatedLapFuel (double.round (254 / 100) : ℚ) = "2.54".toList := by
    decide +kernel
  refine ⟨hstr, hshown, fun htracks => ?_⟩
  have h := htracks .estimatedLapFuel (double.round (254 / 100)) (by decide +kernel)
  change (run receive (init : Seen ℚ) lapFuelMessages).data.estimatedLapFuel.str = _ at h
  rw [hstr, hshown] at h
  exact absurd h (by decide)

end Seen

end IrPitCrew.Client
