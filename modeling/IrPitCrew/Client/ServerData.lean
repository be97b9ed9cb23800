import IrPitCrew.Client.ParseData
import IrPitCrew.Lib.Binary

/-!
# serverData: the client's copy of the values that the server sends

A value changes only together with its flag, so a cleared flag that is still
cleared after a message says that the value is the one before. The arithmetic is
a parameter: doubles, or exact numbers.
-/

open IrPitCrew.Text IrPitCrew.Decimal IrPitCrew.Rounding IrPitCrew.Binary IrPitCrew.ParseData

namespace IrPitCrew.Client

variable {K : Type*} [Field K]

/-! ## One value, its text and its flag -/

structure NumberField (K : Type*) [Zero K] where
  str : Str := []
  val : K := 0
  updated : Bool := false

structure TextField where
  str : Str := []
  updated : Bool := false

structure FlagField where
  bool : Bool := false
  updated : Bool := false

namespace NumberField

variable [LinearOrder K] [FloorRing K]

/-- The text is made from the number received and from the number kept. -/
def receive (a : Arith K) (f : NumberField K) (decimals : Nat) (format : K → K → Str) :
    Option K → NumberField K
  | none => f
  | some value =>
    let newVal := a.double (parseFloat (toFixed decimals value))
    if newVal ≠ f.val then { str := format value newVal, val := newVal, updated := true } else f

theorem val_receive (a : Arith K) (f : NumberField K) (decimals : Nat) (format : K → K → Str) (value : K) :
    (f.receive a decimals format (some value)).val = a.double (parseFloat (toFixed decimals value)) := by
  unfold receive
  dsimp only
  split
  · rfl
  · rename_i h
    exact (not_ne_iff.mp h).symm

theorem receive_cases (a : Arith K) (f : NumberField K) (decimals : Nat) (format : K → K → Str)
    (value : Option K) :
    f.receive a decimals format value = f ∨ (f.receive a decimals format value).updated = true := by
  unfold receive
  split
  · exact .inl rfl
  · dsimp only
    split
    · exact .inr rfl
    · exact .inl rfl

theorem receive_of_not_updated (a : Arith K) (f : NumberField K) (decimals : Nat)
    (format : K → K → Str) (value : Option K) (h : (f.receive a decimals format value).updated = false) :
    f.receive a decimals format value = f := by
  rcases f.receive_cases a decimals format value with heq | hupdated
  · exact heq
  · exact absurd hupdated (by simp [h])

theorem updated_receive_iff (a : Arith K) (f : NumberField K) (decimals : Nat)
    (format : K → K → Str) (value : Option K) (h : f.updated = false) :
    (f.receive a decimals format value).updated = true ↔
      (f.receive a decimals format value).val ≠ f.val := by
  cases value with
  | none => simp [receive, h]
  | some value =>
    unfold receive
    dsimp only
    split
    · rename_i hne
      simp [hne]
    · simp [h]

end NumberField

def TextField.receive (f : TextField) (value : Str) : TextField :=
  if value ≠ dataNotSetString ∧ value ≠ f.str then { str := value, updated := true } else f

/-- No comparison with the text before, and the empty text is not taken. -/
def TextField.replace (f : TextField) (value : Str) : TextField :=
  if value.length > 0 ∧ value ≠ dataNotSetString then { str := value, updated := true } else f

section

variable [LinearOrder K] [FloorRing K]

def readValue (a : Arith K) (value : Str) : Option K :=
  if value = dataNotSetString then none else some (a.double (parseFloat value))

theorem printNumber_ne_dataNotSetString (x : K) : printNumber x ≠ dataNotSetString := by
  intro h
  have hchar := printNumber_chars x '<' (by rw [h]; decide)
  exact absurd hchar (by decide)

def FlagField.receive (a : Arith K) (f : FlagField) (value : Str) : FlagField :=
  if value.length > 0 ∧ value ≠ dataNotSetString then
    let newVal := a.double (parseFloat (toFixed 0 (a.double (parseFloat value))))
    let newBool := newVal ≠ 0
    if newBool ≠ f.bool then { bool := newBool, updated := true } else f
  else f

end

/-! ## All values -/

structure ServerData (K : Type*) [Field K] where
  fuelDisplayConversionFactorVal : K := 0
  fuelDisplayConversionFactorUpdated : Bool := false
  fuelDisplayUnits : TextField := {}
  remainingTime : NumberField K := {}
  estimatedLapTime : NumberField K := {}
  estimatedLapFuel : NumberField K := {}
  fuelForOneLap : NumberField K := {}
  lapsOfFuel : NumberField K := {}
  fuelLevel : NumberField K := {}
  maxFuel : NumberField K := {}
  fuelRequired : NumberField K := {}
  remainingLapsMin : NumberField K := {}
  remainingLapsMax : NumberField K := {}
  pressureLF : NumberField K := {}
  pressureRF : NumberField K := {}
  pressureLR : NumberField K := {}
  pressureRR : NumberField K := {}
  pitAvailable : NumberField K := {}
  isOnTrack : FlagField := {}
  onPitRoad : FlagField := {}
  speed : NumberField K := {}
  carAheadNumber : TextField := {}
  carBehindNumber : TextField := {}
  carAheadInitials : TextField := {}
  carBehindInitials : TextField := {}
  carAheadPos : NumberField K := {}
  carBehindPos : NumberField K := {}
  carAheadInterval : NumberField K := {}
  carBehindInterval : NumberField K := {}

namespace ServerData

def clearDataUpdated (d : ServerData K) : ServerData K :=
  { d with
    fuelDisplayConversionFactorUpdated := false
    fuelDisplayUnits.updated := false
    remainingTime.updated := false
    estimatedLapTime.updated := false
    estimatedLapFuel.updated := false
    fuelLevel.updated := false
    fuelForOneLap.updated := false
    fuelRequired.updated := false
    maxFuel.updated := false
    lapsOfFuel.updated := false
    remainingLapsMin.updated := false
    remainingLapsMax.updated := false
    pressureLF.updated := false
    pressureRF.updated := false
    pressureLR.updated := false
    pressureRR.updated := false
    pitAvailable.updated := false
    isOnTrack.updated := false
    onPitRoad.updated := false
    speed.updated := false
    carAheadInterval.updated := false
    carBehindInterval.updated := false
    carAheadNumber.updated := false
    carBehindNumber.updated := false
    carAheadInitials.updated := false
    carBehindInitials.updated := false
    carAheadPos.updated := false
    carBehindPos.updated := false }

/-- One of the three flags that `UpdateData_UpdateDependentData` looks at. -/
def isFuelUpdated (d : ServerData K) : Bool :=
  d.fuelLevel.updated || d.maxFuel.updated || d.fuelRequired.updated

@[simp] theorem isFuelUpdated_clearDataUpdated (d : ServerData K) :
    d.clearDataUpdated.isFuelUpdated = false := rfl

variable [LinearOrder K] [FloorRing K]

def unlimitedString : Str := "&infin;".toList

def createTimeString (a : Arith K) (timeVal : K) : Str :=
  if timeVal ≥ 0 then
    let hours := ⌊a.double (timeVal / 3600)⌋
    let hourStr := if timeVal ≥ 3600 then printInt hours ++ [':'] else []
    let timeVal := if timeVal ≥ 3600 then a.double (timeVal - a.double (hours * 3600)) else timeVal
    let minutes := if timeVal ≥ 60 then ⌊a.double (timeVal / 60)⌋ else 0
    let timeVal := if timeVal ≥ 60 then a.double (timeVal - a.double (minutes * 60)) else timeVal
    let minuteStr := (if minutes < 10 then ['0'] else []) ++ printInt minutes ++ [':']
    let secondStr := (if timeVal < 10 then ['0'] else []) ++ printInt ⌊timeVal⌋
    hourStr ++ minuteStr ++ secondStr
  else unlimitedString

/-- The text of a value that is negative when there is no limit. -/
def limitString (value newVal : K) : Str := if newVal ≥ 0 then toFixed 1 value else unlimitedString

def decimalsForVal : Nat := 1

/-- `UpdateData_UpdateServerData`. No tag is set in a message without the data portion. -/
def updateServerData (a : Arith K) (d : ServerData K) (elementValue : Str) : ServerData K :=
  let text (tag : String) : Str := messageValue elementValue tag.toList
  let number (tag : String) : Option K := readValue a (text tag)
  let factorStr := text "FuelDisplayConversionFactor"
  let factorSet : Bool := factorStr.length > 0 ∧ factorStr ≠ dataNotSetString
  let factorVal := if factorSet then a.double (parseFloat factorStr) else d.fuelDisplayConversionFactorVal
  let convert (fuelLevelVal : K) : K :=
    if factorVal > 0 then a.double (fuelLevelVal * factorVal) else fuelLevelVal
  { fuelDisplayConversionFactorVal := factorVal
    fuelDisplayConversionFactorUpdated := factorSet || d.fuelDisplayConversionFactorUpdated
    fuelDisplayUnits := d.fuelDisplayUnits.replace (text "FuelDisplayUnits")
    remainingTime := d.remainingTime.receive a decimalsForVal (fun _ newVal => createTimeString a newVal)
      (number "remainingTime")
    estimatedLapTime := d.estimatedLapTime.receive a decimalsForVal
      (fun _ newVal => createTimeString a newVal) (number "estimatedLapTime")
    estimatedLapFuel := d.estimatedLapFuel.receive a decimalsForVal (fun value _ => toFixed 2 value)
      (number "estimatedLapFuel")
    fuelForOneLap := d.fuelForOneLap.receive a 2 (fun value _ => toFixed 1 value)
      (number "FuelForOneLap")
    lapsOfFuel := d.lapsOfFuel.receive a decimalsForVal (fun value _ => toFixed 1 value)
      (number "LapsOfFuel")
    fuelLevel := d.fuelLevel.receive a decimalsForVal (fun _ newVal => toFixed 1 newVal)
      ((number "FuelLevel").map convert)
    maxFuel := d.maxFuel.receive a decimalsForVal (fun value _ => toFixed 1 value) (number "MaxFuel")
    fuelRequired := d.fuelRequired.receive a decimalsForVal limitString (number "FuelRequired")
    remainingLapsMin := d.remainingLapsMin.receive a decimalsForVal limitString
      (number "remainingLapsMin")
    remainingLapsMax := d.remainingLapsMax.receive a decimalsForVal limitString
      (number "remainingLapsMax")
    pressureLF := d.pressureLF.receive a decimalsForVal (fun value _ => toFixed 0 value)
      (number "LFcoldPressure")
    pressureRF := d.pressureRF.receive a decimalsForVal (fun value _ => toFixed 0 value)
      (number "RFcoldPressure")
    pressureLR := d.pressureLR.receive a decimalsForVal (fun value _ => toFixed 0 value)
      (number "LRcoldPressure")
    pressureRR := d.pressureRR.receive a decimalsForVal (fun value _ => toFixed 0 value)
      (number "RRcoldPressure")
    pitAvailable := d.pitAvailable.receive a decimalsForVal (fun value _ => toFixed 1 value)
      (number "PitAvailable")
    isOnTrack := d.isOnTrack.receive a (text "IsOnTrack")
    onPitRoad := d.onPitRoad.receive a (text "OnPitRoad")
    speed := d.speed.receive a decimalsForVal (fun value _ => toFixed 1 value) (number "Speed")
    carAheadNumber := d.carAheadNumber.receive (text "CarAheadNumber")
    carBehindNumber := d.carBehindNumber.receive (text "CarBehindNumber")
    carAheadInitials := d.carAheadInitials.receive (text "CarAheadInitials")
    carBehindInitials := d.carBehindInitials.receive (text "CarBehindInitials")
    carAheadPos := d.carAheadPos.receive a 0 (fun value _ => toFixed 0 value) (number "CarAheadPos")
    carBehindPos := d.carBehindPos.receive a 0 (fun value _ => toFixed 0 value) (number "CarBehindPos")
    carAheadInterval := d.carAheadInterval.receive a decimalsForVal
      (fun _ newVal => createTimeString a newVal) (number "CarAheadInterval")
    carBehindInterval := d.carBehindInterval.receive a decimalsForVal
      (fun _ newVal => createTimeString a newVal) (number "CarBehindInterval") }

/-- The copy after one more message. -/
def receive (a : Arith K) (d : ServerData K) (message : Str) : ServerData K :=
  d.clearDataUpdated.updateServerData a message

/-! ## The fuel level and its factor -/

theorem fuelDisplayConversionFactorVal_receive (a : Arith K) (d : ServerData K) (message : Str) :
    (d.receive a message).fuelDisplayConversionFactorVal =
      if decide ((messageValue message "FuelDisplayConversionFactor".toList).length > 0 ∧
          messageValue message "FuelDisplayConversionFactor".toList ≠ dataNotSetString) then
        a.double (parseFloat (messageValue message "FuelDisplayConversionFactor".toList))
      else d.fuelDisplayConversionFactorVal := rfl

theorem fuelLevel_receive (a : Arith K) (d : ServerData K) (message : Str) :
    (d.receive a message).fuelLevel =
      d.clearDataUpdated.fuelLevel.receive a decimalsForVal (fun _ newVal => toFixed 1 newVal)
        ((readValue a (messageValue message "FuelLevel".toList)).map fun fuelLevelVal =>
          if (d.receive a message).fuelDisplayConversionFactorVal > 0 then
            a.double (fuelLevelVal * (d.receive a message).fuelDisplayConversionFactorVal)
          else fuelLevelVal) := rfl

omit [LinearOrder K] [FloorRing K] in
theorem fuelLevel_val_clearDataUpdated (d : ServerData K) :
    d.clearDataUpdated.fuelLevel.val = d.fuelLevel.val := rfl

/-! ## The values that the fuel to add depends on -/

theorem fuel_of_not_updated (a : Arith K) (d : ServerData K) (message : Str)
    (h : (d.updateServerData a message).isFuelUpdated = false) :
    (d.updateServerData a message).fuelLevel = d.fuelLevel ∧
      (d.updateServerData a message).maxFuel = d.maxFuel ∧
      (d.updateServerData a message).fuelRequired = d.fuelRequired := by
  simp only [isFuelUpdated, Bool.or_eq_false_iff] at h
  obtain ⟨⟨hlevel, hmax⟩, hrequired⟩ := h
  refine ⟨?_, ?_, ?_⟩
  · exact NumberField.receive_of_not_updated _ _ _ _ _ hlevel
  · exact NumberField.receive_of_not_updated _ _ _ _ _ hmax
  · exact NumberField.receive_of_not_updated _ _ _ _ _ hrequired

end ServerData

end IrPitCrew.Client
