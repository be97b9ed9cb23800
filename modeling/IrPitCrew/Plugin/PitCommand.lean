import IrPitCrew.Lib.Binary
import IrPitCrew.Plugin.FuelUnits

/-!
# handlePitCommandMessage: from the client's message to broadcasts

The arithmetic is a parameter: what the machine makes of the numbers, or exact numbers.
-/

open IrPitCrew.Text IrPitCrew.Decimal IrPitCrew.Rounding IrPitCrew.Binary

namespace IrPitCrew.Plugin

inductive PitCommand where
  | clear
  | ws
  | fuel (litres : ℤ)
  | lf
  | rf
  | lr
  | rr
  | fr
  deriving DecidableEq

structure PitRequest where
  fuelToAddDisplay : ℤ
  isCheckedLeftFront : Bool
  isCheckedRightFront : Bool
  isCheckedLeftRear : Bool
  isCheckedRightRear : Bool
  isCheckedFastRepair : Bool
  isCheckedWindshield : Bool

/-- The number after the first `;` that follows `Fuel`. `stream >>` finds its digits as `atoi` does. -/
def readFuelToAdd (readInt : ℤ → ℤ) (message : Str) : ℤ :=
  match indexOf "Fuel".toList message with
  | none => 0
  | some pos =>
    match indexOfFrom [';'] message pos with
    | none => 0
    | some posVal =>
      if posVal + 1 < message.length then readInt (atoi (message.drop (posVal + 1))) else 0

def readPitRequest (readInt : ℤ → ℤ) (message : Str) : PitRequest where
  fuelToAddDisplay := readFuelToAdd readInt message
  isCheckedLeftFront := contains "LeftFront".toList message
  isCheckedRightFront := contains "RightFront".toList message
  isCheckedLeftRear := contains "LeftRear".toList message
  isCheckedRightRear := contains "RightRear".toList message
  isCheckedFastRepair := contains "FastRepair".toList message
  isCheckedWindshield := contains "Windshield".toList message

variable {K : Type*} [Field K] [LinearOrder K] [FloorRing K]

/-- The display amount in litres, rounded by adding a half and cutting off. -/
def fuelToAddInLitres (a : Arith K) (gFuelDisplayConversionFactor : K) (fuelToAddDisplay : ℤ) : ℤ :=
  let dFuelToAdd := a.double (convertFuelDisplayToLitres gFuelDisplayConversionFactor fuelToAddDisplay)
  a.castInt (truncate (a.double (dFuelToAdd + 1 / 2)))

/-- The commands for a request, in the order in which they are broadcast. -/
def PitRequest.commands (r : PitRequest) (a : Arith K) (gFuelDisplayConversionFactor : K)
    (gIsSkipClearOnApply : Bool) : List PitCommand :=
  let litres := fuelToAddInLitres a gFuelDisplayConversionFactor r.fuelToAddDisplay
  (if gIsSkipClearOnApply then [] else [.clear]) ++
    (if r.isCheckedWindshield then [.ws] else []) ++
    (if r.isCheckedFastRepair then [.fr] else []) ++
    (if litres > 0 then [.fuel litres] else []) ++
    (if r.isCheckedLeftFront then [.lf] else []) ++
    (if r.isCheckedRightFront then [.rf] else []) ++
    (if r.isCheckedLeftRear then [.lr] else []) ++
    (if r.isCheckedRightRear then [.rr] else [])

def handlePitCommandMessage (a : Arith K) (gFuelDisplayConversionFactor : K)
    (gIsSkipClearOnApply : Bool) (message : Str) : List PitCommand :=
  if message ≠ [] then
    (readPitRequest a.readInt message).commands a gFuelDisplayConversionFactor gIsSkipClearOnApply
  else []

/-- The fuel that the commands ask for, if any. -/
theorem fuel_mem_commands (r : PitRequest) (a : Arith K) (factor : K) (skip : Bool) (litres : ℤ) :
    .fuel litres ∈ r.commands a factor skip ↔
      litres = fuelToAddInLitres a factor r.fuelToAddDisplay ∧ 0 < litres := by
  unfold PitRequest.commands
  dsimp only
  simp only [List.mem_append, List.mem_ite_nil_left, List.mem_ite_nil_right, List.mem_singleton,
    PitCommand.fuel.injEq, reduceCtorEq, and_false, or_false, false_or]
  constructor
  · rintro ⟨hpos, rfl⟩
    exact ⟨rfl, hpos⟩
  · rintro ⟨rfl, hpos⟩
    exact ⟨hpos, rfl⟩

end IrPitCrew.Plugin
