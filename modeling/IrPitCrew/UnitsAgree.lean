import IrPitCrew.Client.DisplayStrings
import IrPitCrew.Plugin.VarData

/-!
# Display units on the server and on the client

The server converts the size of the tank, and then rounds. The fuel level is sent
in litres, as a `float`, and the client converts it with the factor that it was
sent, which is rounded to three decimals like every other number. All else is
computed in doubles.
-/

open IrPitCrew.Text IrPitCrew.Decimal IrPitCrew.Rounding IrPitCrew.Binary IrPitCrew.ParseData
open IrPitCrew.Client (ServerData readValue printNumber_ne_dataNotSetString kept kept_parse)
open IrPitCrew.Client.ServerData (decimalsForVal)
open IrPitCrew.Plugin

namespace IrPitCrew.UnitsAgree

variable {K : Type*} [Field K] [LinearOrder K] [FloorRing K]

/-! ## The two ways -/

variable [IsStrictOrderedRing K]

def litresFactor : ℚ := (calculateFuelDisplayConversionFactor 1 false false false).1

def gallonsFactor : ℚ := double.round (calculateFuelDisplayConversionFactor 1 true true false).1

end IrPitCrew.UnitsAgree
