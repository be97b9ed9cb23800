import IrPitCrew.Lib.Text
import Mathlib.Algebra.Order.Field.Basic
import Mathlib.Tactic.Positivity

/-!
# Display units of fuel

Fuel is kept in litres and shown in litres, gallons, kilograms or pounds.
-/

open IrPitCrew.Text

namespace IrPitCrew.Plugin

variable {K : Type*} [Field K]

def convertFuelLitresToDisplay (fuelDisplayConversionFactor fuelValueInLitres : K) : K :=
  fuelValueInLitres * fuelDisplayConversionFactor

def convertFuelDisplayToLitres (fuelDisplayConversionFactor fuelValueDisplay : K) : K :=
  fuelValueDisplay / fuelDisplayConversionFactor

/-- The factor and the units. The branch for volume looks at the global setting. -/
def calculateFuelDisplayConversionFactor (gDriverCarFuelKgPerLtr : K)
    (gIsDisplayFuelImperial isDisplayFuelImperial isDisplayCarFuelWeight : Bool) : K × Str :=
  let poundsPerKg := 220462 / 100000
  let gallonsPerLitre := 264151 / 1000000
  if isDisplayCarFuelWeight then
    if isDisplayFuelImperial then (gDriverCarFuelKgPerLtr * poundsPerKg, "lb".toList)
    else (gDriverCarFuelKgPerLtr, "kg".toList)
  else
    if gIsDisplayFuelImperial then (1 * gallonsPerLitre, "gal".toList) else (1, "ltr".toList)

end IrPitCrew.Plugin
