import IrPitCrew.Client.FuelToAdd
import IrPitCrew.PitMessage

/-!
# From the deficit on the page to the litres of the pit command

The page rounds the deficit up to a whole number of display units, and the plugin
rounds that to the nearest whole number of litres, which may be the one below.
-/

open IrPitCrew.Text IrPitCrew.Rounding IrPitCrew.Run IrPitCrew.Client IrPitCrew.Plugin IrPitCrew.PitMessage

namespace IrPitCrew.PitFuel

variable {K : Type*} [Field K] [LinearOrder K]

/-- The fuel commanded, in display units, is at least the deficit. -/
def Covers (commands : List PitCommand) (factor deficit : K) : Prop :=
  ∃ litres : ℤ, .fuel litres ∈ commands ∧ deficit ≤ litres * factor

/-- The whole litres that the deficit needs are at most half a litre over its rounding up. -/
def HalfLitreOver (factor deficit : K) [FloorRing K] : Prop :=
  ⌈deficit / factor⌉ * factor - (⌊deficit⌋ + 1 : ℤ) ≤ factor / 2

variable [FloorRing K] [IsStrictOrderedRing K]

/-! ## The two roundings -/

/-- The litres for a whole display amount cover `x` when rounding them does not go below. -/
theorem le_fuelToAddInLitres_mul_iff (c x : K) (n : ℤ) (hc : 0 < c) (hn : 0 ≤ n) :
    x ≤ fuelToAddInLitres .exact c n * c ↔ ⌈x / c⌉ * c - n ≤ c / 2 := by
  rw [fuelToAddInLitres_of_nonneg c n hc hn, ← div_le_iff₀ hc, ← Int.ceil_le, Int.le_floor,
    ← sub_le_iff_le_add']
  constructor
  · intro h
    have hmul := mul_le_mul_of_nonneg_right h hc.le
    rw [sub_mul, div_mul_cancel₀ _ hc.ne'] at hmul
    linarith
  · intro h
    rw [sub_le_iff_le_add, ← sub_le_iff_le_add', le_div_iff₀ hc] at *
    linarith

theorem covers_commands_iff (r : PitRequest) (c x : K) (skip : Bool) (hc : 0 < c) (hx : 0 < x) :
    Covers (r.commands .exact c skip) c x ↔ x ≤ fuelToAddInLitres .exact c r.fuelToAddDisplay * c := by
  constructor
  · rintro ⟨litres, hmem, hle⟩
    obtain ⟨rfl, -⟩ := (fuel_mem_commands r .exact c skip litres).mp hmem
    exact hle
  · intro hle
    have hlitres : (0 : K) < fuelToAddInLitres .exact c r.fuelToAddDisplay :=
      (mul_pos_iff_of_pos_right hc).mp (hx.trans_le hle)
    exact ⟨_, (fuel_mem_commands r .exact c skip _).mpr ⟨rfl, Int.cast_pos.mp hlitres⟩, hle⟩

/-! ## From page to command -/

theorem pitSettings_fuelToAdd (s : Page K) (hs : s.FuelToAddCurrent) (hx : 0 < s.deficit) :
    s.pitSettings.fuelToAdd = ⌊s.deficit⌋ + 1 := by
  have hval : s.dependentData.fuelToAddVal = ⌊s.deficit⌋ + 1 := by
    rw [(s.fuelToAddCurrent_iff).mp hs, Page.roundedDeficit, if_pos hx, roundHalfAway_add_half hx.le]
  have hfloor : 0 ≤ ⌊s.deficit⌋ := Int.floor_nonneg.mpr hx.le
  unfold Page.pitSettings
  dsimp only
  rw [hval, if_pos (by omega)]

theorem covers_message_iff (s : Page K) (c : K) (skip : Bool) (hs : s.FuelToAddCurrent)
    (hc : 0 < c) (hx : 0 < s.deficit) :
    Covers (handlePitCommandMessage .exact c skip s.pitSettings.message) c s.deficit ↔
      HalfLitreOver c s.deficit := by
  have hamount : 0 ≤ ⌊s.deficit⌋ + 1 := by
    have hfloor : 0 ≤ ⌊s.deficit⌋ := Int.floor_nonneg.mpr hx.le
    omega
  rw [handlePitCommandMessage_message, covers_commands_iff _ _ _ _ hc hx, readPitRequest_message,
    pitSettings_fuelToAdd s hs hx]
  exact le_fuelToAddInLitres_mul_iff c s.deficit _ hc hamount

/-- **The pit command covers the deficit** exactly when the litres it needs are at most half a
litre over the deficit rounded up. -/
theorem pit_command_covers_iff (s : Page K) (c : K) (skip : Bool) (hc : 0 < c)
    (hupdated : (s.serverData.isFuelUpdated || s.fuelState.manualFuelRequiredUpdated) = true)
    (hx : 0 < s.updateDependentData.deficit) :
    Covers (handlePitCommandMessage .exact c skip s.updateDependentData.pitSettings.message) c
        s.updateDependentData.deficit ↔
      HalfLitreOver c s.updateDependentData.deficit := by
  refine covers_message_iff _ c skip (Page.FuelToAddCurrent.updateDependentData fun h => ?_) hc hx
  rw [hupdated] at h
  exact absurd h (by simp)

theorem halfLitreOver_litres (x : K) : HalfLitreOver 1 x := by
  have hceil := Int.ceil_le_floor_add_one x
  have hcast : (⌈x⌉ : K) ≤ (⌊x⌋ + 1 : ℤ) := Int.cast_le.mpr hceil
  unfold HalfLitreOver
  rw [div_one, mul_one]
  linarith [half_pos (zero_lt_one (α := K))]

/-! ## A car whose fuel is shown in kilograms -/

/-- At 0.75 kg a litre, the level is 10 kg and the race needs 10.9 kg. -/
def kilogramMessage : Str :=
  "***D.A.T.A***\n\nFuelDisplayConversionFactor;0.75\nFuelLevel;13.333\nFuelRequired;10.9\n".toList

def kilogramPage : Page ℚ := { serverData := ({} : ServerData ℚ).updateServerData .exact kilogramMessage }

theorem kilogram_deficit :
    (kilogramPage.serverData.isFuelUpdated || kilogramPage.fuelState.manualFuelRequiredUpdated) = true ∧
    kilogramPage.updateDependentData.deficit = 9 / 10 := by
  decide +kernel

/-- One litre is commanded for 0.9 kg. -/
theorem kilogram_deficit_not_covered :
    kilogramPage.updateDependentData.deficit = 9 / 10 ∧
    handlePitCommandMessage .exact (3 / 4 : ℚ) false kilogramPage.updateDependentData.pitSettings.message =
      [.clear, .ws, .fr, .fuel 1] ∧
    ¬ Covers (handlePitCommandMessage .exact (3 / 4 : ℚ) false
      kilogramPage.updateDependentData.pitSettings.message) (3 / 4)
      kilogramPage.updateDependentData.deficit := by
  have hdeficit := kilogram_deficit.2
  have hcommands : handlePitCommandMessage .exact (3 / 4 : ℚ) false
      kilogramPage.updateDependentData.pitSettings.message = [.clear, .ws, .fr, .fuel 1] := by
    decide +kernel
  refine ⟨hdeficit, hcommands, ?_⟩
  rw [hcommands, hdeficit]
  rintro ⟨litres, hmem, hle⟩
  have hone : litres = 1 := by simpa using hmem
  rw [hone] at hle
  norm_num at hle

theorem pit_command_covers_sample :
    Covers (handlePitCommandMessage .exact (1 : ℚ) false
      kilogramPage.updateDependentData.pitSettings.message) 1
      kilogramPage.updateDependentData.deficit := by
  have hpos : 0 < kilogramPage.updateDependentData.deficit := by
    rw [kilogram_deficit.2]
    norm_num
  exact (pit_command_covers_iff kilogramPage 1 false (by norm_num) kilogram_deficit.1 hpos).mpr
    (halfLitreOver_litres _)

end IrPitCrew.PitFuel
