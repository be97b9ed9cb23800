import IrPitCrew.Client.FuelIndicator
import IrPitCrew.Plugin.Tick
import Mathlib.Data.Rat.Floor

/-!
# Enough fuel, on the server and on the client

The server compares laps: those of the tank with those to go. The client
compares amounts, and the required one holds the extra laps too. The client's
level is the litres sent, times the factor.
-/

open IrPitCrew.Plugin IrPitCrew.Client

namespace IrPitCrew.EnoughFuel

variable {K : Type*} [Field K] [LinearOrder K] [IsStrictOrderedRing K]

/-- The server has enough when the tank holds the laps to go, without the extra laps. -/
theorem server_iff (e lapFuel maxFuel level laps : K) (hfuel : 0 < lapFuel) :
    (fuelValues e lapFuel maxFuel level laps).isEnoughFuel = true ↔
      laps ≤ 0 ∨ laps * lapFuel + minFuelLitres ≤ level := by
  simp only [fuelValues, decide_eq_true_eq, ge_iff_le, lapsOfFuelIn]
  by_cases htank : level - minFuelLitres > 0
  · rw [if_pos ⟨hfuel, htank⟩, le_div_iff₀ hfuel, le_sub_iff_add_le]
    refine ⟨.inr, ?_⟩
    rintro (hlaps | hlevel)
    · have hnone : laps * lapFuel ≤ 0 := mul_nonpos_of_nonpos_of_nonneg hlaps hfuel.le
      linarith
    · exact hlevel
  · rw [if_neg fun h => htank h.2]
    refine ⟨.inl, ?_⟩
    rintro (hlaps | hlevel)
    · exact hlaps
    · -- The tank is below the minimum, so it only covers laps that are not there.
      by_contra hpos
      have hsome : 0 < laps * lapFuel := mul_pos (not_le.mp hpos) hfuel
      linarith

def clientIsEnoughFuel (factor level : K) (v : FuelValues K) : Bool :=
  Client.isEnoughFuel .enough (convertFuelLitresToDisplay factor level)
    (convertFuelLitresToDisplay factor v.fuelRequiredLitres) v.lapsOfFuel

/-- The client has enough when the tank holds the laps to go and the extra laps. -/
theorem client_iff (e lapFuel maxFuel level laps factor : K) (hlevel : 0 ≤ level)
    (hfactor : 0 < factor) :
    clientIsEnoughFuel factor level (fuelValues e lapFuel maxFuel level laps) = true ↔
      laps ≤ 0 ∨ (laps + e) * lapFuel + minFuelLitres ≤ level := by
  simp only [clientIsEnoughFuel, Client.isEnoughFuel, decide_eq_true_eq, ge_iff_le,
    convertFuelLitresToDisplay, mul_le_mul_iff_left₀ hfactor]
  by_cases hlaps : laps ≤ 0
  · rw [fuelRequiredLitres_of_nonpos _ _ _ _ hlaps]
    exact ⟨fun _ => .inl hlaps, fun _ => by linarith⟩
  · rw [fuelRequiredLitres_eq _ _ _ _ (not_le.mp hlaps)]
    simp [hlaps]

/-- The tank holds the laps to go, but not the extra laps as well. -/
def BetweenLapsAndExtra (e lapFuel level laps : K) : Prop :=
  0 < laps ∧ laps * lapFuel + minFuelLitres ≤ level ∧ level < (laps + e) * lapFuel + minFuelLitres

/-- **Where the two agree.** The server has enough when the client has, and otherwise only with a
tank that covers the laps to go and not the extra laps. -/
theorem server_iff_client_or_between (e lapFuel maxFuel level laps factor : K) (hfuel : 0 < lapFuel)
    (hlevel : 0 ≤ level) (he : 0 ≤ e) (hfactor : 0 < factor) :
    ((fuelValues e lapFuel maxFuel level laps).isEnoughFuel = true ↔
      clientIsEnoughFuel factor level (fuelValues e lapFuel maxFuel level laps) = true ∨
        BetweenLapsAndExtra e lapFuel level laps) ∧
    (BetweenLapsAndExtra e lapFuel level laps →
      clientIsEnoughFuel factor level (fuelValues e lapFuel maxFuel level laps) = false) := by
  have hclient := client_iff e lapFuel maxFuel level laps factor hlevel hfactor
  constructor
  · rw [server_iff e lapFuel maxFuel level laps hfuel, hclient]
    constructor
    · rintro (hlaps | hcovered)
      · exact .inl (.inl hlaps)
      · by_cases hlaps : laps ≤ 0
        · exact .inl (.inl hlaps)
        by_cases hextra : (laps + e) * lapFuel + minFuelLitres ≤ level
        · exact .inl (.inr hextra)
        · exact .inr ⟨not_le.mp hlaps, hcovered, not_le.mp hextra⟩
    · rintro ((hlaps | hextra) | ⟨-, hcovered, -⟩)
      · exact .inl hlaps
      · have hless : laps * lapFuel ≤ (laps + e) * lapFuel :=
          mul_le_mul_of_nonneg_right (le_add_of_nonneg_right he) hfuel.le
        exact .inr (by linarith)
      · exact .inr hcovered
  · rintro ⟨hlaps, -, hextra⟩
    by_contra hc
    rcases hclient.mp (Bool.eq_true_of_not_eq_false hc) with h | h
    · exact absurd hlaps (not_lt.mpr h)
    · exact absurd hextra (not_lt.mpr h)

theorem server_client_sample :
    (fuelValues (2 : ℚ) 1 60 (57 / 5) 10).isEnoughFuel = true ∧
      clientIsEnoughFuel (3 / 4) (57 / 5) (fuelValues (2 : ℚ) 1 60 (57 / 5) 10) = false := by
  have hbetween : BetweenLapsAndExtra (2 : ℚ) 1 (57 / 5) 10 := by
    unfold BetweenLapsAndExtra minFuelLitres
    norm_num
  have h := server_iff_client_or_between (2 : ℚ) 1 60 (57 / 5) 10 (3 / 4) (by norm_num) (by norm_num)
    (by norm_num) (by norm_num)
  exact ⟨h.1.mpr (.inr hbetween), h.2 hbetween⟩

/-- With 11 laps in the tank and ten to go the server has enough, and the client has not. -/
theorem server_without_extra_laps :
    ¬ ((fuelValues (2 : ℚ) 1 60 (57 / 5) 10).isEnoughFuel = true ↔
      clientIsEnoughFuel 1 (57 / 5) (fuelValues (2 : ℚ) 1 60 (57 / 5) 10) = true) := by
  decide +kernel

end IrPitCrew.EnoughFuel
