import IrPitCrew.Plugin.Loop
import Mathlib.Data.Rat.Floor
import Mathlib.Order.Bounds.Basic

/-!
# The optional pit stop

A stop is offered as soon as one full tank covers the rest of the race, and only
while the fuel in the tank does not. The offer is the laps until then, and it
counts down with the laps that are driven.
-/

open IrPitCrew.Text IrPitCrew.WebServer

namespace IrPitCrew.Plugin.OptionalPit

variable {K : Type*} [Field K] [LinearOrder K]

/-! ## What a tank covers -/

/-- The fuel lasts for the laps, and the car does not stutter on them. -/
def TankCovers (lapFuel litres laps : K) : Prop := laps * lapFuel + minFuelLitres ≤ litres

variable [IsStrictOrderedRing K]

theorem tankCovers_iff {lapFuel litres laps : K} (hfuel : 0 < lapFuel) :
    TankCovers lapFuel litres laps ↔ laps ≤ lapsOfFuelIn lapFuel litres := by
  unfold TankCovers lapsOfFuelIn
  rw [le_div_iff₀ hfuel, le_sub_iff_add_le]

omit [IsStrictOrderedRing K] in
theorem lapsOfFuelIn_sub {lapFuel : K} (hfuel : 0 < lapFuel) (litres laps : K) :
    lapsOfFuelIn lapFuel (litres - laps * lapFuel) = lapsOfFuelIn lapFuel litres - laps := by
  unfold lapsOfFuelIn
  rw [eq_sub_iff_add_eq, div_add' _ _ _ hfuel.ne']
  congr 1
  ring

/-- The stops after which one full tank is enough. -/
def coveringStops (lapFuel maxFuel laps : K) : Set K :=
  {p | 0 ≤ p ∧ TankCovers lapFuel maxFuel (laps - p)}

theorem isLeast_coveringStops {lapFuel : K} (hfuel : 0 < lapFuel) (maxFuel laps : K) :
    IsLeast (coveringStops lapFuel maxFuel laps) (max 0 (laps - lapsOfFuelIn lapFuel maxFuel)) := by
  constructor
  · refine ⟨le_max_left _ _, (tankCovers_iff hfuel).mpr ?_⟩
    have h := le_max_right 0 (laps - lapsOfFuelIn lapFuel maxFuel)
    linarith
  · rintro p ⟨hp, hcovers⟩
    rw [tankCovers_iff hfuel] at hcovers
    exact max_le hp (by linarith)

/-! ## The values of a tick -/

variable (e lapFuel maxFuel level laps : K)

theorem lapsOfFuel_eq (hfuel : 0 < lapFuel) :
    (fuelValues e lapFuel maxFuel level laps).lapsOfFuel = max 0 (lapsOfFuelIn lapFuel level) := by
  simp only [fuelValues, gt_iff_lt, hfuel, true_and]
  split
  · rename_i hlevel
    exact (max_eq_right (div_pos hlevel hfuel).le).symm
  · rename_i hlevel
    exact (max_eq_left (div_nonpos_of_nonpos_of_nonneg (not_lt.mp hlevel) hfuel.le)).symm

theorem lapsOfFuel_nonneg (hfuel : 0 < lapFuel) :
    0 ≤ (fuelValues e lapFuel maxFuel level laps).lapsOfFuel := by
  rw [lapsOfFuel_eq e lapFuel maxFuel level laps hfuel]
  exact le_max_left _ _

/-- The fuel in the tank does not last, and a full tank on top of it would. -/
def IsOffered (lapFuel maxFuel laps lapsOfFuel : K) : Prop :=
  lapsOfFuel < laps ∧ laps < lapsOfFuel + lapsOfFuelIn lapFuel maxFuel

theorem optionalPit_of_offered (hfuel : 0 < lapFuel)
    (h : IsOffered lapFuel maxFuel laps (fuelValues e lapFuel maxFuel level laps).lapsOfFuel) :
    (fuelValues e lapFuel maxFuel level laps).optionalPit =
      max 0 (laps - lapsOfFuelIn lapFuel maxFuel) := by
  obtain ⟨hless, hfull⟩ := h
  rw [← sub_lt_iff_lt_add] at hfull
  simp only [fuelValues] at hless hfull ⊢
  rw [if_pos hfuel, if_pos ⟨hfull, decide_eq_false (not_le.mpr hless)⟩]
  split
  · rename_i hnow
    exact (max_eq_left hnow).symm
  · rename_i hlater
    exact (max_eq_right (not_le.mp hlater).le).symm

theorem optionalPit_of_not_offered (hfuel : 0 < lapFuel)
    (h : ¬ IsOffered lapFuel maxFuel laps (fuelValues e lapFuel maxFuel level laps).lapsOfFuel) :
    (fuelValues e lapFuel maxFuel level laps).optionalPit = -1 := by
  unfold IsOffered at h
  rw [← sub_lt_iff_lt_add] at h
  simp only [fuelValues] at h ⊢
  rw [if_pos hfuel, if_neg]
  rintro ⟨hfull, hless⟩
  exact h ⟨not_le.mp (of_decide_eq_false hless), hfull⟩

theorem offered_of_optionalPit_nonneg (hfuel : 0 < lapFuel)
    (h : 0 ≤ (fuelValues e lapFuel maxFuel level laps).optionalPit) :
    IsOffered lapFuel maxFuel laps (fuelValues e lapFuel maxFuel level laps).lapsOfFuel := by
  by_contra hnot
  rw [optionalPit_of_not_offered e lapFuel maxFuel level laps hfuel hnot] at h
  linarith

theorem optionalPit_le_lapsOfFuel (hfuel : 0 < lapFuel) :
    (fuelValues e lapFuel maxFuel level laps).optionalPit ≤
      (fuelValues e lapFuel maxFuel level laps).lapsOfFuel := by
  have hnonneg := lapsOfFuel_nonneg e lapFuel maxFuel level laps hfuel
  by_cases h : IsOffered lapFuel maxFuel laps (fuelValues e lapFuel maxFuel level laps).lapsOfFuel
  · rw [optionalPit_of_offered e lapFuel maxFuel level laps hfuel h]
    have hfull := h.2
    exact max_le hnonneg (by linarith)
  · rw [optionalPit_of_not_offered e lapFuel maxFuel level laps hfuel h]
    linarith

/-! ## Driving on -/

theorem lapsOfFuel_drive (e' : K) (hfuel : 0 < lapFuel) {d laps' : K} (hd : 0 ≤ d)
    (hfar : d ≤ (fuelValues e lapFuel maxFuel level laps).lapsOfFuel) :
    (fuelValues e' lapFuel maxFuel (level - d * lapFuel) laps').lapsOfFuel =
      (fuelValues e lapFuel maxFuel level laps).lapsOfFuel - d := by
  rw [lapsOfFuel_eq _ _ _ _ _ hfuel] at hfar ⊢
  rw [lapsOfFuel_eq _ _ _ _ _ hfuel, lapsOfFuelIn_sub hfuel]
  rcases le_total (lapsOfFuelIn lapFuel level) 0 with hempty | hfilled
  · -- A tank that is nearly empty is taken for empty, and the car stands.
    rw [max_eq_left hempty] at hfar ⊢
    rw [le_antisymm hfar hd, sub_zero, sub_zero, max_eq_left hempty]
  · rw [max_eq_right hfilled] at hfar ⊢
    exact max_eq_right (sub_nonneg.mpr hfar)

theorem optionalPit_drive (e' : K) (hfuel : 0 < lapFuel) {d : K} (hd : 0 ≤ d)
    (hfar : d ≤ (fuelValues e lapFuel maxFuel level laps).lapsOfFuel)
    (hoffer : 0 ≤ (fuelValues e lapFuel maxFuel level laps).optionalPit) :
    (fuelValues e' lapFuel maxFuel (level - d * lapFuel) (laps - d)).optionalPit =
      max 0 ((fuelValues e lapFuel maxFuel level laps).optionalPit - d) := by
  have h := offered_of_optionalPit_nonneg e lapFuel maxFuel level laps hfuel hoffer
  have hlater : IsOffered lapFuel maxFuel (laps - d)
      (fuelValues e' lapFuel maxFuel (level - d * lapFuel) (laps - d)).lapsOfFuel := by
    rw [lapsOfFuel_drive e lapFuel maxFuel level laps e' hfuel hd hfar]
    obtain ⟨hless, hfull⟩ := h
    constructor <;> linarith
  rw [optionalPit_of_offered _ _ _ _ _ hfuel hlater, optionalPit_of_offered _ _ _ _ _ hfuel h]
  rcases le_total (laps - lapsOfFuelIn lapFuel maxFuel) 0 with hnow | hwait
  · rw [max_eq_left hnow, max_eq_left (by linarith), max_eq_left (by linarith)]
  · rw [max_eq_right hwait]
    congr 1
    ring

/-! ## Two ticks -/

variable [FloorRing K]

/-- At the second tick the car is `d` laps further on, with the same estimate and the same tank. -/
structure DrivenOn (session session' : Session K) (f f' : Frame) (v v' : TickValues K) (d : K) :
    Prop where
  lapFuel : session'.gEstimatedLapFuelLitres = session.gEstimatedLapFuelLitres
  maxFuel : session'.gMaxFuelLitres = session.gMaxFuelLitres
  level : f'.fuelLevelLitres = f.fuelLevelLitres - d * session.gEstimatedLapFuelLitres
  laps : v'.laps.remainingLapsMax = v.laps.remainingLapsMax - d

/-- **Optional pit.** The stop is offered while the tank does not last and a full tank on top of it
would, and is then the first after which a full tank covers the rest. The offer counts down. -/
theorem optionalPit_exact (extra : K) (settings : Settings K) (session : Session K) (f : Frame)
    (hfuel : 0 < session.gEstimatedLapFuelLitres) :
    let v := tickValues extra settings session f
    let R := v.laps.remainingLapsMax
    let offered := IsOffered session.gEstimatedLapFuelLitres session.gMaxFuelLitres R v.fuel.lapsOfFuel
    (¬ offered → v.fuel.optionalPit = -1) ∧
    (offered →
      IsLeast (coveringStops session.gEstimatedLapFuelLitres session.gMaxFuelLitres R)
        v.fuel.optionalPit ∧ v.fuel.optionalPit ≤ v.fuel.lapsOfFuel) ∧
    ∀ (extra' : K) (settings' : Settings K) (session' : Session K) (f' : Frame) (d : K),
      let v' := tickValues extra' settings' session' f'
      DrivenOn session session' f f' v v' d → 0 ≤ d → d ≤ v.fuel.lapsOfFuel →
        0 ≤ v.fuel.optionalPit → v'.fuel.optionalPit = max 0 (v.fuel.optionalPit - d) := by
  intro v R offered
  refine ⟨?_, ?_, ?_⟩
  · exact optionalPit_of_not_offered extra _ _ _ _ hfuel
  · intro hoffered
    refine ⟨?_, optionalPit_le_lapsOfFuel extra _ _ _ _ hfuel⟩
    have heq : v.fuel.optionalPit = max 0 (R - lapsOfFuelIn _ _) :=
      optionalPit_of_offered extra _ _ _ _ hfuel hoffered
    rw [heq]
    exact isLeast_coveringStops hfuel _ _
  · intro extra' settings' session' f' d v' hon hd hfar hoffer
    have hv' : v'.fuel = fuelValues extra' session.gEstimatedLapFuelLitres session.gMaxFuelLitres
        (f.fuelLevelLitres - d * session.gEstimatedLapFuelLitres) (R - d) := by
      have h : v'.fuel = fuelValues extra' session'.gEstimatedLapFuelLitres session'.gMaxFuelLitres
        f'.fuelLevelLitres v'.laps.remainingLapsMax := rfl
      rw [h, hon.lapFuel, hon.maxFuel, hon.level, hon.laps]
    rw [hv']
    exact optionalPit_drive extra _ _ _ _ extra' hfuel hd hfar hoffer

/-! ## A race of ten laps -/

/-- 4 litres a lap, 12 in a full tank. -/
def thirstySession : Session ℚ where
  gSessionTotalLaps := "10".toList
  gSessionTotalTime := unlimited
  gMaxFuelLitres := 12
  gEstimatedLapFuelLitres := 4
  lapFuel := .init Session.dataDir {}

def lapFrame (fuelLevel lap lapsRemain : String) : Frame where
  bufLen := 1
  parseYaml _ := none
  dataMap :=
    { entries :=
        [("FuelLevel".toList, fuelLevel.toList), ("Lap".toList, lap.toList),
         ("SessionLapsRemainEx".toList, lapsRemain.toList)]
      sorted := by
        simp only [List.map_cons, List.map_nil]
        decide }
  fuelMessage := []
  status := {}

/-- With 11.2 litres and five laps to go the stop is offered in 2.1 laps, and a lap later in 1.1. -/
theorem optionalPit_exact_sample :
    let now := tickValues 2 defaultSettings thirstySession (lapFrame "11.2" "6" "5")
    let later := tickValues 2 defaultSettings thirstySession (lapFrame "7.2" "7" "4")
    now.fuel.optionalPit = 21 / 10 ∧ later.fuel.optionalPit = 11 / 10 := by
  intro now later
  have hnow : now.fuel.optionalPit = 21 / 10 := by decide +kernel
  have hon : DrivenOn thirstySession thirstySession (lapFrame "11.2" "6" "5") (lapFrame "7.2" "7" "4")
      now later 1 :=
    ⟨rfl, rfl, by decide +kernel, by decide +kernel⟩
  have h := (optionalPit_exact 2 defaultSettings thirstySession (lapFrame "11.2" "6" "5")
    (by decide +kernel)).2.2 2 defaultSettings thirstySession (lapFrame "7.2" "7" "4") 1 hon
    (by decide) (by decide +kernel) (by decide +kernel)
  refine ⟨hnow, h.trans ?_⟩
  change max 0 (now.fuel.optionalPit - 1) = 11 / 10
  rw [hnow]
  norm_num

end IrPitCrew.Plugin.OptionalPit
