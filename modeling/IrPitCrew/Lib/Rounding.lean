import IrPitCrew.Lib.Decimal
import Mathlib.Algebra.Order.Floor.Ring

/-!
# Rounding to a whole number, and text with a fixed number of places

Ties go away from zero, on both sides. The text with `d` places reads back as
the number rounded at the last place.
-/

open IrPitCrew.Text IrPitCrew.Decimal

namespace IrPitCrew.Rounding

variable {K : Type*} [Field K] [LinearOrder K] [FloorRing K]

/-- The whole part, as a cast to `int` takes it. -/
def truncate (x : K) : ℤ := if x < 0 then ⌈x⌉ else ⌊x⌋

/-- The nearest whole number, of two the one farther from zero. -/
def roundHalfAway (x : K) : ℤ := if x < 0 then -⌊-x + 1 / 2⌋ else ⌊x + 1 / 2⌋

def roundPlaces (d : Nat) (x : K) : K := roundHalfAway (x * 10 ^ d) / 10 ^ d

/-- The text with `d` places, of a number below `10 ^ 21`. From there on JavaScript writes an exponent. -/
def toFixed (d : Nat) (x : K) : Str :=
  let N := (roundHalfAway (x * 10 ^ d)).natAbs
  let frac := digits d N
  (if x < 0 then ['-'] else []) ++
    (Nat.toDigits 10 (N / 10 ^ d) ++ if frac = [] then [] else '.' :: frac)

/-- What `parseFloat` rounds to a double. The text holds a number: without one the result, `NaN`, is
read as 0. -/
def parseFloat (s : Str) : K := (readNumber "eE".toList (ltrim s)).getD 0

theorem truncate_of_nonneg {x : K} (h : 0 ≤ x) : truncate x = ⌊x⌋ := if_neg (not_lt.mpr h)

theorem roundHalfAway_of_nonneg {x : K} (h : 0 ≤ x) : roundHalfAway x = ⌊x + 1 / 2⌋ :=
  if_neg (not_lt.mpr h)

variable [IsStrictOrderedRing K]

/-- Half a unit more makes the rounding one up, of a whole number too. -/
theorem roundHalfAway_add_half {x : K} (h : 0 ≤ x) : roundHalfAway (x + 1 / 2) = ⌊x⌋ + 1 := by
  rw [roundHalfAway_of_nonneg (by linarith), add_assoc, add_halves, Int.floor_add_one]

theorem roundHalfAway_nonneg {x : K} (h : 0 ≤ x) : 0 ≤ roundHalfAway x := by
  rw [roundHalfAway_of_nonneg h]
  apply Int.floor_nonneg.mpr
  linarith

theorem roundHalfAway_nonpos {x : K} (h : x ≤ 0) : roundHalfAway x ≤ 0 := by
  unfold roundHalfAway
  split
  · rename_i hneg
    have hfloor : 0 ≤ ⌊-x + 1 / 2⌋ := Int.floor_nonneg.mpr (by linarith)
    omega
  · rename_i hneg
    have hzero : x = 0 := le_antisymm h (not_lt.mp hneg)
    rw [hzero, zero_add]
    exact (Int.floor_eq_zero_iff.mpr ⟨by norm_num, by norm_num⟩).le

theorem roundHalfAway_intCast (n : ℤ) : roundHalfAway (n : K) = n := by
  have hhalf (m : ℤ) : ⌊(m : K) + 1 / 2⌋ = m := by
    rw [Int.floor_intCast_add, Int.floor_eq_zero_iff.mpr ⟨by norm_num, by norm_num⟩, add_zero]
  unfold roundHalfAway
  split
  · rw [← Int.cast_neg, hhalf, neg_neg]
  · exact hhalf n

theorem roundHalfAway_le_neg {x : K} (n : Nat) (h : x ≤ -n) : roundHalfAway x ≤ -n := by
  have hn : (0 : K) ≤ n := Nat.cast_nonneg n
  unfold roundHalfAway
  split
  · apply neg_le_neg
    rw [Int.le_floor]
    push_cast
    linarith
  · have hzero : x = 0 := by linarith
    have hcast : (n : K) = 0 := by linarith
    rw [hzero, zero_add, Nat.cast_eq_zero.mp hcast]
    exact (Int.floor_eq_zero_iff.mpr ⟨by norm_num, by norm_num⟩).le

/-! ## Rounding at a decimal place -/

theorem roundPlaces_nonneg (d : Nat) {x : K} (h : 0 ≤ x) : 0 ≤ roundPlaces d x := by
  have hpow : (0 : K) < 10 ^ d := by positivity
  apply div_nonneg _ hpow.le
  exact Int.cast_nonneg (roundHalfAway_nonneg (mul_nonneg h hpow.le))

theorem roundPlaces_intCast (d : Nat) (n : ℤ) : roundPlaces d (n : K) = n := by
  have hpow : (10 : K) ^ d ≠ 0 := by positivity
  have hcast : (n : K) * 10 ^ d = ((n * 10 ^ d : ℤ) : K) := by push_cast; rfl
  rw [roundPlaces, hcast, roundHalfAway_intCast, ← hcast, mul_div_cancel_right₀ _ hpow]

theorem roundPlaces_le_neg_one (d : Nat) {x : K} (h : x ≤ -1) : roundPlaces d x ≤ -1 := by
  have hpow : (0 : K) < 10 ^ d := by positivity
  have hscaled : x * 10 ^ d ≤ -((10 ^ d : Nat) : K) := by
    push_cast
    linarith [mul_le_mul_of_nonneg_right h hpow.le]
  have hround : (roundHalfAway (x * 10 ^ d) : K) ≤ -(10 ^ d) := by
    exact_mod_cast roundHalfAway_le_neg _ hscaled
  rw [roundPlaces, div_le_iff₀ hpow]
  linarith

theorem roundHalfAway_neg (x : K) : roundHalfAway (-x) = -roundHalfAway x := by
  rcases lt_trichotomy x 0 with hneg | rfl | hpos
  · rw [roundHalfAway_of_nonneg (by linarith), roundHalfAway, if_pos hneg, neg_neg]
  · rw [neg_zero, ← Int.cast_zero, roundHalfAway_intCast, neg_zero]
  · rw [roundHalfAway, if_pos (by linarith), neg_neg, roundHalfAway_of_nonneg hpos.le]

theorem roundPlaces_neg (d : Nat) (x : K) : roundPlaces d (-x) = -roundPlaces d x := by
  rw [roundPlaces, neg_mul, roundHalfAway_neg, Int.cast_neg, neg_div, roundPlaces]

/-- Of a number that is not negative. -/
theorem roundPlaces_bounds (d : Nat) {x : K} (h : 0 ≤ x) :
    ∃ N : Nat, roundPlaces d x = N / 10 ^ d ∧ (N : K) ≤ x * 10 ^ d + 1 / 2 ∧ x * 10 ^ d + 1 / 2 < N + 1 := by
  have hscaled : 0 ≤ x * 10 ^ d := by positivity
  obtain ⟨N, hN⟩ := Int.eq_ofNat_of_zero_le (roundHalfAway_nonneg hscaled)
  rw [roundHalfAway_of_nonneg hscaled] at hN
  refine ⟨N, ?_, ?_, ?_⟩
  · rw [roundPlaces, roundHalfAway_of_nonneg hscaled, hN]
    simp
  · have hfloor := Int.floor_le (x * 10 ^ d + 1 / 2)
    rw [hN] at hfloor
    exact_mod_cast hfloor
  · have hfloor := Int.lt_floor_add_one (x * 10 ^ d + 1 / 2)
    rw [hN] at hfloor
    exact_mod_cast hfloor

theorem abs_roundPlaces_sub_le (d : Nat) (x : K) : |roundPlaces d x - x| ≤ 1 / 2 / 10 ^ d := by
  have hpow : (0 : K) < 10 ^ d := by positivity
  have hnonneg : ∀ y : K, 0 ≤ y → |roundPlaces d y - y| ≤ 1 / 2 / 10 ^ d := by
    intro y hy
    obtain ⟨N, hN, hle, hlt⟩ := roundPlaces_bounds d hy
    have hsub : (N / 10 ^ d - y) * 10 ^ d = N - y * 10 ^ d := by
      rw [sub_mul, div_mul_cancel₀ _ hpow.ne']
    rw [hN, le_div_iff₀ hpow, ← abs_of_pos hpow, ← abs_mul, abs_of_pos hpow, hsub, abs_le]
    constructor <;> linarith
  rcases le_total 0 x with h | h
  · exact hnonneg x h
  · have hneg := hnonneg (-x) (by linarith)
    rwa [roundPlaces_neg, ← neg_sub', abs_neg] at hneg

/-! ## Numbers that are rounded the same -/

/-- Of a number small enough the places are all among the six digits. -/
theorem sixSig_roundPlaces (d : Nat) (x : K) (h : |x| * 10 ^ d ≤ 10 ^ 6) : SixSig (roundPlaces d x) := by
  have hnonneg : ∀ y : K, 0 ≤ y → y * 10 ^ d ≤ 10 ^ 6 → SixSig (roundPlaces d y) := by
    intro y hy hle
    obtain ⟨N, hN, hNle, -⟩ := roundPlaces_bounds d hy
    have hlt : (N : K) < 10 ^ 6 + 1 := by linarith
    have hltNat : N < 10 ^ 6 + 1 := by exact_mod_cast hlt
    rw [hN]
    exact sixSig_div_pow d N (by omega)
  rcases le_total 0 x with hx | hx
  · rw [abs_of_nonneg hx] at h
    exact hnonneg x hx h
  · rw [abs_of_nonpos hx] at h
    have hneg := (hnonneg (-x) (by linarith) h).neg
    rwa [roundPlaces_neg, neg_neg] at hneg

/-- A number of six digits not farther away than a half is where the rounded number gets. -/
theorem roundSix_roundPlaces_of_near (d : Nat) {x s : K} (hx : 0 ≤ x) (hs : SixSig s)
    (h : |s - x| ≤ 1 / 2 / 10 ^ d) (hr : ¬ SixSig (roundPlaces d x)) :
    roundSix (roundPlaces d x) = s := by
  have hpow : (0 : K) < 10 ^ d := by positivity
  obtain ⟨N, hN, hle, hlt⟩ := roundPlaces_bounds d hx
  have hlarge : 10 ^ 6 < N := by
    by_contra hsmall
    exact hr (hN ▸ sixSig_div_pow d N (not_lt.mp hsmall))
  have hlargeK : (10 : K) ^ 6 + 1 ≤ N := by exact_mod_cast hlarge
  have hnear : |s * 10 ^ d - x * 10 ^ d| ≤ 1 / 2 := by
    rwa [← sub_mul, abs_mul, abs_of_pos hpow, ← le_div_iff₀ hpow]
  rw [abs_le] at hnear
  obtain ⟨S, rfl⟩ := hs.exists_nat d (by linarith)
  rw [div_mul_cancel₀ _ hpow.ne'] at hnear
  have hupper : S < N + 1 := by
    have hK : (S : K) < N + 1 := by linarith
    exact_mod_cast hK
  have hlower : N ≤ S + 1 := by
    have hK : (N : K) ≤ S + 1 := by linarith
    exact_mod_cast hK
  -- The rounded number has more than six digits, so it is not this one.
  have hne : S ≠ N := by
    rintro rfl
    exact hr (hN ▸ hs)
  have hnext : N = S + 1 := by omega
  rw [hN, hnext, Nat.cast_succ]
  exact roundSix_add_one_div_pow d S (by omega) hs

/-- A number is printed, at the last place, within a half of itself exactly when some number of six
digits is. -/
theorem abs_roundSix_roundPlaces_sub_le_iff (d : Nat) (x : K) :
    |roundSix (roundPlaces d x) - x| ≤ 1 / 2 / 10 ^ d ↔ ∃ s, SixSig s ∧ |s - x| ≤ 1 / 2 / 10 ^ d := by
  have hnonneg : ∀ y : K, 0 ≤ y → ∀ s, SixSig s → |s - y| ≤ 1 / 2 / 10 ^ d →
      |roundSix (roundPlaces d y) - y| ≤ 1 / 2 / 10 ^ d := by
    intro y hy s hs h
    by_cases hr : SixSig (roundPlaces d y)
    · rw [roundSix_of_sixSig _ hr]
      exact abs_roundPlaces_sub_le d y
    · rwa [roundSix_roundPlaces_of_near d hy hs h hr]
  constructor
  · exact fun h => ⟨_, sixSig_roundSix _, h⟩
  · rintro ⟨s, hs, h⟩
    rcases le_total 0 x with hx | hx
    · exact hnonneg x hx s hs h
    · have hneg := hnonneg (-x) (by linarith) (-s) hs.neg (by rwa [← neg_sub', abs_neg])
      rwa [roundPlaces_neg, roundSix_neg, ← neg_sub', abs_neg] at hneg

/-! ## Reading the text -/

omit [IsStrictOrderedRing K] in
theorem parseFloat_printNumber_append (x : K) (tail : Str) (ht : NumberEnd "eE".toList tail) :
    parseFloat (printNumber x ++ tail) = roundSix x := by
  rw [parseFloat, ltrim_printNumber_append, readNumber_printNumber_append _ _ _ (by decide) ht]
  rfl

omit [IsStrictOrderedRing K] in
theorem parseFloat_printNumber (x : K) : parseFloat (printNumber x) = roundSix x := by
  simpa using parseFloat_printNumber_append x [] (numberEnd_nil _)

/-- **Read of print.** -/
theorem parseFloat_toFixed (d : Nat) (x : K) : parseFloat (toFixed d x) = roundPlaces d x := by
  set N := (roundHalfAway (x * 10 ^ d)).natAbs with hN
  have hpow : (0 : K) < 10 ^ d := by positivity
  have hread : readUnsigned "eE".toList (Nat.toDigits 10 (N / 10 ^ d) ++
      if digits d N = [] then [] else '.' :: digits d N) = some ((N : K) / 10 ^ d) := by
    have htext := readUnsigned_text (K := K) "eE".toList (Nat.toDigits 10 (N / 10 ^ d)) (digits d N)
      [] Nat.toDigits_ne_nil (isDigit_toDigits _) (isDigit_digits d N) tailOk_nil
    rwa [List.append_nil, decimalValue_digits, readExponent, zpow_zero, mul_one] at htext
  obtain ⟨c, s, hcs⟩ := List.exists_cons_of_ne_nil (Nat.toDigits_ne_nil (n := N / 10 ^ d) (b := 10))
  have hdigit : c.isDigit = true := isDigit_toDigits (N / 10 ^ d) c (by simp [hcs])
  have hspace : isspace c = false := isspace_eq_false_of_numberChar c (.inl hdigit)
  simp only [parseFloat, toFixed, ← hN, roundPlaces]
  by_cases hx : x < 0
  · have hround : ((N : ℤ) : K) = -(roundHalfAway (x * 10 ^ d) : K) := by
      have hle := roundHalfAway_nonpos (mul_neg_of_neg_of_pos hx hpow).le
      rw [hN, Int.natCast_natAbs, abs_of_nonpos hle]
      push_cast
      rfl
    rw [if_pos hx, List.singleton_append, ltrim_cons _ _ rfl, readNumber, signed]
    simp only [hread, Option.map_some, if_true, Option.getD_some]
    rw [← Int.cast_natCast, hround, neg_div, neg_neg]
  · have hround : ((N : ℤ) : K) = (roundHalfAway (x * 10 ^ d) : K) := by
      have hle := roundHalfAway_nonneg (mul_nonneg (not_lt.mp hx) hpow.le)
      rw [hN, Int.natCast_natAbs, abs_of_nonneg hle]
    rw [if_neg hx, List.nil_append, hcs, List.cons_append, ltrim_cons _ _ hspace, readNumber,
      signed_of_isDigit c _ hdigit, ← List.cons_append, ← hcs]
    simp only [hread, Option.map_some, Bool.false_eq_true, if_false, Option.getD_some]
    rw [← Int.cast_natCast, hround]

/-! ## Equal texts -/

omit [IsStrictOrderedRing K] in
theorem toFixed_ne_nil (d : Nat) (x : K) : toFixed d x ≠ [] := by
  simp [toFixed, Nat.toDigits_ne_nil]

omit [IsStrictOrderedRing K] in
theorem head_toFixed (d : Nat) (x : K) : (toFixed d x).head? = some '-' ↔ x < 0 := by
  by_cases hx : x < 0
  · simp [toFixed, hx]
  · have hdigit : (toFixed d x).head? ≠ some '-' := by
      obtain ⟨c, s, hcs⟩ := List.exists_cons_of_ne_nil
        (Nat.toDigits_ne_nil (n := (roundHalfAway (x * 10 ^ d)).natAbs / 10 ^ d) (b := 10))
      have hc : c.isDigit = true :=
        isDigit_toDigits ((roundHalfAway (x * 10 ^ d)).natAbs / 10 ^ d) c (by simp [hcs])
      simp only [toFixed, if_neg hx, hcs, List.nil_append, List.cons_append, List.head?_cons,
        Option.some.injEq, ne_eq]
      rintro rfl
      exact absurd hc (by decide)
    exact iff_of_false hdigit hx

/-- Two numbers have the same text when they are rounded the same and have the same sign. -/
theorem toFixed_eq_iff (d : Nat) (x y : K) :
    toFixed d x = toFixed d y ↔ roundPlaces d x = roundPlaces d y ∧ (x < 0 ↔ y < 0) := by
  constructor
  · intro h
    refine ⟨?_, ?_⟩
    · rw [← parseFloat_toFixed, h, parseFloat_toFixed]
    · rw [← head_toFixed d x, h, head_toFixed]
  · rintro ⟨hround, hsign⟩
    have hpow : (10 : K) ^ d ≠ 0 := by positivity
    have hN : roundHalfAway (x * 10 ^ d) = roundHalfAway (y * 10 ^ d) := by
      unfold roundPlaces at hround
      exact_mod_cast (div_left_inj' hpow).mp hround
    simp only [toFixed, hN, hsign]

end IrPitCrew.Rounding
