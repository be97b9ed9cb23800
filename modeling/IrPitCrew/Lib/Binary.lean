import IrPitCrew.Lib.Rounding

/-!
# Binary floating point

A format holds whole multiples of powers of two. Rounding takes the nearest number that it holds, of
two the even one. There is no greatest exponent, so nothing overflows.
-/

open IrPitCrew.Decimal IrPitCrew.Rounding

namespace IrPitCrew.Binary

structure Format where
  digits : Nat
  minExp : ℤ
  digits_pos : 0 < digits

def single : Format := ⟨24, -149, by decide⟩

def double : Format := ⟨53, -1074, by decide⟩

variable {K : Type*} [Field K]

/-- At most `digits` binary digits before a power of two, which is not below the least one. -/
def Format.Holds (f : Format) (v : K) : Prop :=
  ∃ m e : ℤ, |m| ≤ 2 ^ f.digits ∧ f.minExp ≤ e ∧ v = m * 2 ^ e

variable [LinearOrder K] [FloorRing K]

/-- The nearest whole number, of two the even one. -/
def roundHalfEven (x : K) : ℤ :=
  if Int.fract x < 1 / 2 then ⌊x⌋
  else if 1 / 2 < Int.fract x then ⌊x⌋ + 1
  else if Even ⌊x⌋ then ⌊x⌋ else ⌊x⌋ + 1

namespace Format

variable (f : Format)

/-- The exponent of the last digit of a number. -/
def exponent (x : K) : ℤ := max (Int.log 2 |x| + 1 - f.digits) f.minExp

def round (x : K) : K := roundHalfEven (x / 2 ^ f.exponent x) * 2 ^ f.exponent x

end Format

/-! ## The nearest whole number -/

theorem roundHalfEven_cases (x : K) :
    roundHalfEven x = ⌊x⌋ ∧ Int.fract x ≤ 1 / 2 ∨ roundHalfEven x = ⌊x⌋ + 1 ∧ 1 / 2 ≤ Int.fract x := by
  unfold roundHalfEven
  rcases lt_trichotomy (Int.fract x) (1 / 2) with hlt | heq | hgt
  · rw [if_pos hlt]
    exact .inl ⟨rfl, hlt.le⟩
  · rw [if_neg heq.not_lt, if_neg heq.not_gt]
    split
    · exact .inl ⟨rfl, heq.le⟩
    · exact .inr ⟨rfl, heq.ge⟩
  · rw [if_neg hgt.not_gt, if_pos hgt]
    exact .inr ⟨rfl, hgt.le⟩

variable [IsStrictOrderedRing K]

theorem abs_roundHalfEven_sub_le_half (x : K) : |(roundHalfEven x : K) - x| ≤ 1 / 2 := by
  have hx := Int.floor_add_fract x
  have hnonneg := Int.fract_nonneg x
  have hlt := Int.fract_lt_one x
  rw [abs_le]
  rcases roundHalfEven_cases x with ⟨hr, hfract⟩ | ⟨hr, hfract⟩
  · rw [hr]
    constructor <;> linarith
  · rw [hr, Int.cast_add, Int.cast_one]
    constructor <;> linarith

theorem abs_roundHalfEven_sub_le (x : K) (m : ℤ) : |(roundHalfEven x : K) - x| ≤ |m - x| := by
  have hx := Int.floor_add_fract x
  have hnonneg := Int.fract_nonneg x
  have hlt := Int.fract_lt_one x
  have hdist : Int.fract x ≤ |m - x| ∨ 1 - Int.fract x ≤ |m - x| := by
    rcases le_or_gt m ⌊x⌋ with h | h
    · have hm : (m : K) ≤ ⌊x⌋ := by exact_mod_cast h
      exact .inl (le_abs.mpr (.inr (by linarith)))
    · have hm : (⌊x⌋ : K) + 1 ≤ m := by exact_mod_cast h
      exact .inr (le_abs.mpr (.inl (by linarith)))
  have hround : |(roundHalfEven x : K) - x| ≤ Int.fract x ∧
      |(roundHalfEven x : K) - x| ≤ 1 - Int.fract x := by
    rw [abs_le, abs_le]
    rcases roundHalfEven_cases x with ⟨hr, hfract⟩ | ⟨hr, hfract⟩
    · rw [hr]
      refine ⟨⟨?_, ?_⟩, ?_, ?_⟩ <;> linarith
    · rw [hr, Int.cast_add, Int.cast_one]
      refine ⟨⟨?_, ?_⟩, ?_, ?_⟩ <;> linarith
  exact hdist.elim hround.1.trans hround.2.trans

/-! ## The nearest number of a format -/

namespace Format

variable (f : Format)

omit [LinearOrder K] [FloorRing K] [IsStrictOrderedRing K] in
theorem Holds.neg {f : Format} {v : K} (h : f.Holds v) : f.Holds (-v) := by
  obtain ⟨m, e, hm, he, rfl⟩ := h
  exact ⟨-m, e, by rwa [abs_neg], he, by push_cast; ring⟩

/-- No multiple of the last digit is nearer. -/
theorem abs_round_sub_le_of_multiple (x : K) (m : ℤ) :
    |f.round x - x| ≤ |m * 2 ^ f.exponent x - x| := by
  have hunit : (0 : K) < 2 ^ f.exponent x := by positivity
  have hscale (k : ℤ) : |(k : K) * 2 ^ f.exponent x - x| =
      |(k : K) - x / 2 ^ f.exponent x| * 2 ^ f.exponent x := by
    rw [← abs_of_pos hunit, ← abs_mul, abs_of_pos hunit, sub_mul, div_mul_cancel₀ _ hunit.ne']
  rw [round, hscale, hscale]
  exact mul_le_mul_of_nonneg_right (abs_roundHalfEven_sub_le _ m) hunit.le

/-- Where the last digit is above the least one, the number has all its digits. -/
theorem le_abs_of_minExp_lt {x : K} (hx : x ≠ 0) (h : f.minExp < f.exponent x) :
    2 ^ (f.exponent x + f.digits - 1) ≤ |x| := by
  have hlog := Int.zpow_log_le_self (b := 2) (by norm_num) (abs_pos.mpr hx)
  push_cast at hlog
  have hexp : f.exponent x + f.digits - 1 = Int.log 2 |x| := by
    unfold exponent at h ⊢
    omega
  rwa [hexp]

theorem abs_lt_of_exponent (x : K) : |x| < 2 ^ (f.exponent x + f.digits) := by
  have hlog := Int.lt_zpow_succ_log_self (b := 2) (by norm_num) |x|
  push_cast at hlog
  refine hlog.trans_le (zpow_le_zpow_right₀ (by norm_num) ?_)
  unfold exponent
  omega

/-- **Nearest.** No number of the format is nearer. -/
theorem abs_round_sub_le (x : K) {v : K} (hv : f.Holds v) : |f.round x - x| ≤ |v - x| := by
  obtain ⟨m, k, hm, hk, rfl⟩ := hv
  rcases le_or_gt (f.exponent x) k with hle | hlt
  · obtain ⟨j, hj⟩ := Int.eq_ofNat_of_zero_le (sub_nonneg.mpr hle)
    have hmultiple : (m : K) * 2 ^ k = ((m * 2 ^ j : ℤ) : K) * 2 ^ f.exponent x := by
      rw [show k = j + f.exponent x by omega, zpow_add₀ (by norm_num), zpow_natCast]
      push_cast
      ring
    rw [hmultiple]
    exact f.abs_round_sub_le_of_multiple x _
  · -- Between the two lies the least number of this exponent with all digits.
    have hmin : f.minExp < f.exponent x := lt_of_le_of_lt hk hlt
    rcases eq_or_ne x 0 with rfl | hx
    · have hzero := f.abs_round_sub_le_of_multiple (0 : K) 0
      rw [Int.cast_zero, zero_mul, sub_self, abs_zero] at hzero
      exact hzero.trans (abs_nonneg _)
    have hx := f.le_abs_of_minExp_lt hx hmin
    have hbound : |(m : K) * 2 ^ k| ≤ 2 ^ (f.exponent x + f.digits - 1) := by
      rw [abs_mul, abs_of_pos (by positivity : (0 : K) < 2 ^ k)]
      calc |(m : K)| * 2 ^ k ≤ 2 ^ (f.digits : ℤ) * 2 ^ k := by
            gcongr
            rw [zpow_natCast]
            exact_mod_cast hm
        _ = 2 ^ (f.digits + k) := (zpow_add₀ (by norm_num) _ _).symm
        _ ≤ 2 ^ (f.exponent x + f.digits - 1) := by
            gcongr
            · norm_num
            · omega
    have hmultiple : (2 : K) ^ (f.exponent x + f.digits - 1) =
        ((2 ^ (f.digits - 1) : ℤ) : K) * 2 ^ f.exponent x := by
      have hpos := f.digits_pos
      rw [show f.exponent x + f.digits - 1 = ((f.digits - 1 : Nat) : ℤ) + f.exponent x by omega,
        zpow_add₀ (by norm_num), zpow_natCast]
      push_cast
      rfl
    rw [abs_le] at hbound
    rcases le_total 0 x with h0 | h0
    · rw [abs_of_nonneg h0] at hx
      refine (f.abs_round_sub_le_of_multiple x (2 ^ (f.digits - 1))).trans ?_
      rw [← hmultiple, abs_of_nonpos (by linarith), abs_of_nonpos (by linarith)]
      linarith
    · rw [abs_of_nonpos h0] at hx
      refine (f.abs_round_sub_le_of_multiple x (-2 ^ (f.digits - 1))).trans ?_
      rw [Int.cast_neg, neg_mul, ← hmultiple, abs_of_nonneg (by linarith), abs_of_nonneg (by linarith)]
      linarith

theorem round_of_holds {v : K} (h : f.Holds v) : f.round v = v := by
  have hle := f.abs_round_sub_le v h
  rw [sub_self, abs_zero, abs_nonpos_iff, sub_eq_zero] at hle
  exact hle

theorem holds_round (x : K) : f.Holds (f.round x) := by
  refine ⟨roundHalfEven (x / 2 ^ f.exponent x), f.exponent x, ?_, le_max_right _ _, rfl⟩
  have hunit : (0 : K) < 2 ^ f.exponent x := by positivity
  have habs : |x / 2 ^ f.exponent x| < 2 ^ f.digits := by
    rw [abs_div, abs_of_pos hunit, div_lt_iff₀ hunit, ← zpow_natCast, ← zpow_add₀ (by norm_num),
      add_comm]
    exact f.abs_lt_of_exponent x
  -- The bound is whole, so what is next to a number within it is within it too.
  obtain ⟨hlo, hhi⟩ := abs_lt.mp habs
  have hup := abs_roundHalfEven_sub_le (x / 2 ^ f.exponent x) (2 ^ f.digits)
  have hdown := abs_roundHalfEven_sub_le (x / 2 ^ f.exponent x) (-2 ^ f.digits)
  push_cast at hup hdown
  rw [abs_of_pos (by linarith : (0 : K) < 2 ^ f.digits - x / 2 ^ f.exponent x), abs_le] at hup
  rw [abs_of_neg (by linarith : -(2 : K) ^ f.digits - x / 2 ^ f.exponent x < 0), abs_le] at hdown
  have hle : (roundHalfEven (x / 2 ^ f.exponent x) : K) ≤ ((2 ^ f.digits : ℤ) : K) := by
    push_cast
    linarith
  have hge : ((-2 ^ f.digits : ℤ) : K) ≤ roundHalfEven (x / 2 ^ f.exponent x) := by
    push_cast
    linarith
  exact abs_le.mpr ⟨by exact_mod_cast hge, by exact_mod_cast hle⟩

theorem le_round_of_le {v x : K} (hv : f.Holds v) (h : v ≤ x) : v ≤ f.round x := by
  have hle := f.abs_round_sub_le x hv
  rw [abs_of_nonpos (by linarith : v - x ≤ 0), abs_le] at hle
  linarith

theorem round_le_of_le {v x : K} (hv : f.Holds v) (h : x ≤ v) : f.round x ≤ v := by
  have hle := f.abs_round_sub_le x hv
  rw [abs_of_nonneg (by linarith : 0 ≤ v - x), abs_le] at hle
  linarith

/-! ## What a format holds -/

omit [LinearOrder K] [FloorRing K] [IsStrictOrderedRing K] in
theorem holds_intCast (m : ℤ) (hm : |m| ≤ 2 ^ f.digits) (hmin : f.minExp ≤ 0) : f.Holds (m : K) :=
  ⟨m, 0, hm, hmin, by simp⟩

omit [LinearOrder K] [FloorRing K] [IsStrictOrderedRing K] in
theorem holds_zero : f.Holds (0 : K) := ⟨0, f.minExp, by simp, le_rfl, by simp⟩

@[simp] theorem round_zero : f.round (0 : K) = 0 := f.round_of_holds f.holds_zero

theorem round_nonneg {x : K} (h : 0 ≤ x) : 0 ≤ f.round x := f.le_round_of_le f.holds_zero h

/-! ## How far a number is moved -/

theorem abs_round_sub_le_half (x : K) : |f.round x - x| ≤ 2 ^ f.exponent x / 2 := by
  have hunit : (0 : K) < 2 ^ f.exponent x := by positivity
  have hscale : f.round x - x =
      ((roundHalfEven (x / 2 ^ f.exponent x) : K) - x / 2 ^ f.exponent x) * 2 ^ f.exponent x := by
    rw [sub_mul, div_mul_cancel₀ _ hunit.ne', round]
  rw [hscale, abs_mul, abs_of_pos hunit]
  have hhalf := mul_le_mul_of_nonneg_right (abs_roundHalfEven_sub_le_half (x / 2 ^ f.exponent x)) hunit.le
  linarith

/-- Up to a power of two, by at most half of the last digit there. -/
theorem abs_round_sub_le_of_abs_le {x : K} {k : ℤ} (h : |x| ≤ 2 ^ k) (hk : f.minExp + f.digits ≤ k) :
    |f.round x - x| ≤ 2 ^ (k - f.digits) / 2 := by
  rcases h.eq_or_lt with heq | hlt
  · have hholds : f.Holds x := by
      have hpower : f.Holds ((2 : K) ^ k) :=
        ⟨1, k, by rw [abs_one]; exact_mod_cast Nat.one_le_two_pow, by omega, by simp⟩
      rcases abs_choice x with habs | habs
      · rwa [← habs, heq]
      · rw [← neg_neg x, ← habs, heq]
        exact hpower.neg
    rw [f.round_of_holds hholds, sub_self, abs_zero]
    positivity
  · rcases eq_or_ne x 0 with rfl | hx
    · rw [round_zero, sub_self, abs_zero]
      positivity
    have hlog : Int.log 2 |x| < k := by
      rw [← Int.lt_zpow_iff_log_lt (by norm_num) (abs_pos.mpr hx)]
      exact_mod_cast hlt
    refine (f.abs_round_sub_le_half x).trans ?_
    gcongr
    · norm_num
    · unfold exponent
      omega

/-! ## Rounding at a decimal place, and then to the format -/

omit [FloorRing K] in
theorem Holds.exists_shift {f : Format} {v : K} (h : f.Holds v) (j : Nat) (hj : -f.minExp ≤ j) :
    ∃ N : ℤ, v * 2 ^ j = N := by
  obtain ⟨m, e, -, he, rfl⟩ := h
  obtain ⟨k, hk⟩ := Int.eq_ofNat_of_zero_le (show 0 ≤ e + j by omega)
  refine ⟨m * 2 ^ k, ?_⟩
  rw [mul_assoc, ← zpow_natCast, ← zpow_add₀ (by norm_num), hk]
  push_cast
  simp

omit [FloorRing K] in
/-- A unit of a decimal place has a factor of five below. -/
theorem Holds.sub_ne {f : Format} {v w : K} (hv : f.Holds v) (hw : f.Holds w) {d : Nat} (hd : d ≠ 0) :
    v - w ≠ 1 / 10 ^ d := by
  intro h
  obtain ⟨N, hN⟩ := hv.exists_shift f.minExp.natAbs (by omega)
  obtain ⟨M, hM⟩ := hw.exists_shift f.minExp.natAbs (by omega)
  have hpow : (10 : K) ^ d ≠ 0 := by positivity
  have hcast : (((N - M) * 10 ^ d : ℤ) : K) = ((2 ^ f.minExp.natAbs : ℤ) : K) := by
    push_cast
    rw [← hN, ← hM, ← sub_mul, h, mul_right_comm, one_div, inv_mul_cancel₀ hpow, one_mul]
  have heq : (N - M) * 10 ^ d = 2 ^ f.minExp.natAbs := by exact_mod_cast hcast
  have hfive : (5 : ℤ) ∣ 2 ^ f.minExp.natAbs := by
    rw [← heq]
    exact Dvd.dvd.mul_left (dvd_pow (by norm_num) hd) _
  have hcoprime : Nat.Coprime 5 (2 ^ f.minExp.natAbs) := Nat.Coprime.pow_right _ (by decide)
  exact absurd (hcoprime.eq_one_of_dvd (by exact_mod_cast hfive)) (by decide)

/-- Numbers that are rounded differently are still different in the format. -/
theorem roundPlaces_le_of_round_eq {v w : K} (hv : f.Holds v) (hw : f.Holds w) {d : Nat} (hd : d ≠ 0)
    (h : f.round (roundPlaces d v) = f.round (roundPlaces d w)) : roundPlaces d w ≤ roundPlaces d v := by
  by_contra hlt
  rw [not_le] at hlt
  have hpow : (0 : K) < 10 ^ d := by positivity
  have hunit : roundPlaces d v + 1 / 10 ^ d ≤ roundPlaces d w := by
    unfold roundPlaces at hlt ⊢
    rw [div_lt_div_iff_of_pos_right hpow, Int.cast_lt] at hlt
    rw [← add_div, div_le_div_iff_of_pos_right hpow]
    exact_mod_cast hlt
  have hhalf : (1 : K) / 2 / 10 ^ d + 1 / 2 / 10 ^ d = 1 / 10 ^ d := by rw [← add_div, add_halves]
  have hnearv := abs_le.mp (abs_roundPlaces_sub_le d v)
  have hnearw := abs_le.mp (abs_roundPlaces_sub_le d w)
  have hroundv := f.abs_round_sub_le (roundPlaces d v) hv
  have hroundw := f.abs_round_sub_le (roundPlaces d w) hw
  have hdistv := hroundv.trans ((abs_sub_comm _ _).le.trans (abs_roundPlaces_sub_le d v))
  have hdistw := hroundw.trans ((abs_sub_comm _ _).le.trans (abs_roundPlaces_sub_le d w))
  -- The common value lies halfway, and each number is as far away as it.
  rw [abs_le] at hdistv hdistw
  have hmid : f.round (roundPlaces d v) = roundPlaces d v + 1 / 2 / 10 ^ d := by linarith
  have hv' : v = f.round (roundPlaces d v) := by
    rw [hmid, add_sub_cancel_left, abs_of_pos (by positivity), le_abs] at hroundv
    rcases hroundv with hge | hge
    · linarith
    · have hsub := (f.holds_round (roundPlaces d v)).sub_ne hv hd
      exact absurd (by linarith) hsub
  have hw' : w = f.round (roundPlaces d v) := by
    rw [← h, hmid, show roundPlaces d v + 1 / 2 / 10 ^ d - roundPlaces d w = -(1 / 2 / 10 ^ d) by linarith,
      abs_neg, abs_of_pos (by positivity), le_abs] at hroundw
    rcases hroundw with hge | hge
    · have hsub := hw.sub_ne (f.holds_round (roundPlaces d v)) hd
      exact absurd (by linarith) hsub
    · linarith
  rw [hv'.trans hw'.symm] at hlt
  exact lt_irrefl _ hlt

theorem round_roundPlaces_eq_iff {v w : K} (hv : f.Holds v) (hw : f.Holds w) {d : Nat} (hd : d ≠ 0) :
    f.round (roundPlaces d v) = f.round (roundPlaces d w) ↔ roundPlaces d v = roundPlaces d w := by
  refine ⟨fun h => le_antisymm ?_ ?_, fun h => by rw [h]⟩
  · exact f.roundPlaces_le_of_round_eq hw hv hd h.symm
  · exact f.roundPlaces_le_of_round_eq hv hw hd h

theorem round_roundPlaces_eq_zero_iff {v : K} (hv : f.Holds v) {d : Nat} (hd : d ≠ 0) :
    f.round (roundPlaces d v) = 0 ↔ roundPlaces d v = 0 := by
  have hzero : roundPlaces d (0 : K) = 0 := by simpa using roundPlaces_intCast (K := K) d 0
  have hiff := f.round_roundPlaces_eq_iff hv f.holds_zero hd
  rwa [hzero, round_zero] at hiff

theorem round_roundPlaces_neg_iff {v : K} (hv : f.Holds v) {d : Nat} (hd : d ≠ 0) :
    f.round (roundPlaces d v) < 0 ↔ roundPlaces d v < 0 := by
  constructor
  · intro h
    by_contra hge
    exact absurd (f.round_nonneg (not_lt.mp hge)) (not_le.mpr h)
  · intro h
    refine lt_of_le_of_ne (f.round_le_of_le f.holds_zero h.le) ?_
    exact mt (f.round_roundPlaces_eq_zero_iff hv hd).mp h.ne

/-! ## Quotient and rest -/

theorem Holds.exists_multiple {f : Format} {v : K} (h : f.Holds v) : ∃ m : ℤ, v = m * 2 ^ f.exponent v :=
  ⟨_, (f.round_of_holds h).symm⟩

theorem exponent_nonpos {t : K} (h0 : 0 ≤ t) (h : t < 2 ^ f.digits) (hmin : f.minExp ≤ 0) :
    f.exponent t ≤ 0 := by
  have hpos := f.digits_pos
  have hlog : Int.log 2 |t| < f.digits := by
    rcases h0.eq_or_lt with rfl | ht
    · rw [abs_zero, Int.log_of_right_le_zero _ le_rfl]
      exact_mod_cast hpos
    · rw [← Int.lt_zpow_iff_log_lt (by norm_num) (abs_pos.mpr ht.ne'), abs_of_pos ht, zpow_natCast]
      exact_mod_cast h
  unfold exponent
  omega

/-- The last digit of a number is one of a whole number too. -/
theorem Holds.exists_sub_multiple {f : Format} {t : K} (ht : f.Holds t) (h0 : 0 ≤ t)
    (h : t < 2 ^ f.digits) (hmin : f.minExp ≤ 0) (n : ℤ) : ∃ m : ℤ, t - n = m * 2 ^ f.exponent t := by
  obtain ⟨m, hm⟩ := ht.exists_multiple
  obtain ⟨j, hj⟩ := Int.eq_ofNat_of_zero_le (neg_nonneg.mpr (f.exponent_nonpos h0 h hmin))
  have hunit : (2 : K) ^ j * 2 ^ f.exponent t = 1 := by
    rw [← zpow_natCast, ← hj, ← zpow_add₀ (by norm_num), neg_add_cancel, zpow_zero]
  refine ⟨m - n * 2 ^ j, ?_⟩
  push_cast
  rw [sub_mul, ← hm, mul_assoc, hunit, mul_one]

/-- The rest after a whole number is taken away. -/
theorem Holds.sub_intCast {f : Format} {t : K} (ht : f.Holds t) (h : t < 2 ^ f.digits) (hmin : f.minExp ≤ 0)
    {k : ℤ} (hk : 0 ≤ k) (hkt : (k : K) ≤ t) : f.Holds (t - k) := by
  have hkK : (0 : K) ≤ k := Int.cast_nonneg hk
  have h0 : 0 ≤ t := hkK.trans hkt
  have hpos : (0 : K) < 2 ^ f.exponent t := by positivity
  obtain ⟨m, hm⟩ := ht.exists_sub_multiple h0 h hmin k
  refine ⟨m, f.exponent t, ?_, le_max_right _ _, hm⟩
  have hnonneg : (0 : K) ≤ m := by
    apply nonneg_of_mul_nonneg_left _ hpos
    rw [← hm]
    linarith
  have hlt : (m : K) < 2 ^ f.digits := by
    have habs := f.abs_lt_of_exponent t
    rw [abs_of_nonneg h0, add_comm, zpow_add₀ (by norm_num), zpow_natCast] at habs
    apply lt_of_mul_lt_mul_right _ hpos.le
    rw [← hm]
    linarith
  have hltInt : m < 2 ^ f.digits := by exact_mod_cast hlt
  rw [abs_of_nonneg (by exact_mod_cast hnonneg)]
  exact hltInt.le

/-- A larger whole number is a unit of the last digit away. -/
theorem Holds.unit_le_sub {f : Format} {t : K} (ht : f.Holds t) (h0 : 0 ≤ t) (h : t < 2 ^ f.digits)
    (hmin : f.minExp ≤ 0) {n : ℤ} (hn : t < n) : 2 ^ f.exponent t ≤ n - t := by
  have hpos : (0 : K) < 2 ^ f.exponent t := by positivity
  obtain ⟨m, hm⟩ := ht.exists_sub_multiple h0 h hmin n
  have hneg : (m : K) < 0 := by
    apply neg_of_mul_neg_right _ hpos.le
    rw [mul_comm, ← hm]
    linarith
  have hnegInt : m < 0 := by exact_mod_cast hneg
  have hone : (m : K) ≤ -1 := by exact_mod_cast Int.le_sub_one_of_lt hnegInt
  have hmul := mul_le_mul_of_nonneg_right hone hpos.le
  linarith

/-- Rounding does not reach the next whole number. -/
theorem floor_round_div {t : K} (ht : f.Holds t) (h0 : 0 ≤ t) (h : t < 2 ^ f.digits)
    (hmin : f.minExp + f.digits ≤ -1) {q : Nat} (hq : 0 < q) : ⌊f.round (t / q)⌋ = ⌊t / q⌋ := by
  have hqK : (1 : K) ≤ q := by exact_mod_cast hq
  have hdiv0 : 0 ≤ t / q := by positivity
  have hdiv : t / q ≤ t := div_le_self h0 hqK
  have hfloor0 : 0 ≤ ⌊t / q⌋ := Int.floor_nonneg.mpr hdiv0
  have hholds : f.Holds (⌊t / q⌋ : K) := by
    refine f.holds_intCast _ ?_ (by omega)
    have hlt : (⌊t / q⌋ : K) < 2 ^ f.digits := (Int.floor_le _).trans_lt (hdiv.trans_lt h)
    rw [abs_of_nonneg hfloor0]
    have hltInt : ⌊t / q⌋ < 2 ^ f.digits := by exact_mod_cast hlt
    exact hltInt.le
  rw [Int.floor_eq_iff]
  refine ⟨f.le_round_of_le hholds (Int.floor_le _), ?_⟩
  have hnext := Int.lt_floor_add_one (t / (q : K))
  have hfloorK : (0 : K) ≤ ⌊t / q⌋ := Int.cast_nonneg hfloor0
  have hle : f.minExp ≤ f.exponent (t / q) := le_max_right _ _
  rcases hle.eq_or_lt with hexp | hexp
  · -- A quotient this small is below a half.
    have hhalf : f.Holds (1 / 2 : K) := by
      have hpos := f.digits_pos
      exact ⟨1, -1, by rw [abs_one]; exact_mod_cast Nat.one_le_two_pow, by omega, by norm_num⟩
    have hsmall : t / q ≤ 1 / 2 := by
      have hlt := f.abs_lt_of_exponent (t / q)
      rw [← hexp, abs_of_nonneg hdiv0] at hlt
      have hle : (2 : K) ^ (f.minExp + f.digits) ≤ 2 ^ (-1 : ℤ) := zpow_le_zpow_right₀ (by norm_num) hmin
      rw [zpow_neg_one] at hle
      linarith
    linarith [f.round_le_of_le hhalf hsmall]
  rcases hdiv0.eq_or_lt with hzero | hpos
  · rw [← hzero, round_zero, Int.floor_zero, Int.cast_zero]
    norm_num
  -- The quotient is rounded by less than the gap below the next whole number.
  have hlow := f.le_abs_of_minExp_lt hpos.ne' hexp
  have hhigh := f.abs_lt_of_exponent t
  rw [abs_of_pos hpos, le_div_iff₀ (by linarith)] at hlow
  rw [abs_of_nonneg h0] at hhigh
  have hcoarse : (2 : K) ^ f.exponent (t / q) / 2 * q < 2 ^ f.exponent t := by
    have hlt := hlow.trans_lt hhigh
    rw [add_sub_right_comm, zpow_add₀ (by norm_num), zpow_add₀ (by norm_num), zpow_sub_one₀ (by norm_num),
      ← div_eq_mul_inv, mul_right_comm] at hlt
    exact lt_of_mul_lt_mul_right hlt (by positivity)
  have hgap := ht.unit_le_sub h0 h (by omega) (n := (⌊t / q⌋ + 1) * q) (by
    push_cast
    rwa [← div_lt_iff₀ (by linarith)])
  have herr := (abs_le.mp (f.abs_round_sub_le_half (t / q))).2
  have hscaled : (f.round (t / q) - t / q) * q ≤ 2 ^ f.exponent (t / q) / 2 * q :=
    mul_le_mul_of_nonneg_right herr (by linarith)
  rw [sub_mul, div_mul_cancel₀ _ (by linarith)] at hscaled
  push_cast at hgap
  exact lt_of_mul_lt_mul_right (by linarith : f.round (t / q) * q < (⌊t / q⌋ + 1) * q) (by linarith)

/-! ## A decimal of six digits -/

variable (d N : Nat)

end Format

/-! ## The arithmetic of a program -/

/-- What becomes of a result: of type `float` or `double`, of a number read from a text as an `int`, and
of a whole part cast to `int`. -/
structure Arith (K : Type*) where
  single : K → K
  double : K → K
  readInt : ℤ → ℤ
  castInt : ℤ → ℤ

namespace Arith

def intMin : ℤ := -2147483648

def intMax : ℤ := 2147483647

/-- Numbers without a bound or a last digit. -/
def exact : Arith K := ⟨id, id, id, id⟩

/-- A number too large for an `int` is read as the limit, and cast to the least one. -/
def machine : Arith K where
  single := Binary.single.round
  double := Binary.double.round
  readInt n := max intMin (min n intMax)
  castInt n := if intMin ≤ n ∧ n ≤ intMax then n else intMin

omit [Field K] [LinearOrder K] [FloorRing K] [IsStrictOrderedRing K] in
@[simp] theorem double_exact (x : K) : (exact : Arith K).double x = x := rfl

omit [IsStrictOrderedRing K] in
theorem readInt_machine {n : ℤ} (hmin : intMin ≤ n) (hmax : n ≤ intMax) :
    (machine : Arith K).readInt n = n := by
  change max intMin (min n intMax) = n
  rw [min_eq_left hmax, max_eq_right hmin]

omit [IsStrictOrderedRing K] in
theorem castInt_machine {n : ℤ} (hmin : intMin ≤ n) (hmax : n ≤ intMax) :
    (machine : Arith K).castInt n = n := if_pos ⟨hmin, hmax⟩

end Arith

end IrPitCrew.Binary
