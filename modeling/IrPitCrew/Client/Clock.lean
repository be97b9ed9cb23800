import IrPitCrew.Client.ServerData
import Mathlib.Data.Rat.Floor

/-!
# The clock texts of the display

`createTimeString` writes a time as `MM:SS`, from an hour on as `H:MM:SS`. Its
texts are exactly those that the reader below accepts, and a text is read back as
the whole seconds of the time.
-/

open IrPitCrew.Text IrPitCrew.Decimal IrPitCrew.Binary
open IrPitCrew.Client.ServerData

namespace IrPitCrew.Client

/-! ## Reading a clock text -/

/-- The number of two digits below 60. -/
def readSixty : Str → Option ℕ
  | [a, b] => if a.isDigit ∧ b.isDigit ∧ a < '6' then some (Nat.ofDigitChars 10 [a, b] 0) else none
  | _ => none

/-- The number of a digit string with no leading zero. -/
def readHours (s : Str) : Option ℕ :=
  if s.all Char.isDigit ∧ s ≠ [] ∧ s.head? ≠ some '0' then some (Nat.ofDigitChars 10 s 0)
  else none

/-- The seconds of what stands between the colons. -/
def readParts : List Str → Option ℕ
  | [minutes, seconds] =>
    (readSixty minutes).bind fun m => (readSixty seconds).map fun t => 60 * m + t
  | [hours, minutes, seconds] =>
    (readHours hours).bind fun h => (readSixty minutes).bind fun m =>
      (readSixty seconds).map fun t => 3600 * h + 60 * m + t
  | _ => none

def readClock (s : Str) : Option ℕ := readParts (s.splitOn ':')

/-! ## The text of a number of seconds -/

def twoDigits (n : ℕ) : Str := (if n < 10 then ['0'] else []) ++ Nat.toDigits 10 n

def clockParts (n : ℕ) : List Str :=
  (if 3600 ≤ n then [Nat.toDigits 10 (n / 3600)] else []) ++
    [twoDigits (n / 60 % 60), twoDigits (n % 60)]

def clock (n : ℕ) : Str := [':'].intercalate (clockParts n)

theorem twoDigits_eq (n : ℕ) (h : n < 60) : twoDigits n = [(n / 10).digitChar, (n % 10).digitChar] := by
  unfold twoDigits
  split
  · rename_i hn
    rw [Nat.toDigits_of_lt_base hn, Nat.div_eq_of_lt hn, Nat.mod_eq_of_lt hn]
    rfl
  · rw [Nat.toDigits_of_base_le (by omega) (by omega), Nat.toDigits_of_lt_base (by omega)]
    rfl

theorem isDigit_twoDigits (n : ℕ) : ∀ c ∈ twoDigits n, c.isDigit = true := by
  intro c hc
  unfold twoDigits at hc
  rcases List.mem_append.1 hc with hc | hc
  · split at hc
    · rw [List.mem_singleton.1 hc]
      rfl
    · simp at hc
  · exact isDigit_toDigits n c hc

/-! ## The reader accepts the texts, and nothing else -/

theorem ofDigitChars_pair (a b : Char) :
    Nat.ofDigitChars 10 [a, b] 0 = 10 * (a.toNat - 48) + (b.toNat - 48) := by
  simp [Nat.ofDigitChars_cons]

theorem digitChar_lt_six (d : ℕ) (h : d < 6) : d.digitChar < '6' := by
  change d.digitChar.toNat < 54
  rw [Nat.toNat_digitChar_of_lt_ten (by omega)]
  omega

theorem readSixty_eq_some_iff (s : Str) (n : ℕ) :
    readSixty s = some n ↔ n < 60 ∧ twoDigits n = s := by
  constructor
  · intro h
    unfold readSixty at h
    split at h
    · rename_i a b
      rw [Option.ite_none_right_eq_some, Option.some.injEq, ofDigitChars_pair] at h
      obtain ⟨⟨ha, hb, hlt⟩, rfl⟩ := h
      have hlt : a.toNat < 54 := hlt
      have hda := (isDigit_iff a).1 ha
      have hdb := (isDigit_iff b).1 hb
      refine ⟨by omega, ?_⟩
      have htens : (10 * (a.toNat - 48) + (b.toNat - 48)) / 10 = a.toNat - 48 := by omega
      have hones : (10 * (a.toNat - 48) + (b.toNat - 48)) % 10 = b.toNat - 48 := by omega
      rw [twoDigits_eq _ (by omega), htens, hones, digitChar_of_isDigit a ha,
        digitChar_of_isDigit b hb]
    · simp at h
  · rintro ⟨h60, rfl⟩
    have hdiv : n / 10 < 6 := by omega
    have hmod : n % 10 < 10 := Nat.mod_lt n (by omega)
    rw [twoDigits_eq n h60]
    change (if _ then _ else _) = _
    rw [if_pos ⟨isDigit_digitChar _ (by omega), isDigit_digitChar _ hmod, digitChar_lt_six _ hdiv⟩,
      ofDigitChars_pair, Nat.toNat_digitChar_of_lt_ten (by omega), Nat.toNat_digitChar_of_lt_ten hmod]
    congr 1
    omega

theorem readHours_eq_some_iff (s : Str) (n : ℕ) :
    readHours s = some n ↔ 0 < n ∧ Nat.toDigits 10 n = s := by
  unfold readHours
  rw [Option.ite_none_right_eq_some, Option.some.injEq]
  constructor
  · rintro ⟨⟨hd, hne, h0⟩, rfl⟩
    rw [List.all_eq_true] at hd
    obtain ⟨c, cs, rfl⟩ := List.exists_cons_of_ne_nil hne
    have hback := toDigits_ofDigitChars c cs hd (by simpa using h0)
    refine ⟨?_, hback⟩
    by_contra hn
    rw [Nat.eq_zero_of_not_pos hn] at hback
    obtain ⟨rfl, -⟩ := List.cons.inj hback
    exact h0 rfl
  · rintro ⟨hn, rfl⟩
    have hdigits := List.all_eq_true.2 (isDigit_toDigits n)
    exact ⟨⟨hdigits, Nat.toDigits_ne_nil, head_toDigits_ne_zero n hn⟩,
      Nat.ofDigitChars_ten_toDigits⟩

theorem readParts_eq_some_iff (ps : List Str) (n : ℕ) :
    readParts ps = some n ↔ clockParts n = ps := by
  unfold readParts clockParts
  split
  · rename_i minutes seconds
    simp only [Option.bind_eq_some_iff, Option.map_eq_some_iff, readSixty_eq_some_iff]
    constructor
    · rintro ⟨m, ⟨hm, rfl⟩, t, ⟨ht, rfl⟩, rfl⟩
      rw [if_neg (by omega), List.nil_append, show (60 * m + t) / 60 % 60 = m by omega,
        show (60 * m + t) % 60 = t by omega]
    · intro h
      split at h
      · simp at h
      · simp only [List.nil_append, List.cons.injEq, and_true] at h
        obtain ⟨rfl, rfl⟩ := h
        exact ⟨n / 60 % 60, ⟨by omega, rfl⟩, n % 60, ⟨by omega, rfl⟩, by omega⟩
  · rename_i hours minutes seconds
    simp only [Option.bind_eq_some_iff, Option.map_eq_some_iff, readSixty_eq_some_iff,
      readHours_eq_some_iff]
    constructor
    · rintro ⟨h, ⟨hh, rfl⟩, m, ⟨hm, rfl⟩, t, ⟨ht, rfl⟩, rfl⟩
      rw [if_pos (by omega), show (3600 * h + 60 * m + t) / 3600 = h by omega,
        show (3600 * h + 60 * m + t) / 60 % 60 = m by omega,
        show (3600 * h + 60 * m + t) % 60 = t by omega]
      rfl
    · intro h
      split at h
      · simp only [List.cons_append, List.nil_append, List.cons.injEq, and_true] at h
        obtain ⟨rfl, rfl, rfl⟩ := h
        exact ⟨n / 3600, ⟨by omega, rfl⟩, n / 60 % 60, ⟨by omega, rfl⟩, n % 60,
          ⟨by omega, rfl⟩, by omega⟩
      · simp at h
  · rename_i h2 h3
    constructor
    · intro h
      simp at h
    · rintro rfl
      by_cases hn : 3600 ≤ n
      · rw [if_pos hn] at h3
        exact (h3 _ _ _ rfl).elim
      · rw [if_neg hn] at h2
        exact (h2 _ _ rfl).elim

theorem colon_notMem_clockParts (n : ℕ) : ∀ p ∈ clockParts n, ':' ∉ p := by
  intro p hp hc
  have hdigit : ∀ c ∈ p, c.isDigit = true := by
    unfold clockParts at hp
    rcases List.mem_append.1 hp with hp | hp
    · split at hp
      · rw [List.mem_singleton.1 hp]
        exact isDigit_toDigits _
      · simp at hp
    · simp only [List.mem_cons, List.not_mem_nil, or_false] at hp
      rcases hp with rfl | rfl
      · exact isDigit_twoDigits _
      · exact isDigit_twoDigits _
  exact absurd (hdigit _ hc) (by decide)

theorem readClock_eq_some_iff (s : Str) (n : ℕ) : readClock s = some n ↔ clock n = s := by
  unfold readClock clock
  rw [readParts_eq_some_iff]
  constructor
  · intro h
    rw [h, List.intercalate_splitOn]
  · rintro rfl
    rw [List.splitOn_intercalate ':' (colon_notMem_clockParts n) (by simp [clockParts])]

/-! ## What `createTimeString` writes -/

theorem printInt_twoDigits (n : ℕ) :
    (if (n : ℤ) < 10 then ['0'] else []) ++ printInt n = twoDigits n := by
  unfold printInt twoDigits
  rw [if_neg (Int.not_lt.2 (Int.natCast_nonneg n)), Int.natAbs_natCast]
  congr 1
  exact if_congr (by omega) rfl rfl

theorem clock_of_le (n : ℕ) (h : 3600 ≤ n) :
    clock n = Nat.toDigits 10 (n / 3600) ++ [':'] ++
      (twoDigits (n / 60 % 60) ++ [':'] ++ twoDigits (n % 60)) := by
  unfold clock clockParts
  rw [if_pos h]
  simp [List.intercalate]

theorem clock_of_lt (n : ℕ) (h : n < 3600) :
    clock n = twoDigits (n / 60 % 60) ++ [':'] ++ twoDigits (n % 60) := by
  unfold clock clockParts
  rw [if_neg (by omega)]
  simp [List.intercalate]

variable {K : Type*} [Field K] [LinearOrder K] [FloorRing K] [IsStrictOrderedRing K]

theorem floor_div_unit (t : K) (n : ℕ) : ⌊t / n⌋ = ⌊t⌋ / n := Int.floor_div_natCast t n

/-- What is left after the whole units are taken off. -/
theorem floor_sub_unit (t : K) (n : ℕ) : ⌊t - ⌊t / n⌋ * n⌋ = ⌊t⌋ % n := by
  have hcast : (⌊t / n⌋ * n : K) = ((⌊t⌋ / n * n : ℤ) : K) := by
    rw [floor_div_unit]
    push_cast
    rfl
  rw [hcast, Int.floor_sub_intCast, Int.emod_def, mul_comm]

/-- The minutes and seconds, once the hours are taken off. -/
def minuteText (a : Arith K) (timeVal : K) : Str :=
  let minutes := if timeVal ≥ 60 then ⌊a.double (timeVal / 60)⌋ else 0
  let timeVal := if timeVal ≥ 60 then a.double (timeVal - a.double (minutes * 60)) else timeVal
  let minuteStr := (if minutes < 10 then ['0'] else []) ++ printInt minutes ++ [':']
  let secondStr := (if timeVal < 10 then ['0'] else []) ++ printInt ⌊timeVal⌋
  minuteStr ++ secondStr

omit [IsStrictOrderedRing K] in
theorem createTimeString_of_nonneg (a : Arith K) {t : K} (h : 0 ≤ t) :
    createTimeString a t =
      (if t ≥ 3600 then printInt ⌊a.double (t / 3600)⌋ ++ [':'] else []) ++
        minuteText a (if t ≥ 3600 then a.double (t - a.double (⌊a.double (t / 3600)⌋ * 3600)) else t) := by
  unfold createTimeString minuteText
  rw [if_pos h]
  exact List.append_assoc _ _ _

omit [IsStrictOrderedRing K] in
theorem secondText_eq (t : K) (n : ℕ) (h : ⌊t⌋ = n) :
    (if t < 10 then ['0'] else []) ++ printInt ⌊t⌋ = twoDigits n := by
  have h10 : t < 10 ↔ (n : ℤ) < 10 := by
    rw [← h, Int.floor_lt]
    simp
  rw [h, if_congr h10 rfl rfl, printInt_twoDigits]

theorem minuteText_eq (t : K) (n : ℕ) (h : ⌊t⌋ = n) :
    minuteText .exact t = twoDigits (n / 60) ++ [':'] ++ twoDigits (n % 60) := by
  have h60 : t ≥ 60 ↔ 60 ≤ n := by
    have := Int.le_floor (z := 60) (a := t)
    rw [h] at this
    rw [ge_iff_le, ← Int.ofNat_le]
    exact_mod_cast this.symm
  have hm : (if t ≥ 60 then ⌊t / 60⌋ else 0) = ((n / 60 : ℕ) : ℤ) := by
    have hdiv := floor_div_unit t 60
    rw [h] at hdiv
    split
    · exact_mod_cast hdiv
    · rename_i ht
      rw [h60] at ht
      omega
  have hs : ⌊if t ≥ 60 then t - ((n / 60 : ℕ) : ℤ) * 60 else t⌋ = ((n % 60 : ℕ) : ℤ) := by
    have hsub := floor_sub_unit t 60
    rw [floor_div_unit, h] at hsub
    split
    · exact_mod_cast hsub
    · rename_i ht
      rw [h60] at ht
      rw [h, Nat.mod_eq_of_lt (by omega)]
  unfold minuteText
  simp only [Arith.double_exact, hm]
  rw [printInt_twoDigits, secondText_eq _ _ hs]

theorem createTimeString_eq_clock (t : K) (h : 0 ≤ t) : createTimeString .exact t = clock ⌊t⌋.toNat := by
  obtain ⟨n, hn⟩ := Int.eq_ofNat_of_zero_le (Int.floor_nonneg.2 h)
  rw [hn, Int.toNat_natCast]
  have h3600 : t ≥ 3600 ↔ 3600 ≤ n := by
    have := Int.le_floor (z := 3600) (a := t)
    rw [hn] at this
    rw [ge_iff_le, ← Int.ofNat_le]
    exact_mod_cast this.symm
  by_cases hle : 3600 ≤ n
  · have hdiv := floor_div_unit t 3600
    have hsub := floor_sub_unit t 3600
    have htext : createTimeString .exact t =
        printInt ⌊t / 3600⌋ ++ [':'] ++ minuteText .exact (t - ⌊t / 3600⌋ * 3600) := by
      rw [createTimeString_of_nonneg _ h, if_pos (h3600.2 hle), if_pos (h3600.2 hle)]
      rfl
    have hrest : ⌊t - ⌊t / 3600⌋ * 3600⌋ = ((n % 3600 : ℕ) : ℤ) := by
      rw [hn] at hsub
      exact_mod_cast hsub
    have hhour : ⌊t / 3600⌋ = ((n / 3600 : ℕ) : ℤ) := by
      rw [hn] at hdiv
      exact_mod_cast hdiv
    have hprint : printInt ((n / 3600 : ℕ) : ℤ) = Nat.toDigits 10 (n / 3600) := by
      unfold printInt
      rw [if_neg (Int.not_lt.2 (Int.natCast_nonneg _)), Int.natAbs_natCast]
    rw [htext, minuteText_eq _ _ hrest, hhour, hprint, clock_of_le n hle,
      show n % 3600 / 60 = n / 60 % 60 by omega, show n % 3600 % 60 = n % 60 by omega]
  · have htext : createTimeString .exact t = minuteText .exact t := by
      rw [createTimeString_of_nonneg _ h, if_neg (mt h3600.1 hle), if_neg (mt h3600.1 hle), List.nil_append]
    rw [htext, minuteText_eq t n hn, clock_of_lt n (by omega), show n / 60 % 60 = n / 60 by omega]

/-! ## The same text in doubles -/

/-- A time in whole units, and the rest. -/
theorem machine_units {t : K} (ht : double.Holds t) (h0 : 0 ≤ t) (h : t < 2 ^ 53) {q : ℕ} (hq : 0 < q) :
    ⌊(Arith.machine : Arith K).double (t / q)⌋ = ⌊t / q⌋ ∧
      (Arith.machine : Arith K).double (t - (Arith.machine : Arith K).double (⌊t / q⌋ * q)) =
        t - ⌊t / q⌋ * q ∧
      double.Holds (t - ⌊t / q⌋ * q) := by
  have hqK : (0 : K) < q := by exact_mod_cast hq
  have hunits : (⌊t / q⌋ : K) * q = ((⌊t / q⌋ * (q : ℤ) : ℤ) : K) := by push_cast; rfl
  have hle : ((⌊t / q⌋ * q : ℤ) : K) ≤ t := by
    rw [← hunits, ← le_div_iff₀ hqK]
    exact Int.floor_le _
  have hfloor : 0 ≤ ⌊t / q⌋ := Int.floor_nonneg.mpr (by positivity)
  have hnonneg : 0 ≤ ⌊t / q⌋ * q := mul_nonneg hfloor (Int.natCast_nonneg q)
  have hholds : double.Holds ((⌊t / q⌋ * q : ℤ) : K) := by
    refine double.holds_intCast _ ?_ (by decide)
    have hlt : ((⌊t / q⌋ * q : ℤ) : K) < 2 ^ 53 := hle.trans_lt h
    rw [abs_of_nonneg hnonneg]
    have hltInt : ⌊t / q⌋ * q < 2 ^ 53 := by exact_mod_cast hlt
    exact hltInt.le
  have hrest := ht.sub_intCast h (by decide) hnonneg hle
  refine ⟨double.floor_round_div ht h0 h (by decide) hq, ?_, by rwa [hunits]⟩
  change double.round (t - double.round ((⌊t / q⌋ : K) * q)) = _
  rw [hunits, double.round_of_holds hholds, double.round_of_holds hrest]

theorem minuteText_machine {t : K} (ht : double.Holds t) (h0 : 0 ≤ t) (h : t < 2 ^ 53) :
    minuteText .machine t = minuteText .exact t := by
  obtain ⟨hminutes, hrest, -⟩ := machine_units ht h0 h (q := 60) (by decide)
  rw [Nat.cast_ofNat] at hminutes hrest
  unfold minuteText
  by_cases h60 : t ≥ 60
  · simp only [if_pos h60, hminutes, hrest, Arith.double_exact]
  · simp only [if_neg h60]

theorem createTimeString_machine {t : K} (ht : double.Holds t) (h : t < 2 ^ 53) :
    createTimeString .machine t = createTimeString .exact t := by
  rcases lt_or_ge t 0 with hneg | h0
  · unfold createTimeString
    rw [if_neg (not_le.2 hneg), if_neg (not_le.2 hneg)]
  obtain ⟨hhours, hrest, hholds⟩ := machine_units ht h0 h (q := 3600) (by decide)
  have hfloor : 0 ≤ ⌊t / (3600 : ℕ)⌋ := Int.floor_nonneg.mpr (by positivity)
  rw [Nat.cast_ofNat] at hhours hrest hholds hfloor
  rw [createTimeString_of_nonneg _ h0, createTimeString_of_nonneg _ h0]
  by_cases h3600 : t ≥ 3600
  · have hfloorK : (0 : K) ≤ ⌊t / 3600⌋ := Int.cast_nonneg hfloor
    have hle : (⌊t / 3600⌋ : K) ≤ t / 3600 := Int.floor_le _
    rw [if_pos h3600, if_pos h3600, if_pos h3600, if_pos h3600, hhours, hrest,
      minuteText_machine hholds (by linarith) (by linarith)]
    rfl
  · rw [if_neg h3600, if_neg h3600, if_neg h3600, if_neg h3600, minuteText_machine ht h0 h]

/-! ## Reading back what is shown -/

theorem readClock_unlimitedString : readClock unlimitedString = none := by decide

/-- A text is the one shown for a time exactly when it reads as the whole seconds of
the time, and a time below zero is the one that does not read. Doubles are no different. -/
theorem createTimeString_eq_iff (t : K) (s : Str) :
    (0 ≤ t → (createTimeString .exact t = s ↔ readClock s = some ⌊t⌋.toNat)) ∧
      (t < 0 ↔ readClock (createTimeString .exact t) = none) ∧
      (double.Holds t → t < 2 ^ 53 → createTimeString .machine t = createTimeString .exact t) := by
  refine and_assoc.mp ⟨?_, createTimeString_machine⟩
  constructor
  · intro h
    rw [createTimeString_eq_clock t h, readClock_eq_some_iff]
  · constructor
    · intro h
      unfold createTimeString
      rw [if_neg (not_le.2 h), readClock_unlimitedString]
    · intro h
      by_contra hneg
      have hpos := not_lt.1 hneg
      rw [createTimeString_eq_clock t hpos, (readClock_eq_some_iff _ _).2 rfl] at h
      simp at h

theorem createTimeString_eq_iff_ride :
    createTimeString .exact (14769 / 2 : ℚ) = "2:03:04".toList ∧
      readClock (createTimeString .exact (-1 : ℚ)) = none ∧
      createTimeString .machine (14769 / 2 : ℚ) = createTimeString .exact (14769 / 2 : ℚ) := by
  refine ⟨?_, ?_, ?_⟩
  · have hfloor : ⌊(14769 / 2 : ℚ)⌋ = 7384 := by
      rw [Int.floor_eq_iff]
      norm_num
    refine ((createTimeString_eq_iff (14769 / 2 : ℚ) _).1 (by norm_num)).2 ?_
    rw [hfloor]
    decide
  · exact (createTimeString_eq_iff _ []).2.1.1 (by norm_num)
  · have hholds : double.Holds (14769 / 2 : ℚ) := ⟨14769, -1, by decide, by decide, by norm_num⟩
    exact (createTimeString_eq_iff (14769 / 2 : ℚ) []).2.2 hholds (by norm_num)

end IrPitCrew.Client
