import IrPitCrew.Lib.Text
import Mathlib.Algebra.Order.Field.Power
import Mathlib.Data.Int.Log
import Mathlib.Tactic.Linarith
import Mathlib.Tactic.Positivity
import Mathlib.Tactic.NormNum
import Mathlib.Tactic.Ring
import Mathlib.Tactic.FieldSimp

/-!
# Decimal text of a number

Reading takes the longest number at the start of the text. Printing keeps six
significant digits, so reading what was printed gives the number rounded to six
digits, and the number itself when it has no more.
-/

open IrPitCrew.Text

namespace IrPitCrew.Decimal

/-! ## Numerals -/

-- A numeral of a field carries a proof that it is at least two. By name it is one term in every module.
instance atLeastTwo_two : Nat.AtLeastTwo 2 := inferInstance

instance atLeastTwo_three : Nat.AtLeastTwo 3 := inferInstance

instance atLeastTwo_four : Nat.AtLeastTwo 4 := inferInstance

instance atLeastTwo_five : Nat.AtLeastTwo 5 := inferInstance

instance atLeastTwo_ten : Nat.AtLeastTwo 10 := inferInstance

instance atLeastTwo_sixty : Nat.AtLeastTwo 60 := inferInstance

/-! ## Digits -/

/-- The last `p` digits of `n`. -/
def digits : Nat → Nat → Str
  | 0, _ => []
  | p + 1, n => digits p (n / 10) ++ [(n % 10).digitChar]

@[simp] theorem length_digits (p n : Nat) : (digits p n).length = p := by
  induction p generalizing n with
  | zero => rfl
  | succ p ih => simp [digits, ih]

theorem isDigit_toDigits (n : Nat) : ∀ c ∈ Nat.toDigits 10 n, c.isDigit = true :=
  fun _ hc => Nat.isDigit_of_mem_toDigits (by omega) (by omega) hc

theorem isDigit_digitChar (d : Nat) (h : d < 10) : d.digitChar.isDigit = true :=
  isDigit_toDigits d _ (by simp [Nat.toDigits_of_lt_base h])

theorem isDigit_digits (p n : Nat) : ∀ c ∈ digits p n, c.isDigit = true := by
  induction p generalizing n with
  | zero => simp [digits]
  | succ p ih =>
    intro c hc
    rcases List.mem_append.mp hc with hc | hc
    · exact ih _ c hc
    · rw [List.mem_singleton.mp hc]
      exact isDigit_digitChar _ (Nat.mod_lt _ (by omega))

theorem ofDigitChars_digits (p n init : Nat) :
    Nat.ofDigitChars 10 (digits p n) init = 10 ^ p * init + n % 10 ^ p := by
  induction p generalizing n with
  | zero => simp [digits, Nat.mod_one]
  | succ p ih =>
    have hd : n % 10 < 10 := Nat.mod_lt _ (by omega)
    rw [digits, Nat.ofDigitChars_append, ih, Nat.ofDigitChars_cons_digitChar_of_lt_ten hd,
      Nat.ofDigitChars_nil, Nat.pow_succ', Nat.mod_mul]
    ring

/-! ## Digit strings -/

theorem isDigit_iff (c : Char) : c.isDigit = true ↔ 48 ≤ c.toNat ∧ c.toNat ≤ 57 := by
  rw [Char.isDigit, Bool.and_eq_true, decide_eq_true_eq, decide_eq_true_eq]
  exact Iff.rfl

theorem digitChar_of_isDigit (c : Char) (h : c.isDigit = true) : (c.toNat - 48).digitChar = c := by
  rw [isDigit_iff] at h
  apply Char.toNat_inj.1
  rw [Nat.toNat_digitChar_of_lt_ten (by omega)]
  omega

theorem toDigits_append_of_isDigit (cs : Str) (acc : Nat) (h : ∀ c ∈ cs, c.isDigit = true)
    (hacc : 0 < acc) :
    Nat.toDigits 10 acc ++ cs = Nat.toDigits 10 (Nat.ofDigitChars 10 cs acc) := by
  induction cs generalizing acc with
  | nil => simp
  | cons c cs ih =>
    have hc := h c List.mem_cons_self
    have hlt : c.toNat - 48 < 10 := by
      have := (isDigit_iff c).1 hc
      omega
    have hone := Nat.toDigits_append_toDigits (b := 10) (n := acc) (by omega) hacc hlt
    rw [Nat.toDigits_of_lt_base hlt, digitChar_of_isDigit c hc] at hone
    rw [Nat.ofDigitChars_cons]
    calc Nat.toDigits 10 acc ++ c :: cs = (Nat.toDigits 10 acc ++ [c]) ++ cs := by simp
      _ = Nat.toDigits 10 (10 * acc + (c.toNat - 48)) ++ cs := by rw [hone]
      _ = _ := ih _ (fun d hd => h d (List.mem_cons_of_mem c hd)) (by omega)

/-- A digit string with no leading zero is what its value prints as. -/
theorem toDigits_ofDigitChars (c : Char) (cs : Str) (h : ∀ d ∈ c :: cs, d.isDigit = true)
    (h0 : c ≠ '0') :
    Nat.toDigits 10 (Nat.ofDigitChars 10 (c :: cs) 0) = c :: cs := by
  have hc := h c List.mem_cons_self
  have hb := (isDigit_iff c).1 hc
  have hpos : 0 < c.toNat - 48 := by
    have : c.toNat ≠ 48 := fun heq => h0 (Char.toNat_inj.1 heq)
    omega
  have happ := toDigits_append_of_isDigit cs _ (fun d hd => h d (List.mem_cons_of_mem c hd)) hpos
  rw [Nat.toDigits_of_lt_base (by omega), digitChar_of_isDigit c hc] at happ
  rw [Nat.ofDigitChars_cons, Nat.mul_zero, Nat.zero_add]
  exact happ.symm

theorem head_toDigits_ne_zero (n : Nat) (h : 0 < n) : (Nat.toDigits 10 n).head? ≠ some '0' := by
  induction n using Nat.strong_induction_on with
  | _ n ih =>
    rw [Nat.toDigits_eq_if (by omega)]
    split
    · simp
      omega
    · rw [List.head?_append_of_ne_nil _ Nat.toDigits_ne_nil]
      exact ih (n / 10) (by omega) (by omega)

/-! ## Reading -/

variable {K : Type*} [Field K]

/-- An optional sign, and the text after it. -/
def signed : Str → Bool × Str
  | '-' :: s => (true, s)
  | '+' :: s => (false, s)
  | s => (false, s)

/-- The exponent at the start of the text, after one of the marks. -/
def readExponent (marks : Str) : Str → ℤ
  | [] => 0
  | c :: s =>
    if c ∈ marks then
      let (neg, t) := signed s
      let n : ℤ := Nat.ofDigitChars 10 (t.takeWhile Char.isDigit) 0
      if neg then -n else n
    else 0

def decimalValue (whole frac : Str) : K := Nat.ofDigitChars 10 (whole ++ frac) 0 / 10 ^ frac.length

def splitFraction : Str → Str × Str
  | '.' :: s => (s.takeWhile Char.isDigit, s.dropWhile Char.isDigit)
  | s => ([], s)

def readUnsigned (marks s : Str) : Option K :=
  let whole := s.takeWhile Char.isDigit
  let (frac, rest) := splitFraction (s.dropWhile Char.isDigit)
  if whole = [] ∧ frac = [] then none
  else some (decimalValue whole frac * 10 ^ readExponent marks rest)

/-- The number at the start of the text: sign, digits with a point, exponent. -/
def readNumber (marks s : Str) : Option K :=
  let (neg, t) := signed s
  (readUnsigned marks t).map fun x => if neg then -x else x

/-- `atof` of the C runtime: 0 when there is no number. -/
def atof (s : Str) : K := (readNumber "eEdD".toList (ltrim s)).getD 0

/-- `atoi`: the digits after white space and a sign. -/
def atoi (s : Str) : ℤ :=
  let (neg, t) := signed (ltrim s)
  let n : ℤ := Nat.ofDigitChars 10 (t.takeWhile Char.isDigit) 0
  if neg then -n else n

/-! ## Printing -/

/-- `N / 10 ^ p` with the trailing zeros of the fraction left out. -/
def printDecimal (N p : Nat) : Str :=
  let frac := (digits p N).rdropWhile (· = '0')
  Nat.toDigits 10 (N / 10 ^ p) ++ if frac = [] then [] else '.' :: frac

/-- The exponent has at least three digits. -/
def printExponent (E : ℤ) : Str :=
  let ds := Nat.toDigits 10 E.natAbs
  'e' :: (if E < 0 then '-' else '+') :: (List.replicate (3 - ds.length) '0' ++ ds)

/-! ## Reading a decimal -/

theorem takeWhile_isDigit_append (a s : Str) (ha : ∀ c ∈ a, c.isDigit = true)
    (hs : ∀ c ∈ s.head?, c.isDigit = false) : (a ++ s).takeWhile Char.isDigit = a := by
  rw [List.takeWhile_append_of_pos ha]
  cases s with
  | nil => simp
  | cons c s => simp [hs c (by simp)]

theorem dropWhile_isDigit_append (a s : Str) (ha : ∀ c ∈ a, c.isDigit = true)
    (hs : ∀ c ∈ s.head?, c.isDigit = false) : (a ++ s).dropWhile Char.isDigit = s := by
  rw [List.dropWhile_append_of_pos ha]
  cases s with
  | nil => simp
  | cons c s => simp [hs c (by simp)]

theorem signed_of_isDigit (c : Char) (s : Str) (h : c.isDigit = true) :
    signed (c :: s) = (false, c :: s) := by
  unfold signed
  split
  · simp_all
  · simp_all
  · rfl

/-- A tail that no digit or point starts. -/
def TailOk (s : Str) : Prop := ∀ c ∈ s.head?, c.isDigit = false ∧ c ≠ '.'

theorem readUnsigned_text (marks whole frac tail : Str) (hne : whole ≠ [])
    (hw : ∀ c ∈ whole, c.isDigit = true) (hf : ∀ c ∈ frac, c.isDigit = true) (ht : TailOk tail) :
    readUnsigned marks ((whole ++ if frac = [] then [] else '.' :: frac) ++ tail) =
      some (decimalValue whole frac * 10 ^ readExponent marks tail : K) := by
  have htail : ∀ c ∈ tail.head?, c.isDigit = false := fun c hc => (ht c hc).1
  have hsplit : splitFraction ((if frac = [] then [] else '.' :: frac) ++ tail) = (frac, tail) := by
    by_cases h0 : frac = []
    · rw [if_pos h0, h0, List.nil_append]
      unfold splitFraction
      split
      · exact absurd rfl (ht '.' (by simp)).2
      · rfl
    · rw [if_neg h0, List.cons_append, splitFraction, takeWhile_isDigit_append _ _ hf htail,
        dropWhile_isDigit_append _ _ hf htail]
  have hstop : ∀ c ∈ ((if frac = [] then [] else '.' :: frac) ++ tail).head?, c.isDigit = false := by
    by_cases h0 : frac = []
    · simpa [h0] using htail
    · simp [h0]
  rw [List.append_assoc, readUnsigned, takeWhile_isDigit_append _ _ hw hstop,
    dropWhile_isDigit_append _ _ hw hstop, hsplit]
  simp [hne]

theorem decimalValue_digits (N p : Nat) :
    (decimalValue (Nat.toDigits 10 (N / 10 ^ p)) (digits p N) : K) = N / 10 ^ p := by
  rw [decimalValue, Nat.ofDigitChars_append, Nat.ofDigitChars_ten_toDigits, ofDigitChars_digits,
    Nat.div_add_mod, length_digits]

section

variable [CharZero K]

theorem decimalValue_concat_zero (whole frac : Str) :
    (decimalValue whole (frac ++ ['0']) : K) = decimalValue whole frac := by
  have hzero : Nat.ofDigitChars 10 (whole ++ (frac ++ ['0'])) 0 =
      10 * Nat.ofDigitChars 10 (whole ++ frac) 0 := by
    rw [← List.append_assoc, Nat.ofDigitChars_append]
    exact Nat.ofDigitChars_replicate_zero (n := 1)
  rw [decimalValue, decimalValue, hzero, List.length_append, List.length_singleton, pow_succ]
  push_cast
  field_simp

/-- Trailing zeros of the fraction do not change the value. -/
theorem decimalValue_strip (whole frac : Str) :
    (decimalValue whole (frac.rdropWhile (· = '0')) : K) = decimalValue whole frac := by
  induction frac using List.reverseRecOn with
  | nil => rfl
  | append_singleton frac c ih =>
    by_cases hc : c = '0'
    · rw [List.rdropWhile_concat_pos _ _ _ (by simpa using hc), ih, hc, decimalValue_concat_zero]
    · rw [List.rdropWhile_concat_neg _ _ _ (by simpa using hc)]

theorem readUnsigned_printDecimal (marks : Str) (N p : Nat) (tail : Str) (ht : TailOk tail) :
    readUnsigned marks (printDecimal N p ++ tail) =
      some ((N : K) / 10 ^ p * 10 ^ readExponent marks tail) := by
  have hfrac : ∀ c ∈ (digits p N).rdropWhile (· = '0'), c.isDigit = true :=
    fun c hc => isDigit_digits p N c ((List.rdropWhile_prefix _ _).subset hc)
  rw [printDecimal, readUnsigned_text _ _ _ _ Nat.toDigits_ne_nil (isDigit_toDigits _) hfrac ht,
    decimalValue_strip, decimalValue_digits]

end

theorem readExponent_printExponent (marks : Str) (E : ℤ) (tail : Str) (h : 'e' ∈ marks)
    (ht : ∀ c ∈ tail.head?, c.isDigit = false) :
    readExponent marks (printExponent E ++ tail) = E := by
  have hdigits : ∀ c ∈ List.replicate (3 - (Nat.toDigits 10 E.natAbs).length) '0' ++
      Nat.toDigits 10 E.natAbs, c.isDigit = true := by
    intro c hc
    rcases List.mem_append.mp hc with hc | hc
    · rw [(List.mem_replicate.mp hc).2]; rfl
    · exact isDigit_toDigits _ c hc
  have hvalue : Nat.ofDigitChars 10 (List.replicate (3 - (Nat.toDigits 10 E.natAbs).length) '0' ++
      Nat.toDigits 10 E.natAbs) 0 = E.natAbs := by
    rw [Nat.ofDigitChars_append, Nat.ofDigitChars_replicate_zero, Nat.mul_zero,
      Nat.ofDigitChars_ten_toDigits]
  have hread := takeWhile_isDigit_append _ tail hdigits ht
  rw [printExponent, List.cons_append, List.cons_append, readExponent, if_pos h]
  by_cases hE : E < 0
  · simp only [if_pos hE, signed, hread, hvalue, if_true]
    omega
  · simp only [if_neg hE, signed, hread, hvalue, Bool.false_eq_true, if_false]
    omega

theorem tailOk_printExponent (E : ℤ) (tail : Str) : TailOk (printExponent E ++ tail) := by
  simp [TailOk, printExponent]

theorem tailOk_nil : TailOk [] := by simp [TailOk]

/-- A text that does not continue a number. -/
def NumberEnd (marks s : Str) : Prop := ∀ c ∈ s.head?, c.isDigit = false ∧ c ≠ '.' ∧ c ∉ marks

theorem numberEnd_nil (marks : Str) : NumberEnd marks [] := by simp [NumberEnd]

theorem NumberEnd.tailOk {marks s : Str} (h : NumberEnd marks s) : TailOk s :=
  fun c hc => ⟨(h c hc).1, (h c hc).2.1⟩

theorem NumberEnd.readExponent {marks s : Str} (h : NumberEnd marks s) :
    readExponent marks s = 0 := by
  cases s with
  | nil => rfl
  | cons c s => exact if_neg (h c rfl).2.2

/-! ## Six significant digits -/

variable [LinearOrder K] [FloorRing K]

/-- Six digits `m` and the exponent `E` of the first: `x` rounds to `m * 10 ^ (E - 5)`. -/
def sixDigits (x : K) : Nat × ℤ :=
  let E := Int.log 10 x
  let m := ⌊x * 10 ^ (5 - E) + 1 / 2⌋₊
  if m = 10 ^ 6 then (10 ^ 5, E + 1) else (m, E)

def printUnsigned (x : K) : Str :=
  let (m, E) := sixDigits x
  if -4 ≤ E ∧ E < 6 then printDecimal m (5 - E).toNat else printDecimal m 5 ++ printExponent E

/-- `ostream <<` of a floating point number with the default precision. -/
def printNumber (x : K) : Str :=
  if x = 0 then ['0']
  else if x < 0 then '-' :: printUnsigned (-x) else printUnsigned x

/-- `ostream <<` of an `int`. -/
def printInt (n : ℤ) : Str :=
  if n < 0 then '-' :: Nat.toDigits 10 n.natAbs else Nat.toDigits 10 n.natAbs

/-! ## Reading what was printed -/

/-- The number rounded to six significant digits. -/
def roundUnsigned (x : K) : K := (sixDigits x).1 * 10 ^ ((sixDigits x).2 - 5)

def roundSix (x : K) : K :=
  if x = 0 then 0 else if x < 0 then -roundUnsigned (-x) else roundUnsigned x

theorem readUnsigned_printUnsigned (marks : Str) (x : K) (tail : Str) (h : 'e' ∈ marks)
    (ht : NumberEnd marks tail) :
    readUnsigned marks (printUnsigned x ++ tail) = some (roundUnsigned x) := by
  have h10 : (10 : K) ≠ 0 := by norm_num
  unfold printUnsigned roundUnsigned
  obtain ⟨m, E⟩ := sixDigits x
  simp only
  split
  · rename_i hE
    obtain ⟨p, hp⟩ := Int.eq_ofNat_of_zero_le (show 0 ≤ 5 - E by omega)
    have hE : E - 5 = -(p : ℤ) := by omega
    rw [readUnsigned_printDecimal marks m (5 - E).toNat tail ht.tailOk, ht.readExponent, hE, hp,
      zpow_neg, zpow_natCast, Int.toNat_natCast]
    simp [div_eq_mul_inv]
  · rw [List.append_assoc, readUnsigned_printDecimal marks m 5 _ (tailOk_printExponent E tail),
      readExponent_printExponent marks E tail h fun c hc => (ht c hc).1, zpow_sub₀ h10]
    congr 1
    field_simp

/-- The text starts with a digit, and what follows holds no white space. -/
theorem printUnsigned_cons (x : K) : ∃ c s, printUnsigned x = c :: s ∧ c.isDigit = true := by
  have hdecimal : ∀ N p t, ∃ c s, printDecimal N p ++ t = c :: s ∧ c.isDigit = true := by
    intro N p t
    obtain ⟨c, s, hs⟩ := List.exists_cons_of_ne_nil (Nat.toDigits_ne_nil (n := N / 10 ^ p) (b := 10))
    refine ⟨c, _, by rw [printDecimal, hs]; rfl, ?_⟩
    exact isDigit_toDigits _ c (by rw [hs]; simp)
  unfold printUnsigned
  obtain ⟨m, E⟩ := sixDigits x
  simp only
  split
  · simpa using hdecimal m (5 - E).toNat []
  · exact hdecimal m 5 _

/-- **Read of print.** Reading a printed number gives the number rounded to six digits, whatever
comes after the number. -/
theorem readNumber_printNumber_append (marks : Str) (x : K) (tail : Str) (h : 'e' ∈ marks)
    (ht : NumberEnd marks tail) :
    readNumber marks (printNumber x ++ tail) = some (roundSix x) := by
  have hunsigned : ∀ y : K, readNumber marks (printUnsigned y ++ tail) = some (roundUnsigned y) := by
    intro y
    obtain ⟨c, s, hs, hc⟩ := printUnsigned_cons y
    have hread := readUnsigned_printUnsigned marks y tail h ht
    rw [hs, List.cons_append] at hread ⊢
    simp [readNumber, signed_of_isDigit c _ hc, hread]
  unfold printNumber roundSix
  split
  · have hread := readUnsigned_text (K := K) marks ['0'] [] tail (by simp) (by simp) (by simp) ht.tailOk
    simp only [if_true, List.append_nil] at hread
    rw [readNumber, List.singleton_append, signed_of_isDigit '0' _ rfl, ← List.singleton_append]
    simp only [hread, Option.map_some, Bool.false_eq_true, if_false]
    simp [decimalValue, Nat.ofDigitChars_cons]
  · split
    · simp [readNumber, signed, readUnsigned_printUnsigned marks (-x) tail h ht]
    · exact hunsigned x

theorem readNumber_printNumber (marks : Str) (x : K) (h : 'e' ∈ marks) :
    readNumber marks (printNumber x) = some (roundSix x) := by
  simpa using readNumber_printNumber_append marks x [] h (numberEnd_nil marks)

/-! ## The characters of a number -/

def NumberChar (c : Char) : Prop := c.isDigit = true ∨ c ∈ ['.', '-', '+', 'e']

instance (c : Char) : Decidable (NumberChar c) :=
  inferInstanceAs (Decidable (c.isDigit = true ∨ c ∈ ['.', '-', '+', 'e']))

theorem printDecimal_chars (N p : Nat) : ∀ c ∈ printDecimal N p, NumberChar c := by
  intro c hc
  rw [printDecimal] at hc
  rcases List.mem_append.mp hc with hc | hc
  · exact .inl (isDigit_toDigits _ c hc)
  · split at hc
    · simp at hc
    · rcases List.mem_cons.mp hc with rfl | hc
      · exact .inr (by simp)
      · exact .inl (isDigit_digits p N c ((List.rdropWhile_prefix _ _).subset hc))

theorem printExponent_chars (E : ℤ) : ∀ c ∈ printExponent E, NumberChar c := by
  intro c hc
  simp only [printExponent, List.mem_cons, List.mem_append, List.mem_replicate] at hc
  rcases hc with rfl | rfl | ⟨-, rfl⟩ | hc
  · exact .inr (by simp)
  · refine .inr ?_
    split <;> simp
  · exact .inl rfl
  · exact .inl (isDigit_toDigits _ c hc)

theorem printUnsigned_chars (x : K) : ∀ c ∈ printUnsigned x, NumberChar c := by
  unfold printUnsigned
  obtain ⟨m, E⟩ := sixDigits x
  simp only
  split
  · exact printDecimal_chars _ _
  · intro c hc
    rcases List.mem_append.mp hc with hc | hc
    · exact printDecimal_chars _ _ c hc
    · exact printExponent_chars _ c hc

theorem printNumber_chars (x : K) : ∀ c ∈ printNumber x, NumberChar c := by
  unfold printNumber
  split
  · intro c hc
    exact .inl (by rw [List.mem_singleton.mp hc]; rfl)
  · split
    · intro c hc
      rcases List.mem_cons.mp hc with rfl | hc
      · exact .inr (by simp)
      · exact printUnsigned_chars _ c hc
    · exact printUnsigned_chars x

theorem printInt_chars (n : ℤ) : ∀ c ∈ printInt n, NumberChar c := by
  unfold printInt
  intro c hc
  split at hc
  · rcases List.mem_cons.mp hc with rfl | hc
    · exact .inr (by simp)
    · exact .inl (isDigit_toDigits _ c hc)
  · exact .inl (isDigit_toDigits _ c hc)

theorem isspace_eq_false_of_numberChar (c : Char) (h : NumberChar c) : isspace c = false := by
  rcases h with h | h
  · simp only [isspace, Bool.or_eq_false_iff, decide_eq_false_iff_not]
    refine ⟨⟨⟨⟨⟨?_, ?_⟩, ?_⟩, ?_⟩, ?_⟩, ?_⟩ <;> rintro rfl <;> exact absurd h (by decide)
  · simp only [List.mem_cons, List.not_mem_nil, or_false] at h
    rcases h with rfl | rfl | rfl | rfl <;> rfl

theorem printNumber_ne_nil (x : K) : printNumber x ≠ [] := by
  unfold printNumber
  split
  · simp
  · split
    · simp
    · obtain ⟨c, s, hs, -⟩ := printUnsigned_cons x
      simp [hs]

theorem printInt_ne_nil (n : ℤ) : printInt n ≠ [] := by
  unfold printInt
  split
  · simp
  · exact Nat.toDigits_ne_nil

theorem ltrim_printNumber_append (x : K) (s : Str) : ltrim (printNumber x ++ s) = printNumber x ++ s := by
  obtain ⟨c, t, hct⟩ := List.exists_cons_of_ne_nil (printNumber_ne_nil x)
  have hspace : isspace c = false :=
    isspace_eq_false_of_numberChar c (printNumber_chars x c (by simp [hct]))
  rw [hct, List.cons_append, ltrim_cons _ _ hspace]

theorem ltrim_printNumber (x : K) : ltrim (printNumber x) = printNumber x := by
  simpa using ltrim_printNumber_append x []

theorem atof_printNumber (x : K) : atof (printNumber x) = roundSix x := by
  rw [atof, ltrim_printNumber, readNumber_printNumber _ _ (by decide)]
  rfl

/-- The text of an `int`, whatever other than a digit follows it. -/
theorem atoi_printInt_append (n : ℤ) (s : Str) (hs : ∀ c ∈ s.head?, c.isDigit = false) :
    atoi (printInt n ++ s) = n := by
  obtain ⟨c, t, ht⟩ := List.exists_cons_of_ne_nil (printInt_ne_nil n)
  have hspace : isspace c = false :=
    isspace_eq_false_of_numberChar c (printInt_chars n c (by simp [ht]))
  have hdigits : (Nat.toDigits 10 n.natAbs ++ s).takeWhile Char.isDigit = Nat.toDigits 10 n.natAbs :=
    takeWhile_isDigit_append _ _ (isDigit_toDigits _) hs
  rw [atoi, ht, List.cons_append, ltrim_cons _ _ hspace, ← List.cons_append, ← ht, printInt]
  by_cases hn : n < 0
  · simp only [if_pos hn, List.cons_append, signed, hdigits, Nat.ofDigitChars_ten_toDigits, if_true]
    omega
  · obtain ⟨d, u, hu⟩ := List.exists_cons_of_ne_nil (Nat.toDigits_ne_nil (n := n.natAbs) (b := 10))
    have hd : d.isDigit = true := isDigit_toDigits n.natAbs d (by simp [hu])
    have hsigned : signed (Nat.toDigits 10 n.natAbs ++ s) =
        (false, Nat.toDigits 10 n.natAbs ++ s) := by
      rw [hu, List.cons_append]
      exact signed_of_isDigit d _ hd
    simp only [if_neg hn, hsigned, hdigits, Nat.ofDigitChars_ten_toDigits, Bool.false_eq_true, if_false]
    omega

theorem atoi_printInt (n : ℤ) : atoi (printInt n) = n := by
  simpa using atoi_printInt_append n [] (by simp)

/-! ## Rounding to six digits -/

variable [IsStrictOrderedRing K]

theorem sixDigits_bounds (x : K) (hx : 0 < x) :
    10 ^ 5 ≤ (sixDigits x).1 ∧ (sixDigits x).1 < 10 ^ 6 := by
  have hlo : (10 : K) ^ 5 ≤ x * 10 ^ (5 - Int.log 10 x) := by
    have hlog := Int.zpow_log_le_self (b := 10) (by norm_num) hx
    calc (10 : K) ^ 5 = 10 ^ Int.log 10 x * 10 ^ (5 - Int.log 10 x) := by
          rw [← zpow_add₀ (by norm_num)]; norm_num
      _ ≤ x * 10 ^ (5 - Int.log 10 x) := by
          push_cast at hlog
          gcongr
  have hhi : x * 10 ^ (5 - Int.log 10 x) < (10 : K) ^ 6 := by
    have hlog := Int.lt_zpow_succ_log_self (b := 10) (by norm_num) x
    calc x * 10 ^ (5 - Int.log 10 x) < 10 ^ (Int.log 10 x + 1) * 10 ^ (5 - Int.log 10 x) := by
          push_cast at hlog
          gcongr
      _ = (10 : K) ^ 6 := by
          rw [← zpow_add₀ (by norm_num), show Int.log 10 x + 1 + (5 - Int.log 10 x) = 6 by ring]
          norm_num
  unfold sixDigits
  simp only
  split
  · norm_num
  · rename_i hne
    refine ⟨Nat.le_floor (by push_cast; linarith), ?_⟩
    have hle : ⌊x * 10 ^ (5 - Int.log 10 x) + 1 / 2⌋₊ < 10 ^ 6 + 1 := by
      rw [Nat.floor_lt (by positivity)]
      push_cast
      linarith
    omega

theorem roundUnsigned_pos (x : K) (hx : 0 < x) : 0 < roundUnsigned x := by
  have hm : 0 < (sixDigits x).1 := lt_of_lt_of_le (by norm_num) (sixDigits_bounds x hx).1
  unfold roundUnsigned
  positivity

theorem roundSix_neg (x : K) : roundSix (-x) = -roundSix x := by
  rcases lt_trichotomy x 0 with hneg | rfl | hpos
  · have hnn : 0 < -x := by linarith
    rw [roundSix, if_neg hnn.ne', if_neg hnn.not_gt, roundSix, if_neg hneg.ne, if_pos hneg, neg_neg]
  · simp [roundSix]
  · have hnn : -x < 0 := by linarith
    rw [roundSix, if_neg hnn.ne, if_pos hnn, roundSix, if_neg hpos.ne', if_neg hpos.not_gt, neg_neg]

theorem roundSix_pos (x : K) (hx : 0 < x) : 0 < roundSix x := by
  rw [roundSix, if_neg hx.ne', if_neg hx.not_gt]
  exact roundUnsigned_pos x hx

theorem roundSix_nonneg (x : K) (hx : 0 ≤ x) : 0 ≤ roundSix x := by
  rcases hx.eq_or_lt with rfl | hpos
  · simp [roundSix]
  · exact (roundSix_pos x hpos).le

theorem one_le_roundUnsigned (x : K) (hx : 1 ≤ x) : 1 ≤ roundUnsigned x := by
  have hpos : 0 < x := zero_lt_one.trans_le hx
  have hlog : 0 ≤ Int.log 10 x := by
    rw [← Int.log_one_right (R := K) 10]
    exact Int.log_mono_right zero_lt_one hx
  have hE : 0 ≤ (sixDigits x).2 := by
    unfold sixDigits
    dsimp only
    split
    · exact hlog.trans (Int.le_add_one le_rfl)
    · exact hlog
  have hm : (10 : K) ^ 5 ≤ (sixDigits x).1 := by exact_mod_cast (sixDigits_bounds x hpos).1
  calc (1 : K) = 10 ^ 5 * 10 ^ (-5 : ℤ) := by norm_num
    _ ≤ (sixDigits x).1 * 10 ^ ((sixDigits x).2 - 5) := by
      gcongr
      · norm_num
      · omega

theorem roundSix_le_neg_one (x : K) (hx : x ≤ -1) : roundSix x ≤ -1 := by
  have hneg : x < 0 := by linarith
  rw [roundSix, if_neg hneg.ne, if_pos hneg]
  exact neg_le_neg (one_le_roundUnsigned (-x) (by linarith))

def SixSig (x : K) : Prop := ∃ (n : Nat) (e : ℤ), n < 10 ^ 6 ∧ |x| = n * 10 ^ e

theorem sixSig_roundUnsigned (x : K) (hx : 0 < x) : SixSig (roundUnsigned x) :=
  ⟨_, _, (sixDigits_bounds x hx).2, by rw [abs_of_pos (roundUnsigned_pos x hx)]; rfl⟩

theorem sixSig_roundSix (x : K) : SixSig (roundSix x) := by
  unfold roundSix
  split
  · exact ⟨0, 0, by norm_num, by simp⟩
  · split
    · obtain ⟨n, e, hn, he⟩ := sixSig_roundUnsigned (-x) (by linarith)
      exact ⟨n, e, hn, by rw [abs_neg, he]⟩
    · rename_i h0 hneg
      exact sixSig_roundUnsigned x (lt_of_le_of_ne (not_lt.mp hneg) (Ne.symm h0))

omit [FloorRing K] [IsStrictOrderedRing K] in
theorem SixSig.neg {x : K} (h : SixSig x) : SixSig (-x) := by
  obtain ⟨n, e, hn, he⟩ := h
  exact ⟨n, e, hn, by rw [abs_neg, he]⟩

/-- A number near six digits is rounded to them. -/
theorem roundUnsigned_of_near (n : Nat) (e : ℤ) (hpos : 0 < n) (hn : n < 10 ^ 6) {y : K}
    (hle : n * 10 ^ e - n * 10 ^ e / 10 ^ 7 ≤ y) (hge : y ≤ n * 10 ^ e + n * 10 ^ e / 10 ^ 7) :
    roundUnsigned y = n * 10 ^ e := by
  have hnK : (0 : K) < n := by exact_mod_cast hpos
  have hunit : (0 : K) < 10 ^ e := by positivity
  have hs : (0 : K) < n * 10 ^ e := mul_pos hnK hunit
  have hy : 0 < y := by linarith
  obtain ⟨E, hE⟩ : ∃ E, Int.log 10 y = E := ⟨_, rfl⟩
  have hlog : E < 6 + e := by
    rw [← hE, ← Int.lt_zpow_iff_log_lt (by norm_num) hy]
    have hnK' : (n : K) + 1 ≤ 10 ^ 6 := by exact_mod_cast hn
    have hprod : (n : K) * 10 ^ e + 10 ^ e ≤ 10 ^ 6 * 10 ^ e := by
      rw [← add_one_mul]
      exact mul_le_mul_of_nonneg_right hnK' hunit.le
    have hpow : ((10 : Nat) : K) ^ (6 + e) = 10 ^ 6 * 10 ^ e := by
      push_cast
      rw [zpow_add₀ (by norm_num)]
      norm_cast
    rw [hpow]
    linarith
  -- Six digits from the first one reach below the last one, so scaling gives a whole number.
  obtain ⟨k, hk⟩ := Int.eq_ofNat_of_zero_le (show 0 ≤ 5 + e - E by omega)
  have hscale : (0 : K) < 10 ^ (5 - E) := by positivity
  have hscaled : (n : K) * 10 ^ e * 10 ^ (5 - E) = ((n * 10 ^ k : Nat) : K) := by
    rw [mul_assoc, ← zpow_add₀ (by norm_num), show e + (5 - E) = k by omega]
    push_cast
    simp
  have hlo := mul_le_mul_of_nonneg_right hle hscale.le
  have hhi := mul_le_mul_of_nonneg_right hge hscale.le
  rw [sub_mul, div_mul_eq_mul_div, hscaled] at hlo
  rw [add_mul, div_mul_eq_mul_div, hscaled] at hhi
  have hsix : y * 10 ^ (5 - E) < (10 : K) ^ 6 := by
    have hlt := Int.lt_zpow_succ_log_self (b := 10) (by norm_num) y
    rw [hE] at hlt
    push_cast at hlt
    calc y * 10 ^ (5 - E) < 10 ^ (E + 1) * 10 ^ (5 - E) := by gcongr
      _ = (10 : K) ^ 6 := by
          rw [← zpow_add₀ (by norm_num), show E + 1 + (5 - E) = 6 by ring]
          norm_num
  have hsmall : ((n * 10 ^ k : Nat) : K) ≤ 10 ^ 6 := by
    have hlt : ((n * 10 ^ k : Nat) : K) < ((10 ^ 6 + 1 : Nat) : K) := by
      push_cast at hlo ⊢
      linarith
    have hltNat : n * 10 ^ k < 10 ^ 6 + 1 := by exact_mod_cast hlt
    exact_mod_cast Nat.lt_succ_iff.mp hltNat
  have hfloor : ⌊y * 10 ^ (5 - E) + 1 / 2⌋₊ = n * 10 ^ k := by
    rw [Nat.floor_eq_iff (by positivity)]
    constructor <;> linarith
  have hvalue : ((n * 10 ^ k : Nat) : K) * 10 ^ (E - 5) = n * 10 ^ e := by
    rw [← hscaled, mul_assoc, ← zpow_add₀ (by norm_num)]
    simp
  unfold roundUnsigned sixDigits
  simp only [hE, hfloor]
  split
  · rename_i hm
    calc ((10 ^ 5 : Nat) : K) * 10 ^ (E + 1 - 5) = ((10 ^ 6 : Nat) : K) * 10 ^ (E - 5) := by
          rw [show E + 1 - 5 = 1 + (E - 5) by ring, zpow_add₀ (by norm_num), ← mul_assoc]
          norm_num
      _ = n * 10 ^ e := by rw [← hm, hvalue]
  · exact hvalue

/-- So is what was moved by less than a unit of the eighth digit. -/
theorem roundSix_of_near {s y : K} (hs : SixSig s) (h0 : 0 ≤ s) (h : |y - s| ≤ s / 10 ^ 7) :
    roundSix y = s := by
  obtain ⟨n, e, hn, he⟩ := hs
  rw [abs_of_nonneg h0] at he
  obtain ⟨hlo, hhi⟩ := abs_le.mp h
  rcases h0.eq_or_lt with rfl | hpos
  · have hy : y = 0 := by
      rw [zero_div] at hlo hhi
      linarith
    rw [hy, roundSix, if_pos rfl]
  · have hy : 0 < y := by linarith
    have hnpos : 0 < n := by
      by_contra hz
      rw [Nat.eq_zero_of_not_pos hz, Nat.cast_zero, zero_mul] at he
      exact hpos.ne' he
    rw [roundSix, if_neg hy.ne', if_neg hy.not_gt, he]
    apply roundUnsigned_of_near n e hnpos hn
    · rw [← he]
      linarith
    · rw [← he]
      linarith

/-- A number with at most six digits is printed exactly. -/
theorem roundSix_of_sixSig (x : K) (h : SixSig x) : roundSix x = x := by
  have hnonneg : ∀ y : K, 0 ≤ y → SixSig y → roundSix y = y := by
    intro y hy hsix
    apply roundSix_of_near hsix hy
    rw [sub_self, abs_zero]
    positivity
  rcases le_total 0 x with hx | hx
  · exact hnonneg x hx h
  · have hneg := hnonneg (-x) (neg_nonneg.mpr hx) h.neg
    rwa [roundSix_neg, neg_inj] at hneg

theorem roundSix_roundSix (x : K) : roundSix (roundSix x) = roundSix x :=
  roundSix_of_sixSig _ (sixSig_roundSix x)

/-! ## Printing what was read -/

/-- Less than half a unit of the last digit above six digits, these are the digits. -/
theorem sixDigits_of_near {m : Nat} {E : ℤ} {x : K} (hlo : 10 ^ 5 ≤ m) (hhi : m < 10 ^ 6)
    (hle : m * 10 ^ (E - 5) ≤ x) (hlt : x < (m + 1 / 2) * 10 ^ (E - 5)) : sixDigits x = (m, E) := by
  have hloK : (10 : K) ^ 5 ≤ m := by exact_mod_cast hlo
  have hhiK : (m : K) + 1 ≤ 10 ^ 6 := by exact_mod_cast hhi
  have hpow (d : ℤ) : (10 : K) ^ d * 10 ^ (E - 5) = ((10 : Nat) : K) ^ (E + (d - 5)) := by
    rw [← zpow_add₀ (by norm_num)]
    push_cast
    congr 1
    ring
  have hpos : 0 < x := by
    have hm : (0 : K) < m := lt_of_lt_of_le (by norm_num) hloK
    exact lt_of_lt_of_le (by positivity) hle
  have hlog : Int.log 10 x = E := by
    apply le_antisymm
    · rw [← Int.lt_add_one_iff, ← Int.lt_zpow_iff_log_lt (by norm_num) hpos]
      calc x < (m + 1 / 2) * 10 ^ (E - 5) := hlt
        _ ≤ 10 ^ (6 : ℤ) * 10 ^ (E - 5) := by
          gcongr
          rw [show (10 : K) ^ (6 : ℤ) = 10 ^ 6 by norm_cast]
          linarith
        _ = ((10 : Nat) : K) ^ (E + 1) := hpow 6
    · rw [← Int.zpow_le_iff_le_log (by norm_num) hpos]
      calc ((10 : Nat) : K) ^ E = 10 ^ (5 : ℤ) * 10 ^ (E - 5) := by rw [hpow 5, sub_self, add_zero]
        _ ≤ m * 10 ^ (E - 5) := by
          gcongr
          exact_mod_cast hlo
        _ ≤ x := hle
  have hback (y : K) : y * 10 ^ (E - 5) * 10 ^ (5 - E) = y := by
    rw [mul_assoc, ← zpow_add₀ (by norm_num)]
    simp
  have hlo' : (m : K) ≤ x * 10 ^ (5 - E) := by
    calc (m : K) = m * 10 ^ (E - 5) * 10 ^ (5 - E) := (hback _).symm
      _ ≤ x * 10 ^ (5 - E) := by gcongr
  have hhi' : x * 10 ^ (5 - E) < m + 1 / 2 := by
    calc x * 10 ^ (5 - E) < (m + 1 / 2) * 10 ^ (E - 5) * 10 ^ (5 - E) := by gcongr
      _ = m + 1 / 2 := hback _
  have hfloor : ⌊x * 10 ^ (5 - E) + 1 / 2⌋₊ = m := by
    rw [Nat.floor_eq_iff (by positivity)]
    constructor <;> linarith
  simp only [sixDigits, hlog, hfloor]
  rw [if_neg hhi.ne]

theorem sixDigits_of_digits (m : Nat) (E : ℤ) (hlo : 10 ^ 5 ≤ m) (hhi : m < 10 ^ 6) :
    sixDigits ((m : K) * 10 ^ (E - 5)) = (m, E) := by
  apply sixDigits_of_near hlo hhi le_rfl
  gcongr
  linarith

theorem printUnsigned_roundUnsigned (x : K) (hx : 0 < x) :
    printUnsigned (roundUnsigned x) = printUnsigned x := by
  obtain ⟨hlo, hhi⟩ := sixDigits_bounds x hx
  unfold printUnsigned
  rw [roundUnsigned, sixDigits_of_digits _ _ hlo hhi]

/-- What is read from the text of a number has the same text. -/
theorem printNumber_roundSix (x : K) : printNumber (roundSix x) = printNumber x := by
  rcases lt_trichotomy x 0 with hneg | rfl | hpos
  · have hround := roundUnsigned_pos (-x) (by linarith)
    rw [roundSix, if_neg hneg.ne, if_pos hneg, printNumber, if_neg (by linarith), if_pos (by linarith),
      neg_neg, printUnsigned_roundUnsigned _ (by linarith), printNumber, if_neg hneg.ne, if_pos hneg]
  · simp [roundSix]
  · have hround := roundUnsigned_pos x hpos
    rw [roundSix, if_neg hpos.ne', if_neg hpos.not_gt, printNumber, if_neg hround.ne',
      if_neg hround.not_gt, printUnsigned_roundUnsigned _ hpos, printNumber, if_neg hpos.ne',
      if_neg hpos.not_gt]

/-- A number of six digits that is large has the same digits after a little more. -/
theorem roundSix_add_of_sixSig {x t : K} (hx : SixSig x) {e : ℤ} (hle : 10 ^ e ≤ x) (ht : 0 ≤ t)
    (hlt : t < 1 / 2 * 10 ^ (e - 5)) : roundSix (x + t) = x := by
  have hpos : 0 < x := lt_of_lt_of_le (by positivity) hle
  have hvalue : x = roundUnsigned x := by
    have hsix := roundSix_of_sixSig x hx
    rwa [roundSix, if_neg hpos.ne', if_neg hpos.not_gt, eq_comm] at hsix
  obtain ⟨hlo, hhi⟩ := sixDigits_bounds x hpos
  obtain ⟨⟨m, E⟩, hdigits⟩ : ∃ p, sixDigits x = p := ⟨_, rfl⟩
  rw [hdigits] at hlo hhi
  rw [roundUnsigned, hdigits] at hvalue
  simp only at hlo hhi hvalue
  have hE : e ≤ E := by
    by_contra h
    have hsmall : x < 10 ^ e := by
      calc x = m * 10 ^ (E - 5) := hvalue
        _ < 10 ^ 6 * 10 ^ (E - 5) := by
          gcongr
          exact_mod_cast hhi
        _ = 10 ^ (E + 1) := by
          rw [← zpow_natCast, ← zpow_add₀ (by norm_num)]
          congr 1
          push_cast
          ring
        _ ≤ 10 ^ e := by
          gcongr
          · norm_num
          · omega
    exact absurd hle (not_le.mpr hsmall)
  have hunit : (10 : K) ^ (e - 5) ≤ 10 ^ (E - 5) := by
    gcongr
    norm_num
  have hsum : sixDigits (x + t) = (m, E) := by
    apply sixDigits_of_near hlo hhi
    · linarith
    · rw [add_mul, ← hvalue]
      linarith
  have hsumpos : 0 < x + t := by linarith
  rw [roundSix, if_neg hsumpos.ne', if_neg hsumpos.not_gt, roundUnsigned, hsum, ← hvalue]

/-! ## Six digits and decimal places -/

theorem sixSig_div_pow (d N : Nat) (h : N ≤ 10 ^ 6) : SixSig ((N : K) / 10 ^ d) := by
  rcases Nat.lt_or_eq_of_le h with hlt | rfl
  · refine ⟨N, -d, hlt, ?_⟩
    rw [abs_of_nonneg (by positivity), zpow_neg, zpow_natCast, div_eq_mul_inv]
  · refine ⟨1, 6 - d, by norm_num, ?_⟩
    rw [abs_of_nonneg (by positivity), zpow_sub₀ (by norm_num), zpow_natCast]
    norm_num

/-- Six digits of a large number do not reach beyond the places. -/
theorem SixSig.exists_nat {s : K} (hs : SixSig s) (d : Nat) (h : 10 ^ 6 ≤ s * 10 ^ d) :
    ∃ S : Nat, s = S / 10 ^ d := by
  have hpow : (0 : K) < 10 ^ d := by positivity
  have hspos : 0 < s := by
    by_contra hneg
    have hprod := mul_nonpos_of_nonpos_of_nonneg (not_lt.mp hneg) hpow.le
    linarith
  obtain ⟨n, e, hn, he⟩ := hs
  rw [abs_of_pos hspos] at he
  have hexp : s * 10 ^ d = n * 10 ^ (e + d) := by
    rw [he, mul_assoc, ← zpow_natCast, ← zpow_add₀ (by norm_num)]
  have hnonneg : 0 ≤ e + d := by
    by_contra hneg
    have hsmall : (10 : K) ^ (e + d) ≤ 1 := zpow_le_one_of_nonpos₀ (by norm_num) (by omega)
    have hnK : (n : K) < 10 ^ 6 := by exact_mod_cast hn
    have hprod : (n : K) * 10 ^ (e + d) ≤ n * 1 := by gcongr
    linarith
  obtain ⟨k, hk⟩ := Int.eq_ofNat_of_zero_le hnonneg
  refine ⟨n * 10 ^ k, ?_⟩
  rw [eq_div_iff hpow.ne', hexp, hk]
  push_cast
  simp

/-- One more at the last place is too small for the six digits. -/
theorem roundSix_add_one_div_pow (d S : Nat) (h : 10 ^ 6 ≤ S) (hs : SixSig ((S : K) / 10 ^ d)) :
    roundSix (((S : K) + 1) / 10 ^ d) = S / 10 ^ d := by
  have hpow : (0 : K) < 10 ^ d := by positivity
  have hunit : (10 : K) ^ (6 - (d : ℤ)) = 10 ^ 6 / 10 ^ d := by
    rw [zpow_sub₀ (by norm_num), zpow_natCast]
    norm_cast
  have hlast : (10 : K) ^ (6 - (d : ℤ) - 5) = 10 / 10 ^ d := by
    rw [show 6 - (d : ℤ) - 5 = 1 - d by ring, zpow_sub₀ (by norm_num), zpow_natCast, zpow_one]
  rw [add_div]
  apply roundSix_add_of_sixSig hs (e := 6 - d)
  · rw [hunit, div_le_div_iff_of_pos_right hpow]
    exact_mod_cast h
  · positivity
  · rw [hlast, mul_div_assoc', div_lt_div_iff_of_pos_right hpow]
    norm_num

end IrPitCrew.Decimal
