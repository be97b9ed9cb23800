import IrPitCrew.Config.Regenerate

/-!
# The unit setting of one car and the lines of the others

The line of a car is known by how it starts: with the attribute, the car's name and
a blank. A name may hold blanks, so the line of a car whose name goes on after a
blank starts the same way.
-/

open IrPitCrew.Text IrPitCrew.Decimal

namespace IrPitCrew.Config

/-! ## Reading the line of another car -/

/-- The line that is written for the car. -/
def carSettingLine (car : Str) (isWeight : Bool) : Str :=
  settingLine (strDisplayCarFuelAsWeightForCar car) (printFlag isWeight)

/-- The line of `d` starts like one of `c`. -/
def StartsLike (c d : Str) : Prop := rtrim c ++ [' '] <+: d ++ [' ']

instance (c d : Str) : Decidable (StartsLike c d) := inferInstanceAs (Decidable (_ <+: _))

theorem exists_printFlag (b : Bool) : ∃ c, printFlag b = [c] ∧ isspace c = false ∧ c ≠ '\n' := by
  cases b
  · exact ⟨'0', rfl, rfl, by decide⟩
  · exact ⟨'1', rfl, rfl, by decide⟩

theorem trim_carSettingLine (car : Str) (b : Bool) : trim (carSettingLine car b) = carSettingLine car b := by
  obtain ⟨c, hflag, hspace, -⟩ := exists_printFlag b
  unfold carSettingLine
  rw [hflag]
  exact trim_carLine car hspace

theorem trim_concat_ne_nil (s : Str) {c : Char} (h : isspace c = false) : trim (s ++ [c]) ≠ [] := by
  rw [trim, rtrim_concat s c h, ltrim, ne_eq, List.dropWhile_eq_nil_iff]
  intro hall
  have hc := hall c (by simp)
  rw [h] at hc
  exact Bool.false_ne_true hc

theorem startsWith_concat_iff (p s : Str) (c : Char) :
    (p.length + 1 ≤ (s ++ [c]).length ∧ p <+: s ++ [c]) ↔ p <+: s := by
  rw [List.length_append, List.length_singleton]
  constructor
  · rintro ⟨hlen, hp⟩
    exact List.prefix_of_prefix_length_le hp (List.prefix_append s [c]) (by omega)
  · intro hp
    have hlen := hp.length_le
    exact ⟨by omega, hp.trans (List.prefix_append s [c])⟩

variable {K : Type*} [Field K]

/-- The line of `d` is read for `c` when it starts like one of `c`. -/
theorem lineValue_carSettingLine_ne_none_iff (c d : Str) (b : Bool) :
    (lineValue (strDisplayCarFuelAsWeightForCar c) (carSettingLine d b) : Option (AttributeValue K)) ≠
      none ↔ StartsLike c d := by
  obtain ⟨flag, hflag, hspace, -⟩ := exists_printFlag b
  have hline : carSettingLine d b =
      (strDisplayCarFuelAsWeightBase ++ ['_']) ++ ((d ++ [' ']) ++ [flag]) := by
    simp [carSettingLine, settingLine, strDisplayCarFuelAsWeightForCar, hflag]
  have hattr : trim (strDisplayCarFuelAsWeightForCar c) ++ [' '] =
      (strDisplayCarFuelAsWeightBase ++ ['_']) ++ (rtrim c ++ [' ']) := by
    rw [trim_strDisplayCarFuelAsWeightForCar]
    simp [strDisplayCarFuelAsWeightForCar]
  have hskip : isSkipped (carSettingLine d b) = false := by
    rw [hline]
    rfl
  have hmatch : (carSettingLine d b).length ≥
        (trim (strDisplayCarFuelAsWeightForCar c) ++ [' ']).length + 1 ∧
      trim (strDisplayCarFuelAsWeightForCar c) ++ [' '] <+: carSettingLine d b ↔ StartsLike c d := by
    unfold StartsLike
    rw [hline, hattr, List.prefix_append_right_inj, ← startsWith_concat_iff _ (d ++ [' ']) flag]
    refine and_congr ?_ Iff.rfl
    simp only [List.length_append]
    omega
  unfold lineValue
  rw [trim_carSettingLine, hskip]
  simp only [Bool.false_eq_true, if_false, parseAttributeValue, trim_carSettingLine, hmatch]
  by_cases h : StartsLike c d
  · rw [if_pos h]
    obtain ⟨rest, hrest⟩ := h
    -- The flag is at the end of what is left, so there is a value.
    have hdrop : (carSettingLine d b).drop
        (trim (strDisplayCarFuelAsWeightForCar c) ++ [' ']).length = rest ++ [flag] := by
      rw [hline, hattr, ← hrest]
      simp
    rw [hdrop, readValue, if_pos (trim_concat_ne_nil rest hspace)]
    exact iff_of_true (by simp) ⟨rest, hrest⟩
  · rw [if_neg h]
    exact iff_of_false (by simp) h

theorem newline_notMem_carSettingLine {car : Str} (b : Bool) (h : '\n' ∉ car) :
    '\n' ∉ carSettingLine car b := by
  obtain ⟨c, hflag, -, hc⟩ := exists_printFlag b
  have hbase : '\n' ∉ strDisplayCarFuelAsWeightBase := by decide
  simp [carSettingLine, settingLine, strDisplayCarFuelAsWeightForCar, hflag, h, hbase, hc.symm]

/-! ## Files that differ in the lines of another car -/

def withoutCar (car : Str) (ls : List Str) : List Str :=
  ls.filter fun l => l ≠ carSettingLine car true ∧ l ≠ carSettingLine car false

theorem firstValue_withoutCar {c d : Str} (h : ¬ StartsLike c d) (ls : List Str) :
    (firstValue (strDisplayCarFuelAsWeightForCar c) (withoutCar d ls) : Option (AttributeValue K)) =
      firstValue (strDisplayCarFuelAsWeightForCar c) ls := by
  have hnone (b : Bool) : (lineValue (strDisplayCarFuelAsWeightForCar c) (carSettingLine d b) :
      Option (AttributeValue K)) = none := by
    by_contra hne
    exact h ((lineValue_carSettingLine_ne_none_iff c d b).mp hne)
  induction ls with
  | nil => rfl
  | cons l ls ih =>
    rw [firstValue_cons, ← ih, withoutCar, List.filter_cons]
    by_cases hl : l ≠ carSettingLine d true ∧ l ≠ carSettingLine d false
    · rw [if_pos (by simpa using hl), firstValue_cons]
      rfl
    · rw [if_neg (by simpa using hl)]
      have hcar : (lineValue (strDisplayCarFuelAsWeightForCar c) l : Option (AttributeValue K)) = none := by
        rw [not_and_or, not_not, not_not] at hl
        rcases hl with rfl | rfl
        · exact hnone true
        · exact hnone false
      rw [hcar, Option.none_or]
      rfl

variable [LinearOrder K] [FloorRing K]

/-- Whatever lines of `d` are added, removed or changed, the setting of `c` that is read is the same,
and so is the line that is added for `c`. -/
def Undecided (K : Type*) [Field K] [LinearOrder K] [FloorRing K] (c d : Str) : Prop :=
  ∀ text text' : Str, withoutCar d (getlines text) = withoutCar d (getlines text') →
    (readConfigData (K := K) c (some text)).1.isDisplayCarFuelAsWeight =
      (readConfigData (K := K) c (some text')).1.isDisplayCarFuelAsWeight ∧
    newCarLines c (readLines (K := K) c (getlines text)) =
      newCarLines c (readLines (K := K) c (getlines text'))

omit [LinearOrder K] [FloorRing K] in
theorem isDisplayCarFuelAsWeight_withoutCar {c d : Str} (h : ¬ StartsLike c d) (ls : List Str) :
    (readLines (K := K) c (withoutCar d ls)).isDisplayCarFuelAsWeight =
      (readLines (K := K) c ls).isDisplayCarFuelAsWeight := by
  rw [readLines_eq, readLines_eq]
  simp only [firstValue_withoutCar h]

theorem undecided_of_not_startsLike {c d : Str} (h : ¬ StartsLike c d) : Undecided K c d := by
  intro text text' heq
  have hvalue : (readLines (K := K) c (getlines text)).isDisplayCarFuelAsWeight =
      (readLines (K := K) c (getlines text')).isDisplayCarFuelAsWeight := by
    rw [← isDisplayCarFuelAsWeight_withoutCar h, heq, isDisplayCarFuelAsWeight_withoutCar h]
  simp only [readConfigData, Found.values, newCarLines, hvalue, and_self]

/-- One line of `d` in an otherwise empty file. -/
theorem not_undecided_of_startsLike {c d : Str} (hc : c ≠ []) (hd : '\n' ∉ d) (h : StartsLike c d) :
    ¬ Undecided K c d := by
  intro hundecided
  have hlines : getlines (putlines [carSettingLine d true]) = [carSettingLine d true] :=
    getlines_putlines _ (by simpa using newline_notMem_carSettingLine true hd)
  have hempty : withoutCar d (getlines (putlines [carSettingLine d true])) = withoutCar d (getlines []) := by
    rw [hlines]
    simp [withoutCar, getlines]
  have hnew := (hundecided _ _ hempty).2
  obtain ⟨v, hv⟩ := Option.ne_none_iff_exists'.mp
    ((lineValue_carSettingLine_ne_none_iff (K := K) c d true).mpr h)
  rw [hlines, readLines_eq, readLines_eq] at hnew
  simp [newCarLines, firstValue_cons, hv, hc, getlines] at hnew

/-- **Other cars.** The lines of one car never decide the setting of another exactly when they do not
start like a line of the other. -/
theorem undecided_iff (c d : Str) (hc : c ≠ []) (hd : '\n' ∉ d) :
    Undecided K c d ↔ ¬ StartsLike c d :=
  ⟨fun h hstart => not_undecided_of_startsLike hc hd hstart h, undecided_of_not_startsLike⟩

theorem undecided_sample : Undecided ℚ "mx5".toList "mx5cup".toList :=
  (undecided_iff "mx5".toList "mx5cup".toList (by decide) (by decide)).mpr (by decide)

/-- A line with 0 for the other car turns the weight on. -/
theorem other_car_decides :
    let line := carSettingLine "mx5 cup".toList false
    (readConfigData (K := ℚ) "mx5".toList (some (putlines [line]))).1.isDisplayCarFuelAsWeight = true ∧
    (readConfigData (K := ℚ) "mx5".toList (some [])).1.isDisplayCarFuelAsWeight = false ∧
    ¬ Undecided ℚ "mx5".toList "mx5 cup".toList :=
  ⟨by decide +kernel, by decide +kernel,
    not_undecided_of_startsLike (by decide) (by decide) (by decide)⟩

end IrPitCrew.Config
