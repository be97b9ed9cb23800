import IrPitCrew.Config.ConfigData
import Mathlib.Data.Rat.Floor

/-!
# Writing config.txt again keeps the settings

Every setting is the first value of its attribute in the file. In the written
file each of the five settings has one line with the value that was read, and the
car lines follow in their old order.
-/

open IrPitCrew.Text IrPitCrew.Decimal

namespace IrPitCrew.Config

variable {K : Type*} [Field K]

/-! ## The first value of an attribute -/

def firstValue (strAttribute : Str) (ls : List Str) : Option (AttributeValue K) :=
  ls.findSome? (lineValue strAttribute)

@[simp] theorem firstValue_nil (a : Str) : (firstValue a [] : Option (AttributeValue K)) = none := rfl

theorem firstValue_cons (a l : Str) (ls : List Str) :
    (firstValue a (l :: ls) : Option (AttributeValue K)) = (lineValue a l).or (firstValue a ls) := by
  unfold firstValue
  rw [List.findSome?_cons]
  cases lineValue (K := K) a l <;> rfl

theorem firstValue_append (a : Str) (ls ms : List Str) :
    (firstValue a (ls ++ ms) : Option (AttributeValue K)) = (firstValue a ls).or (firstValue a ms) := by
  unfold firstValue
  rw [List.findSome?_append]

theorem readLines_eq (currentCar : Str) (ls : List Str) :
    readLines currentCar ls = ({
      isDisplayFuelImperial := (firstValue (K := K) strDisplayFuelImperial ls).map (·.isValueSet)
      isUseDriverLapsRemaining := (firstValue (K := K) strUseDriverLapsRemaining ls).map (·.isValueSet)
      isSkipClearOnApply := (firstValue (K := K) strSkipClearOnApply ls).map (·.isValueSet)
      serverPort := (firstValue (K := K) strServerPort ls).map (·.intValue)
      extraLapsOfFuel := (firstValue strExtraLapsOfFuel ls).map (·.doubleValue)
      isDisplayCarFuelAsWeight :=
        if currentCar ≠ [] then
          (firstValue (K := K) (strDisplayCarFuelAsWeightForCar currentCar) ls).map (·.isValueSet)
        else none
      origCarSettings := ls.filterMap carLine } : Found K) := by
  induction ls using List.reverseRecOn with
  | nil => simp [readLines]
  | append_singleton ls l ih =>
    have hstep : readLines (K := K) currentCar (ls ++ [l]) = readLine currentCar (readLines currentCar ls) l := by
      simp [readLines]
    rw [hstep, ih]
    unfold readLine
    simp only [firstValue_append, firstValue_cons, firstValue_nil, Option.or_none, Option.map_or,
      List.filterMap_append]
    congr 1
    by_cases hcar : currentCar = [] <;> simp [hcar]

/-! ## Lines that a given attribute does not read -/

theorem lineValue_of_isSkipped (a l : Str) (h : isSkipped (trim l) = true) :
    (lineValue a l : Option (AttributeValue K)) = none := by
  unfold lineValue
  rw [if_pos h]

/-- An empty line or a comment. Trimming stops at the comment's mark. -/
def IsRemark (l : Str) : Prop := l = [] ∨ ∃ text, l = comment text

theorem isSkipped_trim_of_isRemark (l : Str) (h : IsRemark l) : isSkipped (trim l) = true := by
  rcases h with rfl | ⟨text, rfl⟩
  · rfl
  · have hmark : rtrim ['#'] = ['#'] := rtrim_concat [] '#' rfl
    obtain ⟨w, hw, hspaces⟩ := exists_rtrim_append text.toList
    have hsplit : comment text = (['#'] ++ rtrim text.toList) ++ w := by
      unfold comment
      conv_lhs => rw [hw]
      simp
    unfold trim
    rw [hsplit, rtrim_append_spaces _ _ hspaces, rtrim_append_rtrim _ _ hmark, List.singleton_append,
      ltrim_cons '#' _ rfl]
    rfl

theorem firstValue_of_isRemark (a : Str) (ls : List Str) (h : ∀ l ∈ ls, IsRemark l) :
    (firstValue a ls : Option (AttributeValue K)) = none := by
  unfold firstValue
  rw [List.findSome?_eq_none_iff]
  exact fun l hl => lineValue_of_isSkipped a l (isSkipped_trim_of_isRemark l (h l hl))

theorem startsWith_of_lineValue (a l : Str) (h : (lineValue a l : Option (AttributeValue K)) ≠ none) :
    isSkipped (trim l) = false ∧ trim a ++ [' '] <+: trim l := by
  unfold lineValue at h
  split at h
  · exact absurd rfl h
  · rename_i hskip
    refine ⟨by simpa using hskip, ?_⟩
    simp only [parseAttributeValue, trim_trim] at h
    split at h
    · rename_i hp
      exact hp.2
    · simp at h

theorem lineValue_trim (a l : Str) :
    (lineValue a (trim l) : Option (AttributeValue K)) = lineValue a l := by
  unfold lineValue
  rw [trim_trim]

/-! ## The lines that are written -/

/-- A name of a setting: no blank in it, and no comment. -/
def NameOk (name : Str) : Prop := name ≠ [] ∧ name.head? ≠ some '#' ∧ ∀ c ∈ name, isspace c = false

instance (name : Str) : Decidable (NameOk name) :=
  inferInstanceAs (Decidable (name ≠ [] ∧ name.head? ≠ some '#' ∧ ∀ c ∈ name, isspace c = false))

/-- A value that trimming leaves alone. -/
def ValueOk (value : Str) : Prop := value ≠ [] ∧ ∀ c ∈ value, isspace c = false

theorem isSkipped_settingLine (a value : Str) (ha : NameOk a) :
    isSkipped (settingLine a value) = false := by
  obtain ⟨c, name, rfl⟩ := List.exists_cons_of_ne_nil ha.1
  have hc : c ≠ '#' := fun h => ha.2.1 (by rw [h]; rfl)
  simp [isSkipped, settingLine, hc]

theorem trim_settingLine (a value : Str) (ha : NameOk a) (hv : ValueOk value) :
    trim (settingLine a value) = settingLine a value := by
  obtain ⟨c, name, rfl⟩ := List.exists_cons_of_ne_nil ha.1
  rcases List.eq_nil_or_concat' value with rfl | ⟨value, d, rfl⟩
  · exact absurd rfl hv.1
  · have hc : isspace c = false := ha.2.2 c (by simp)
    have hd : isspace d = false := hv.2 d (by simp)
    have hsplit : settingLine (c :: name) (value ++ [d]) = c :: ((name ++ ' ' :: value) ++ [d]) := by
      simp [settingLine]
    rw [hsplit, trim_cons_concat c d _ hc hd]

/-- A written setting is read back. -/
theorem lineValue_settingLine (a value : Str) (ha : NameOk a) (hv : ValueOk value) :
    (lineValue a (settingLine a value) : Option (AttributeValue K)) = readValue value := by
  have htrim := trim_settingLine a value ha hv
  have hline : settingLine a value = (a ++ [' ']) ++ value := by simp [settingLine]
  have hlen := List.length_pos_of_ne_nil hv.1
  unfold lineValue parseAttributeValue
  rw [htrim, isSkipped_settingLine a value ha, trim_of_forall a ha.2.2]
  simp only [htrim, Bool.false_eq_true, if_false]
  rw [if_pos ⟨by rw [hline, List.length_append]; omega, ⟨value, hline.symm⟩⟩, hline, List.drop_left,
    trim_of_forall value hv.2]

theorem lineValue_settingLine_of_ne (a b value : Str) (ha : NameOk a) (hb : NameOk b)
    (hv : ValueOk value) (hne : a ≠ b) :
    (lineValue a (settingLine b value) : Option (AttributeValue K)) = none := by
  by_contra h
  obtain ⟨-, hstart⟩ := startsWith_of_lineValue a _ h
  rw [trim_settingLine b value hb hv, trim_of_forall a ha.2.2] at hstart
  have hblank : ∀ name, NameOk name → ' ' ∉ name := fun name hn hm => absurd (hn.2.2 _ hm) (by decide)
  exact hne (eq_of_append_sep_startsWith ' ' a b value (hblank a ha) (hblank b hb) hstart)

/-! ## Car lines -/

/-- The attribute of a car is trimmed behind the car's name. -/
theorem trim_strDisplayCarFuelAsWeightForCar (car : Str) :
    trim (strDisplayCarFuelAsWeightForCar car) = strDisplayCarFuelAsWeightForCar (rtrim car) := by
  have hbase : rtrim (strDisplayCarFuelAsWeightBase ++ ['_']) = strDisplayCarFuelAsWeightBase ++ ['_'] :=
    rtrim_concat _ _ rfl
  have hsplit : ∀ s, strDisplayCarFuelAsWeightForCar s = (strDisplayCarFuelAsWeightBase ++ ['_']) ++ s := by
    intro s
    simp [strDisplayCarFuelAsWeightForCar]
  obtain ⟨w, hw, hspaces⟩ := exists_rtrim_append car
  have hrtrim : rtrim (strDisplayCarFuelAsWeightForCar car) = strDisplayCarFuelAsWeightForCar (rtrim car) := by
    conv_lhs => rw [hsplit, hw, ← List.append_assoc]
    rw [rtrim_append_spaces _ _ hspaces, rtrim_append_rtrim _ _ hbase, ← hsplit]
  unfold trim
  rw [hrtrim]
  exact ltrim_cons 'D' _ rfl

theorem startsWith_strDisplayCarFuelAsWeightForCar (car : Str) :
    strDisplayCarFuelAsWeightBase <+: trim (strDisplayCarFuelAsWeightForCar car) := by
  rw [trim_strDisplayCarFuelAsWeightForCar]
  exact List.prefix_append _ _

/-- A car's line is one of the lines that are kept. -/
theorem lineValue_of_carLine_none (car l : Str) (h : carLine l = none) :
    (lineValue (strDisplayCarFuelAsWeightForCar car) l : Option (AttributeValue K)) = none := by
  by_contra hv
  obtain ⟨hskip, hstart⟩ := startsWith_of_lineValue _ l hv
  have hbase : strDisplayCarFuelAsWeightBase <+: trim l :=
    ((startsWith_strDisplayCarFuelAsWeightForCar car).trans (List.prefix_append _ _)).trans hstart
  unfold carLine at h
  rw [hskip, if_pos hbase] at h
  simp at h

/-- Keeping the car lines keeps the first value of every car. -/
theorem firstValue_filterMap_carLine (car : Str) (ls : List Str) :
    (firstValue (strDisplayCarFuelAsWeightForCar car) (ls.filterMap carLine) : Option (AttributeValue K)) =
      firstValue (strDisplayCarFuelAsWeightForCar car) ls := by
  induction ls with
  | nil => rfl
  | cons l ls ih =>
    rw [firstValue_cons]
    cases hl : carLine l with
    | none =>
      rw [List.filterMap_cons_none hl, ih, lineValue_of_carLine_none car l hl, Option.none_or]
    | some kept =>
      have hkept : kept = trim l := by
        unfold carLine at hl
        split at hl
        · simp at hl
        · split at hl
          · exact (Option.some.inj hl).symm
          · simp at hl
      rw [List.filterMap_cons_some hl, firstValue_cons, ih, hkept, lineValue_trim]

theorem lineValue_car_settingLine (car b value : Str) (hb : NameOk b) (hv : ValueOk value)
    (hnot : ¬ strDisplayCarFuelAsWeightBase <+: b) :
    (lineValue (strDisplayCarFuelAsWeightForCar car) (settingLine b value) : Option (AttributeValue K)) =
      none := by
  by_contra h
  obtain ⟨-, hstart⟩ := startsWith_of_lineValue _ _ h
  rw [trim_settingLine b value hb hv] at hstart
  have hbase := ((startsWith_strDisplayCarFuelAsWeightForCar car).trans (List.prefix_append _ _)).trans hstart
  exact hnot (isPrefix_of_notMem _ b value ' ' (by decide) hbase)

/-- The blank that has to follow the attribute is the first one behind the car's name. -/
def TrailOk (car : Str) : Prop := ∀ c ∈ (car.rtakeWhile isspace).head?, c = ' '

instance (car : Str) : Decidable (TrailOk car) :=
  decidable_of_iff ((car.rtakeWhile isspace).head?.all (· = ' ') = true) (by
    unfold TrailOk
    cases (car.rtakeWhile isspace).head? <;> simp)

theorem trim_carLine (car : Str) {flag : Char} (h : isspace flag = false) :
    trim (settingLine (strDisplayCarFuelAsWeightForCar car) [flag]) =
      settingLine (strDisplayCarFuelAsWeightForCar car) [flag] := by
  obtain ⟨base, hbase⟩ : ∃ base, strDisplayCarFuelAsWeightBase = 'D' :: base := ⟨_, rfl⟩
  have hcons := trim_cons_concat 'D' flag (base ++ '_' :: car ++ [' ']) rfl h
  unfold settingLine strDisplayCarFuelAsWeightForCar
  rw [hbase]
  simpa using hcons

theorem lineValue_newCarLine (car : Str) :
    (lineValue (strDisplayCarFuelAsWeightForCar car)
      (settingLine (strDisplayCarFuelAsWeightForCar car) ['0']) : Option (AttributeValue K)) =
      if TrailOk car then readValue ['0'] else none := by
  obtain ⟨w, hw⟩ : ∃ w, car.rtakeWhile isspace = w := ⟨_, rfl⟩
  have hcar : car = rtrim car ++ w := by
    rw [← hw]
    exact List.rdropWhile_append_rtakeWhile.symm
  have hspaces : ∀ c ∈ w ++ [' '], isspace c = true := by
    intro c hc
    rcases List.mem_append.mp hc with hc | hc
    · exact List.mem_rtakeWhile_imp (hw ▸ hc)
    · rw [List.mem_singleton.mp hc]
      rfl
  have hblank : [' '] <+: w ++ [' ', '0'] ↔ TrailOk car := by
    unfold TrailOk
    rw [hw]
    cases w <;> simp [eq_comm]
  have hline : settingLine (strDisplayCarFuelAsWeightForCar car) ['0'] =
      strDisplayCarFuelAsWeightForCar (rtrim car) ++ (w ++ [' ', '0']) := by
    conv_lhs => rw [hcar]
    simp [settingLine, strDisplayCarFuelAsWeightForCar]
  have htrim : trim (strDisplayCarFuelAsWeightForCar (rtrim car) ++ (w ++ [' ', '0'])) =
      strDisplayCarFuelAsWeightForCar (rtrim car) ++ (w ++ [' ', '0']) := by
    rw [← hline]
    exact trim_carLine car rfl
  have hvalue : trim ((w ++ [' ', '0']).drop 1) = ['0'] := by
    have hsplit : (w ++ [' ', '0']).drop 1 = (w ++ [' ']).drop 1 ++ ['0'] := by
      cases w <;> simp
    rw [hsplit]
    exact trim_spaces_concat _ '0' (fun c hc => hspaces c (List.mem_of_mem_drop hc)) rfl
  have hskip : isSkipped (strDisplayCarFuelAsWeightForCar (rtrim car) ++ (w ++ [' ', '0'])) = false := rfl
  unfold lineValue
  rw [hline, htrim, hskip]
  simp only [parseAttributeValue, htrim, trim_strDisplayCarFuelAsWeightForCar, Bool.false_eq_true,
    if_false, List.prefix_append_right_inj, hblank, ← List.drop_drop, List.length_append,
    List.drop_left, List.length_singleton, hvalue]
  by_cases h : TrailOk car
  · rw [if_pos h, if_pos ⟨by rw [List.length_cons, List.length_singleton]; omega, h⟩]
  · rw [if_neg h, if_neg (fun hc => h hc.2)]

/-! ## The written values -/

theorem valueOk_printFlag (b : Bool) : ValueOk (printFlag b) := by
  cases b
  · exact ⟨by decide, by decide⟩
  · exact ⟨by decide, by decide⟩

theorem valueOk_printInt (n : ℤ) : ValueOk (printInt n) :=
  ⟨printInt_ne_nil n, fun c hc => isspace_eq_false_of_numberChar c (printInt_chars n c hc)⟩

theorem readValue_printFlag (b : Bool) :
    (readValue (K := K) (printFlag b)).map (·.isValueSet) = some b := by
  cases b <;> rfl

theorem readValue_printInt (n : ℤ) :
    (readValue (K := K) (printInt n)).map (·.intValue) = some n := by
  unfold readValue
  rw [if_pos (printInt_ne_nil n), Option.map_some, atoi_printInt]

variable [LinearOrder K] [FloorRing K]

theorem valueOk_printNumber (x : K) : ValueOk (printNumber x) :=
  ⟨printNumber_ne_nil x, fun c hc => isspace_eq_false_of_numberChar c (printNumber_chars x c hc)⟩

theorem readValue_printNumber (x : K) :
    (readValue (printNumber x)).map (·.doubleValue) = some (roundSix x) := by
  unfold readValue
  rw [if_pos (printNumber_ne_nil x), Option.map_some, atof_printNumber]

/-! ## The written file -/

theorem isRemark_template : ∀ l ∈ headerLines ++ useDriverLapsRemainingLines ++ skipClearOnApplyLines ++
    serverPortLines ++ extraLapsOfFuelLines ++ carLines ++ [[]], IsRemark l := by
  unfold headerLines useDriverLapsRemainingLines skipClearOnApplyLines serverPortLines
    extraLapsOfFuelLines carLines
  simp only [List.cons_append, List.nil_append, List.forall_mem_cons]
  and_intros <;> first | exact .inl rfl | exact .inr ⟨_, rfl⟩ | simp

def settings (f : Found K) : List (Str × Str) :=
  [(strDisplayFuelImperial, printFlag f.values.isDisplayFuelImperial),
   (strUseDriverLapsRemaining, printFlag f.values.isUseDriverLapsRemaining),
   (strSkipClearOnApply, printFlag f.values.isSkipClearOnApply),
   (strServerPort, printInt f.values.serverPort),
   (strExtraLapsOfFuel, printNumber f.values.extraLapsOfFuel)]

theorem settings_ok (f : Found K) :
    (∀ p ∈ settings f, NameOk p.1 ∧ ValueOk p.2) ∧ ((settings f).map Prod.fst).Nodup := by
  have hnodup : [strDisplayFuelImperial, strUseDriverLapsRemaining, strSkipClearOnApply, strServerPort,
      strExtraLapsOfFuel].Nodup := by decide
  refine ⟨?_, hnodup⟩
  unfold settings
  simp only [List.forall_mem_cons]
  exact ⟨⟨by decide, valueOk_printFlag _⟩, ⟨by decide, valueOk_printFlag _⟩,
    ⟨by decide, valueOk_printFlag _⟩, ⟨by decide, valueOk_printInt _⟩, ⟨by decide, valueOk_printNumber _⟩,
    by simp⟩

omit [LinearOrder K] [FloorRing K] in
theorem firstValue_settings (l : List (Str × Str)) (hok : ∀ p ∈ l, NameOk p.1 ∧ ValueOk p.2)
    (hnodup : (l.map Prod.fst).Nodup) (a value : Str) (h : (a, value) ∈ l) :
    (firstValue a (l.map fun p => settingLine p.1 p.2) : Option (AttributeValue K)) = readValue value := by
  induction l with
  | nil => simp at h
  | cons p l ih =>
    obtain ⟨b, u⟩ := p
    obtain ⟨hb, hl⟩ := List.nodup_cons.mp hnodup
    obtain ⟨hbname, hu⟩ := hok (b, u) (by simp)
    rw [List.map_cons, firstValue_cons]
    rcases List.mem_cons.mp h with heq | hmem
    · obtain ⟨rfl, rfl⟩ := Prod.mk.inj heq
      rw [lineValue_settingLine a value hbname hu, readValue, if_pos hu.1, Option.some_or]
    · have hab : a ≠ b := fun hab => hb (List.mem_map.mpr ⟨_, hmem, hab⟩)
      have ha := (hok (a, value) (by simp [hmem])).1
      rw [lineValue_settingLine_of_ne a b u ha hbname hu hab, Option.none_or]
      exact ih (fun q hq => hok q (by simp [hq])) hl hmem

/-- Only the settings and the car lines of a written file are read. -/
theorem firstValue_fileContents (a currentCar : Str) (f : Found K) :
    (firstValue a (fileContents currentCar f) : Option (AttributeValue K)) =
      (firstValue a ((settings f).map fun p => settingLine p.1 p.2)).or
        (firstValue a (f.origCarSettings ++ newCarLines currentCar f)) := by
  have hremark := firstValue_of_isRemark (K := K) a _ isRemark_template
  simp only [firstValue_append, Option.or_eq_none_iff] at hremark
  obtain ⟨⟨⟨⟨⟨⟨h1, h2⟩, h3⟩, h4⟩, h5⟩, h6⟩, h7⟩ := hremark
  unfold fileContents settings
  simp only [List.cons_append, List.append_assoc, firstValue_append, firstValue_cons, h1, h2, h3, h4,
    h5, h6, h7, Option.none_or, Option.or_none, Option.or_assoc, List.map_cons, List.map_nil,
    firstValue_nil]

theorem firstValue_setting (currentCar : Str) (f : Found K) (a value : Str)
    (h : (a, value) ∈ settings f) :
    (firstValue a (fileContents currentCar f) : Option (AttributeValue K)) = readValue value := by
  obtain ⟨hok, hnodup⟩ := settings_ok f
  rw [firstValue_fileContents, firstValue_settings _ hok hnodup a value h, readValue,
    if_pos (hok _ h).2.1, Option.some_or]

/-- The five settings, read back. The number is rounded to six digits. -/
theorem readLines_fileContents (currentCar d : Str) (f : Found K) :
    (readLines (K := K) d (fileContents currentCar f)).isDisplayFuelImperial = some f.values.isDisplayFuelImperial ∧
    (readLines (K := K) d (fileContents currentCar f)).isUseDriverLapsRemaining =
      some f.values.isUseDriverLapsRemaining ∧
    (readLines (K := K) d (fileContents currentCar f)).isSkipClearOnApply =
      some f.values.isSkipClearOnApply ∧
    (readLines (K := K) d (fileContents currentCar f)).serverPort = some f.values.serverPort ∧
    (readLines (K := K) d (fileContents currentCar f)).extraLapsOfFuel =
      some (roundSix f.values.extraLapsOfFuel) := by
  rw [readLines_eq d]
  simp only
  have h1 := firstValue_setting currentCar f strDisplayFuelImperial
    (printFlag f.values.isDisplayFuelImperial) (by simp [settings])
  have h2 := firstValue_setting currentCar f strUseDriverLapsRemaining
    (printFlag f.values.isUseDriverLapsRemaining) (by simp [settings])
  have h3 := firstValue_setting currentCar f strSkipClearOnApply
    (printFlag f.values.isSkipClearOnApply) (by simp [settings])
  have h4 := firstValue_setting currentCar f strServerPort (printInt f.values.serverPort)
    (by simp [settings])
  have h5 := firstValue_setting currentCar f strExtraLapsOfFuel (printNumber f.values.extraLapsOfFuel)
    (by simp [settings])
  rw [h1, h2, h3, h4, h5, readValue_printFlag, readValue_printFlag, readValue_printFlag,
    readValue_printInt, readValue_printNumber]
  exact ⟨rfl, rfl, rfl, rfl, rfl⟩

theorem firstValue_settings_car (car : Str) (f : Found K) :
    (firstValue (strDisplayCarFuelAsWeightForCar car) ((settings f).map fun p => settingLine p.1 p.2) :
      Option (AttributeValue K)) = none := by
  have hnot : ∀ a ∈ [strDisplayFuelImperial, strUseDriverLapsRemaining, strSkipClearOnApply, strServerPort,
      strExtraLapsOfFuel], ¬ strDisplayCarFuelAsWeightBase <+: a := by decide
  unfold firstValue
  rw [List.findSome?_eq_none_iff]
  intro l hl
  obtain ⟨p, hp, rfl⟩ := List.mem_map.mp hl
  obtain ⟨hname, hvalue⟩ := (settings_ok f).1 p hp
  exact lineValue_car_settingLine car p.1 p.2 hname hvalue (hnot p.1 (List.mem_map_of_mem hp))

/-- A car's value in the written file is its old one, or that of the new line. -/
theorem firstValue_fileContents_car (currentCar d : Str) (ls : List Str) :
    (firstValue (strDisplayCarFuelAsWeightForCar d)
      (fileContents currentCar (readLines (K := K) currentCar ls)) : Option (AttributeValue K)) =
      (firstValue (strDisplayCarFuelAsWeightForCar d) ls).or
        (firstValue (strDisplayCarFuelAsWeightForCar d)
          (newCarLines currentCar (readLines (K := K) currentCar ls))) := by
  have hcars : (readLines (K := K) currentCar ls).origCarSettings = ls.filterMap carLine := by
    rw [readLines_eq]
  rw [firstValue_fileContents, firstValue_settings_car, Option.none_or, firstValue_append, hcars,
    firstValue_filterMap_carLine]

omit [LinearOrder K] [FloorRing K] in
theorem firstValue_newCarLines (currentCar : Str) (f : Found K) :
    (firstValue (strDisplayCarFuelAsWeightForCar currentCar) (newCarLines currentCar f) :
      Option (AttributeValue K)) =
      if f.isDisplayCarFuelAsWeight = none ∧ currentCar ≠ [] ∧ TrailOk currentCar then readValue ['0']
      else none := by
  unfold newCarLines
  by_cases hnew : f.isDisplayCarFuelAsWeight = none ∧ currentCar ≠ []
  · have hflag : printFlag f.values.isDisplayCarFuelAsWeight = ['0'] := by
      simp [Found.values, hnew.1, printFlag]
    rw [if_pos (by simpa using hnew), hflag, firstValue_cons, firstValue_nil, Option.or_none,
      lineValue_newCarLine]
    simp [hnew]
  · rw [if_neg (by simpa using hnew), if_neg (fun h => hnew ⟨h.1, h.2.1⟩)]
    rfl

/-! ## No line end inside a line -/

theorem newline_notMem_comment (l : List Char) (h : '\n' ∉ l) : '\n' ∉ comment (String.ofList l) := by
  unfold comment
  rw [String.toList_ofList]
  simpa using h

theorem newline_notMem_template : ∀ l ∈ headerLines ++ useDriverLapsRemainingLines ++
    skipClearOnApplyLines ++ serverPortLines ++ extraLapsOfFuelLines ++ carLines ++ [[]], '\n' ∉ l := by
  unfold headerLines useDriverLapsRemainingLines skipClearOnApplyLines serverPortLines
    extraLapsOfFuelLines carLines
  simp only [List.cons_append, List.nil_append, List.forall_mem_cons]
  and_intros <;> first | exact newline_notMem_comment _ (by decide) | simp

theorem newline_notMem_settingLine (a value : Str) (ha : NameOk a) (hv : ValueOk value) :
    '\n' ∉ settingLine a value := by
  unfold settingLine
  intro h
  simp only [List.mem_append, List.mem_cons] at h
  rcases h with h | h | h
  · exact absurd (ha.2.2 _ h) (by decide)
  · exact absurd h (by decide)
  · exact absurd (hv.2 _ h) (by decide)

theorem newline_notMem_carLine (raw l : Str) (hraw : '\n' ∉ raw) (h : carLine raw = some l) : '\n' ∉ l := by
  unfold carLine at h
  split at h
  · simp at h
  · split at h
    · rw [← Option.some.inj h]
      exact fun hm => hraw ((trim_sublist raw).subset hm)
    · simp at h

omit [LinearOrder K] [FloorRing K] in
theorem newline_notMem_newCarLines (currentCar : Str) (f : Found K) (hcar : '\n' ∉ currentCar) :
    ∀ l ∈ newCarLines currentCar f, '\n' ∉ l := by
  intro l h
  unfold newCarLines at h
  split at h
  · rw [List.mem_singleton.mp h]
    unfold settingLine strDisplayCarFuelAsWeightForCar
    intro hm
    simp only [List.mem_append, List.mem_cons] at hm
    rcases hm with (hm | hm | hm) | hm | hm
    · exact absurd hm (by decide)
    · exact absurd hm (by decide)
    · exact hcar hm
    · exact absurd hm (by decide)
    · exact absurd ((valueOk_printFlag _).2 _ hm) (by decide)
  · simp at h

theorem newline_notMem_fileContents (currentCar text : Str) (hcar : '\n' ∉ currentCar) :
    ∀ l ∈ fileContents currentCar (readLines (K := K) currentCar (getlines text)), '\n' ∉ l := by
  have hsettings : ∀ p ∈ settings (readLines (K := K) currentCar (getlines text)),
      '\n' ∉ settingLine p.1 p.2 := by
    intro p hp
    obtain ⟨hname, hvalue⟩ := (settings_ok _).1 p hp
    exact newline_notMem_settingLine p.1 p.2 hname hvalue
  have hcars : ∀ l ∈ (readLines (K := K) currentCar (getlines text)).origCarSettings, '\n' ∉ l := by
    rw [readLines_eq]
    intro l hl
    obtain ⟨raw, hraw, hkept⟩ := List.mem_filterMap.mp hl
    exact newline_notMem_carLine raw l (newline_notMem_getlines text raw hraw) hkept
  have hnew := newline_notMem_newCarLines currentCar (readLines (K := K) currentCar (getlines text)) hcar
  have htemplate := newline_notMem_template
  unfold settings at hsettings
  simp only [List.forall_mem_append, List.forall_mem_cons] at hsettings htemplate
  obtain ⟨h1, h2, h3, h4, h5, -⟩ := hsettings
  obtain ⟨⟨⟨⟨⟨⟨t1, t2⟩, t3⟩, t4⟩, t5⟩, t6⟩, t7, -⟩ := htemplate
  unfold fileContents
  simp only [List.forall_mem_append, List.forall_mem_cons]
  exact ⟨⟨⟨⟨⟨⟨⟨⟨t1, h1, t2⟩, h2, t3⟩, h3, t4⟩, h4, t5⟩, h5, t6⟩, hcars⟩, hnew⟩, t7, by simp⟩

/-! ## Reading the file again -/

def linesOf (file : Option Str) : List Str := (file.map getlines).getD []

/-- No file is read like an empty one. -/
theorem readConfigData_eq (currentCar : Str) (file : Option Str) :
    readConfigData (K := K) currentCar file =
      ((readLines currentCar (linesOf file)).values,
        if (readLines (K := K) currentCar (linesOf file)).isUpdateRequired currentCar then
          some (putlines (fileContents currentCar (readLines (K := K) currentCar (linesOf file))))
        else none) := by
  cases file with
  | none => rfl
  | some text => rfl

theorem linesOf_fileAfter (currentCar : Str) (file : Option Str) (hcar : '\n' ∉ currentCar) :
    linesOf (fileAfter K currentCar file) =
      if (readLines (K := K) currentCar (linesOf file)).isUpdateRequired currentCar then
        fileContents currentCar (readLines (K := K) currentCar (linesOf file))
      else linesOf file := by
  unfold fileAfter
  rw [readConfigData_eq]
  simp only
  split
  · have hlines : ∃ text, linesOf file = getlines text := by
      cases file with
      | none => exact ⟨[], rfl⟩
      | some text => exact ⟨text, rfl⟩
    obtain ⟨text, htext⟩ := hlines
    rw [Option.some_or, linesOf, Option.map_some, Option.getD_some, htext,
      getlines_putlines _ (newline_notMem_fileContents currentCar text hcar)]
  · rw [Option.none_or]

/-- The current car in the written file: its old value, or 0 if the parser finds the new line. -/
theorem isDisplayCarFuelAsWeight_again (currentCar : Str) (ls : List Str) (hcar : currentCar ≠ []) :
    (readLines (K := K) currentCar
      (fileContents currentCar (readLines (K := K) currentCar ls))).isDisplayCarFuelAsWeight =
      (readLines (K := K) currentCar ls).isDisplayCarFuelAsWeight.or
        (if TrailOk currentCar then some false else none) := by
  have hzero : (readValue (K := K) ['0']).map (·.isValueSet) = some false := readValue_printFlag false
  rw [readLines_eq currentCar (fileContents _ _)]
  simp only [if_pos hcar]
  rw [firstValue_fileContents_car, firstValue_newCarLines, Option.map_or]
  have hold : (readLines (K := K) currentCar ls).isDisplayCarFuelAsWeight =
      (firstValue (K := K) (strDisplayCarFuelAsWeightForCar currentCar) ls).map (·.isValueSet) := by
    rw [readLines_eq]
    simp [hcar]
  rw [hold]
  cases firstValue (K := K) (strDisplayCarFuelAsWeightForCar currentCar) ls with
  | some v => rfl
  | none =>
    by_cases htrail : TrailOk currentCar
    · simp only [Option.map_none, Option.none_or, hcar, not_false_eq_true, htrail, ne_eq,
        and_self, if_true, hzero]
    · simp [htrail]

variable [IsStrictOrderedRing K]

/-- The five settings of the written file, when the extra laps have at most six digits. -/
theorem settings_again (currentCar d : Str) (ls : List Str)
    (hsix : SixSig (readLines (K := K) currentCar ls).values.extraLapsOfFuel) :
    (readLines (K := K) d (fileContents currentCar (readLines (K := K) currentCar ls))).values =
      { (readLines d ls).values with
        isDisplayCarFuelAsWeight := (readLines (K := K) d
          (fileContents currentCar (readLines (K := K) currentCar ls))).values.isDisplayCarFuelAsWeight } := by
  obtain ⟨h1, h2, h3, h4, h5⟩ := readLines_fileContents currentCar d (readLines (K := K) currentCar ls)
  rw [roundSix_of_sixSig _ hsix] at h5
  rw [readLines_eq d ls]
  rw [readLines_eq currentCar ls] at h1 h2 h3 h4 h5 ⊢
  simp only [Found.values] at h1 h2 h3 h4 h5 ⊢
  rw [h1, h2, h3, h4, h5]
  rfl

theorem values_again (currentCar : Str) (ls : List Str)
    (hsix : SixSig (readLines (K := K) currentCar ls).values.extraLapsOfFuel) :
    (readLines (K := K) currentCar (fileContents currentCar (readLines (K := K) currentCar ls))).values =
      (readLines currentCar ls).values := by
  have hweight : (readLines (K := K) currentCar (fileContents currentCar
      (readLines (K := K) currentCar ls))).values.isDisplayCarFuelAsWeight =
      (readLines (K := K) currentCar ls).values.isDisplayCarFuelAsWeight := by
    unfold Found.values
    by_cases hcar : currentCar = []
    · have hnone : ∀ ms, (readLines (K := K) currentCar ms).isDisplayCarFuelAsWeight = none := by
        intro ms
        rw [readLines_eq]
        simp [hcar]
      rw [hnone, hnone]
    · rw [isDisplayCarFuelAsWeight_again currentCar ls hcar]
      cases (readLines (K := K) currentCar ls).isDisplayCarFuelAsWeight with
      | some b => rfl
      | none => split <;> rfl
  rw [settings_again currentCar currentCar ls hsix, hweight]

omit [IsStrictOrderedRing K] in
theorem isUpdateRequired_again (currentCar : Str) (ls : List Str) :
    (readLines (K := K) currentCar
      (fileContents currentCar (readLines (K := K) currentCar ls))).isUpdateRequired currentCar = false ↔
    currentCar = [] ∨ (readLines (K := K) currentCar ls).isDisplayCarFuelAsWeight ≠ none ∨
      TrailOk currentCar := by
  obtain ⟨h1, h2, h3, h4, h5⟩ :=
    readLines_fileContents currentCar currentCar (readLines (K := K) currentCar ls)
  unfold Found.isUpdateRequired
  rw [h1, h2, h3, h4, h5]
  by_cases hcar : currentCar = []
  · simp [hcar]
  · rw [isDisplayCarFuelAsWeight_again currentCar ls hcar]
    cases (readLines (K := K) currentCar ls).isDisplayCarFuelAsWeight with
    | some b => simp
    | none => by_cases htrail : TrailOk currentCar <;> simp [hcar, htrail]

/-! ## Regeneration -/

def HasCarLine (K : Type*) [Field K] (car : Str) (file : Option Str) : Prop :=
  ∃ l ∈ linesOf file, (lineValue (K := K) (strDisplayCarFuelAsWeightForCar car) l).isSome

omit [LinearOrder K] [FloorRing K] [IsStrictOrderedRing K] in
theorem hasCarLine_iff (car : Str) (file : Option Str) (hcar : car ≠ []) :
    HasCarLine K car file ↔
      (readLines (K := K) car (linesOf file)).isDisplayCarFuelAsWeight ≠ none := by
  rw [readLines_eq]
  simp only [if_pos hcar, ne_eq, Option.map_eq_none_iff, firstValue, List.findSome?_eq_none_iff]
  simp [HasCarLine, Option.isSome_iff_ne_none]

/-- A second read gives the same values and leaves the file alone. -/
theorem second_read_iff (currentCar : Str) (file : Option Str) (hcar : '\n' ∉ currentCar)
    (hsix : SixSig (readConfigData (K := K) currentCar file).1.extraLapsOfFuel) :
    readConfigData (K := K) currentCar (fileAfter K currentCar file) =
      ((readConfigData currentCar file).1, none) ↔
    currentCar = [] ∨ HasCarLine K currentCar file ∨ TrailOk currentCar := by
  rw [readConfigData_eq] at hsix
  rw [readConfigData_eq, readConfigData_eq, linesOf_fileAfter _ _ hcar]
  have hline : ∀ hne : currentCar ≠ [], HasCarLine K currentCar file ↔
      (readLines (K := K) currentCar (linesOf file)).isDisplayCarFuelAsWeight ≠ none :=
    hasCarLine_iff currentCar file
  by_cases hup : (readLines (K := K) currentCar (linesOf file)).isUpdateRequired currentCar = true
  · have hagain := isUpdateRequired_again (K := K) currentCar (linesOf file)
    rw [if_pos hup, values_again currentCar _ hsix, Prod.mk.injEq]
    by_cases hne : currentCar = []
    · simpa [hne] using hagain
    · rw [hline hne, ← hagain]
      simp
  · rw [if_neg hup, if_neg hup]
    refine ⟨fun _ => ?_, fun _ => rfl⟩
    by_cases hne : currentCar = []
    · exact .inl hne
    · refine .inr (.inl ((hline hne).mpr fun hnone => hup ?_))
      simp [Found.isUpdateRequired, hnone, hne]

/-- The settings do not depend on the car whose line was added. -/
theorem read_without_car (currentCar : Str) (file : Option Str) (hcar : '\n' ∉ currentCar)
    (hsix : SixSig (readConfigData (K := K) currentCar file).1.extraLapsOfFuel) :
    (readConfigData (K := K) [] (fileAfter K currentCar file)).1 = (readConfigData [] file).1 := by
  rw [readConfigData_eq] at hsix
  rw [readConfigData_eq, readConfigData_eq, linesOf_fileAfter _ _ hcar]
  have hnone : ∀ ls, (readLines (K := K) [] ls).values.isDisplayCarFuelAsWeight = false := by
    intro ls
    rw [readLines_eq]
    rfl
  split
  · rw [settings_again currentCar [] _ hsix, hnone, ← hnone (linesOf file)]
  · rfl

omit [IsStrictOrderedRing K] in
/-- A car that had a line keeps its value. -/
theorem read_other_car (currentCar d : Str) (file : Option Str) (hcar : '\n' ∉ currentCar)
    (hd : HasCarLine K d file) :
    (readConfigData (K := K) d (fileAfter K currentCar file)).1.isDisplayCarFuelAsWeight =
      (readConfigData (K := K) d file).1.isDisplayCarFuelAsWeight := by
  rw [readConfigData_eq, readConfigData_eq, linesOf_fileAfter _ _ hcar]
  split
  · obtain ⟨v, hv⟩ : ∃ v, firstValue (K := K) (strDisplayCarFuelAsWeightForCar d) (linesOf file) = some v := by
      obtain ⟨l, hl, hsome⟩ := hd
      rw [← Option.isSome_iff_exists, firstValue, List.findSome?_isSome_iff]
      exact ⟨l, hl, hsome⟩
    rw [readLines_eq d (fileContents _ _), readLines_eq d (linesOf file)]
    simp only [Found.values]
    rw [firstValue_fileContents_car, hv, Option.some_or]
  · rfl

/-- **Regeneration.** The settings survive, and the file is written once: exactly when the
car's name does not end in white space other than a blank, or its line is there already. -/
theorem regeneration_keeps_settings_iff (currentCar : Str) (file : Option Str) (hcar : '\n' ∉ currentCar)
    (hsix : SixSig (readConfigData (K := K) currentCar file).1.extraLapsOfFuel) :
    (readConfigData (K := K) currentCar (fileAfter K currentCar file) =
      ((readConfigData currentCar file).1, none) ∧
    (readConfigData (K := K) [] (fileAfter K currentCar file)).1 = (readConfigData [] file).1 ∧
    ∀ d, d ≠ currentCar → HasCarLine K d file →
      (readConfigData (K := K) d (fileAfter K currentCar file)).1.isDisplayCarFuelAsWeight =
        (readConfigData (K := K) d file).1.isDisplayCarFuelAsWeight) ↔
    currentCar = [] ∨ HasCarLine K currentCar file ∨ TrailOk currentCar := by
  rw [← second_read_iff currentCar file hcar hsix]
  refine ⟨fun h => h.1, fun h => ⟨h, read_without_car currentCar file hcar hsix, ?_⟩⟩
  exact fun d _ hd => read_other_car currentCar d file hcar hd

/-- The new line has the tab between the name and the blank, and the parser wants the blank first. -/
theorem tab_car_rewritten :
    readConfigData (K := ℚ) "abc\t".toList (fileAfter ℚ "abc\t".toList none) ≠
      ((readConfigData (K := ℚ) "abc\t".toList none).1, none) := by
  intro h
  have hsix : SixSig (readConfigData (K := ℚ) "abc\t".toList none).1.extraLapsOfFuel :=
    ⟨0, 0, by norm_num, by simp [readConfigData, Found.values]⟩
  rcases (second_read_iff "abc\t".toList none (by decide) hsix).mp h with hnil | ⟨l, hl, -⟩ | htrail
  · exact absurd hnil (by decide)
  · simp [linesOf] at hl
  · exact absurd htrail (by decide)

def sampleFile : Str := "# mine\nServerPort 5000\nDisplayCarFuelAsWeight_mx5 1\n".toList

theorem regeneration_sample :
    readConfigData (K := ℚ) "gt3".toList (fileAfter ℚ "gt3".toList (some sampleFile)) =
      ((readConfigData "gt3".toList (some sampleFile)).1, none) := by
  have hsix : SixSig (readConfigData (K := ℚ) "gt3".toList (some sampleFile)).1.extraLapsOfFuel :=
    ⟨0, 0, by norm_num, by decide +kernel⟩
  have h := regeneration_keeps_settings_iff "gt3".toList (some sampleFile) (by decide) hsix
  exact (h.mpr (.inr (.inr (by decide)))).1

end IrPitCrew.Config
