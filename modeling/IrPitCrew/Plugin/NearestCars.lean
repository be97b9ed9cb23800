import IrPitCrew.Plugin.SessionCars
import IrPitCrew.Plugin.VarData

/-!
# The cars ahead and behind are those next to the player

The loop over the positions keeps the first car of each class position, and stops
after the last result. The items of the two arrays are those of the car, so the
interval is the distance in laps times the estimate for a lap.
-/

open IrPitCrew.Text IrPitCrew.Decimal IrPitCrew.Rounding IrPitCrew.WebServer

namespace IrPitCrew.Plugin

/-! ## The results of a session -/

structure Result where
  carIdx : ℤ
  classPosition : ℤ
  deriving DecidableEq

/-- The session info has these results at the positions from 1 on, and no further one. -/
structure HasResults (f : Frame) (sessionNum : ℤ) (results : List Result) : Prop where
  carIdx : ∀ (i : Nat) r, results[i]? = some r →
    (f.result sessionNum (i + 1) "CarIdx:").map atoi = some r.carIdx
  classPosition : ∀ (i : Nat) r, results[i]? = some r →
    (f.result sessionNum (i + 1) "ClassPosition:").map atoi = some r.classPosition
  last : f.result sessionNum (results.length + 1) "CarIdx:" = none
  distinct : (results.map Result.carIdx).Nodup

def Frame.isMyClass (f : Frame) (r : Result) : Bool := f.carClass r.carIdx = f.carClass f.carIdx

/-- The first car of the player's class that has the class position. -/
def firstOfClass (f : Frame) (results : List Result) (classPosition : ℤ) : Option Result :=
  results.find? fun r => f.isMyClass r ∧ r.classPosition = classPosition

/-! ## The loop over the positions -/

namespace ClassScan

variable (myCarIdx : ℤ)

def addResults (scan : ClassScan) (results : List Result) : ClassScan :=
  results.foldl (fun scan r => scan.add myCarIdx r.carIdx r.classPosition) scan

@[simp] theorem addResults_nil (scan : ClassScan) : scan.addResults myCarIdx [] = scan := rfl

@[simp] theorem addResults_cons (scan : ClassScan) (r : Result) (results : List Result) :
    scan.addResults myCarIdx (r :: results) =
      (scan.add myCarIdx r.carIdx r.classPosition).addResults myCarIdx results := rfl

theorem lookup_add (scan : ClassScan) (r : Result) (position : ℤ) :
    (scan.add myCarIdx r.carIdx r.classPosition).classPosToCarIdxMap.lookup position =
      (scan.classPosToCarIdxMap.lookup position).or
        (if r.classPosition = position then some r.carIdx else none) := by
  unfold add
  dsimp only
  by_cases hposition : r.classPosition = position
  · subst hposition
    cases hfound : scan.classPosToCarIdxMap.lookup r.classPosition with
    | some carIdx => simp [hfound]
    | none => simp
  · have hne : (position == r.classPosition) = false := by simpa using Ne.symm hposition
    rw [if_neg hposition, Option.or_none]
    split
    · rfl
    · rw [List.lookup_cons, hne]

theorem myPosition_add (scan : ClassScan) (r : Result) :
    (scan.add myCarIdx r.carIdx r.classPosition).myPosition =
      scan.myPosition.or (if r.carIdx = myCarIdx then some r.classPosition else none) := by
  unfold add
  cases scan.myPosition with
  | some position => simp
  | none => simp

theorem lookup_addResults (scan : ClassScan) (results : List Result) (position : ℤ) :
    (scan.addResults myCarIdx results).classPosToCarIdxMap.lookup position =
      (scan.classPosToCarIdxMap.lookup position).or
        ((results.find? fun r => decide (r.classPosition = position)).map Result.carIdx) := by
  induction results generalizing scan with
  | nil => simp
  | cons r results ih =>
    rw [addResults_cons, ih, lookup_add, Option.or_assoc, List.find?_cons]
    by_cases hposition : r.classPosition = position
    · simp [hposition]
    · simp [hposition]

theorem myPosition_addResults (scan : ClassScan) (results : List Result) :
    (scan.addResults myCarIdx results).myPosition =
      scan.myPosition.or
        ((results.find? fun r => decide (r.carIdx = myCarIdx)).map Result.classPosition) := by
  induction results generalizing scan with
  | nil => simp
  | cons r results ih =>
    rw [addResults_cons, ih, myPosition_add, Option.or_assoc, List.find?_cons]
    by_cases hcar : r.carIdx = myCarIdx
    · simp [hcar]
    · simp [hcar]

end ClassScan

/-- **Scan.** With fuel for the results that are left, the loop adds those of the class and stops. -/
theorem scanPositions_eq {f : Frame} {sessionNum : ℤ} {results : List Result}
    (h : HasResults f sessionNum results) (fuel k : Nat) (hk : k ≤ results.length)
    (hfuel : results.length - k < fuel) (scan : ClassScan) :
    scanPositions f sessionNum fuel (k + 1) scan =
      some (scan.addResults f.carIdx ((results.drop k).filter f.isMyClass)) := by
  induction fuel generalizing k scan with
  | zero => omega
  | succ fuel ih =>
    unfold scanPositions
    rcases Nat.eq_or_lt_of_le hk with rfl | hlt
    · rw [h.last]
      simp
    · have hr : results[k]? = some results[k] := List.getElem?_eq_getElem hlt
      obtain ⟨carText, hcar, hcarIdx⟩ := Option.map_eq_some_iff.mp (h.carIdx k _ hr)
      obtain ⟨positionText, hposition, hclassPosition⟩ :=
        Option.map_eq_some_iff.mp (h.classPosition k _ hr)
      have hnext : ((k : ℤ) + 1) + 1 = ((k + 1 : ℕ) : ℤ) + 1 := by push_cast; ring
      rw [hcar, List.drop_eq_getElem_cons hlt, List.filter_cons]
      simp only [hcarIdx, hposition, hclassPosition, hnext]
      split
      · rename_i hclass
        rw [ih (k + 1) (by omega) (by omega), if_pos (by simpa [Frame.isMyClass] using hclass)]
        rfl
      · rename_i hclass
        rw [ih (k + 1) (by omega) (by omega), if_neg (by simpa [Frame.isMyClass] using hclass)]

/-! ## The cars next to the player -/

/-- The first car of the class whose class position is the player's one moved by the offset. -/
def IsNext (f : Frame) (results : List Result) (offset : ℤ) (r : Result) : Prop :=
  ∃ me ∈ results, me.carIdx = f.carIdx ∧
    firstOfClass f results (me.classPosition + offset) = some r

def nextCar (f : Frame) (results : List Result) (offset : ℤ) : Option Result :=
  (results.find? fun r => decide (r.carIdx = f.carIdx)).bind fun me =>
    if me.classPosition + offset ≥ 0 then firstOfClass f results (me.classPosition + offset) else none

theorem firstOfClass_spec {f : Frame} {results : List Result} {classPosition : ℤ} {r : Result}
    (h : firstOfClass f results classPosition = some r) :
    r ∈ results ∧ r.classPosition = classPosition := by
  refine ⟨List.mem_of_find?_eq_some h, ?_⟩
  have hfound := List.find?_some h
  rw [decide_eq_true_eq] at hfound
  exact hfound.2

theorem find_addResults (f : Frame) (results : List Result) (offset : ℤ) :
    (({} : ClassScan).addResults f.carIdx (results.filter f.isMyClass)).find offset =
      (nextCar f results offset).map fun r => (r.carIdx, r.classPosition) := by
  -- The player's car is of the player's class.
  have hplayer : ((results.filter f.isMyClass).find? fun r => decide (r.carIdx = f.carIdx)) =
      results.find? fun r => decide (r.carIdx = f.carIdx) := by
    rw [List.find?_filter]
    congr 1
    funext r
    by_cases hcar : r.carIdx = f.carIdx
    · simp [Frame.isMyClass, hcar]
    · simp [hcar]
  have hclass (position : ℤ) :
      ((results.filter f.isMyClass).find? fun r => decide (r.classPosition = position)) =
        firstOfClass f results position := by
    rw [List.find?_filter, firstOfClass]
    simp only [decide_eq_true_eq]
  unfold ClassScan.find nextCar
  simp only [ClassScan.myPosition_addResults, ClassScan.lookup_addResults, hplayer, hclass,
    List.lookup_nil, Option.none_or, Option.bind_eq_bind, Option.pure_def]
  cases results.find? fun r => decide (r.carIdx = f.carIdx) with
  | none => rfl
  | some me =>
    simp only [Option.map_some, Option.bind_some]
    split
    · cases hfirst : firstOfClass f results (me.classPosition + offset) with
      | none => rfl
      | some r => simp [(firstOfClass_spec hfirst).2]
    · rfl

section

variable {f : Frame} {sessionNum : ℤ} {results : List Result} (h : HasResults f sessionNum results)

include h

theorem HasResults.eq_of_carIdx {r r' : Result} (hr : r ∈ results) (hr' : r' ∈ results)
    (heq : r.carIdx = r'.carIdx) : r = r' :=
  List.inj_on_of_nodup_map h.distinct hr hr' heq

theorem HasResults.find?_eq_some_iff (carIdx : ℤ) (r : Result) :
    results.find? (fun r => decide (r.carIdx = carIdx)) = some r ↔ r ∈ results ∧ r.carIdx = carIdx := by
  have hspec {r' : Result} (hfind : results.find? (fun r => decide (r.carIdx = carIdx)) = some r') :
      r' ∈ results ∧ r'.carIdx = carIdx :=
    ⟨List.mem_of_find?_eq_some hfind, by simpa using List.find?_some hfind⟩
  constructor
  · exact hspec
  · rintro ⟨hmem, hcar⟩
    cases hfind : results.find? fun r => decide (r.carIdx = carIdx) with
    | none => exact absurd hcar (by simpa using List.find?_eq_none.mp hfind r hmem)
    | some r' =>
      obtain ⟨hmem', hcar'⟩ := hspec hfind
      rw [h.eq_of_carIdx hmem' hmem (hcar'.trans hcar.symm)]

theorem nextCar_eq_some_iff (offset : ℤ) (r : Result) :
    nextCar f results offset = some r ↔ 0 ≤ r.classPosition ∧ IsNext f results offset r := by
  unfold nextCar IsNext
  simp only [Option.bind_eq_some_iff, h.find?_eq_some_iff, Option.ite_none_right_eq_some]
  constructor
  · rintro ⟨me, ⟨hmem, hme⟩, hnonneg, hfirst⟩
    rw [(firstOfClass_spec hfirst).2]
    exact ⟨hnonneg, me, hmem, hme, hfirst⟩
  · rintro ⟨hnonneg, me, hmem, hme, hfirst⟩
    rw [(firstOfClass_spec hfirst).2] at hnonneg
    exact ⟨me, ⟨hmem, hme⟩, hnonneg, hfirst⟩

/-- Cars at different offsets are different. The player is at the offset 0. -/
theorem carIdx_ne_of_isNext {offset offset' : ℤ} (hne : offset ≠ offset') {r r' : Result}
    (hr : IsNext f results offset r) (hr' : IsNext f results offset' r') : r.carIdx ≠ r'.carIdx := by
  obtain ⟨me, hmem, hme, hfirst⟩ := hr
  obtain ⟨me', hmem', hme', hfirst'⟩ := hr'
  intro heq
  have hsame := h.eq_of_carIdx (firstOfClass_spec hfirst).1 (firstOfClass_spec hfirst').1 heq
  have hposition := (firstOfClass_spec hfirst).2
  have hposition' := (firstOfClass_spec hfirst').2
  rw [h.eq_of_carIdx hmem hmem' (hme.trans hme'.symm)] at hposition
  rw [hsame] at hposition
  omega

theorem carIdx_ne_player {offset : ℤ} (hne : offset ≠ 0) {r : Result}
    (hr : IsNext f results offset r) : r.carIdx ≠ f.carIdx := by
  obtain ⟨me, hmem, hme, hfirst⟩ := hr
  obtain ⟨hr, hposition⟩ := firstOfClass_spec hfirst
  intro heq
  rw [h.eq_of_carIdx hr hmem (heq.trans hme.symm)] at hposition
  omega

end

/-! ## The items of the arrays -/

def elementAt {α : Type*} (xs : List α) (carIdx : ℤ) : Option α :=
  if 0 ≤ carIdx then xs[carIdx.toNat]? else none

theorem elementAt_map {α β : Type*} (g : α → β) (xs : List α) (carIdx : ℤ) :
    elementAt (xs.map g) carIdx = (elementAt xs carIdx).map g := by
  unfold elementAt
  split
  · exact List.getElem?_map
  · rfl

/-- The count of the loop starts at 0, so the item is the one at the index. -/
theorem itemAt_eq (carIdx count : ℤ) (items : List Str) :
    itemAt carIdx count items = elementAt items (carIdx - count) := by
  induction items generalizing count with
  | nil => simp [itemAt, elementAt]
  | cons item items ih =>
    rw [itemAt]
    split
    · rename_i heq
      simp [elementAt, heq]
    · rename_i hne
      rw [ih, elementAt, elementAt]
      split
      · have hpos : (carIdx - count).toNat = (carIdx - (count + 1)).toNat + 1 := by omega
        rw [if_pos (by omega), hpos, List.getElem?_cons_succ]
      · rw [if_neg (by omega)]

theorem mem_intercalate_comma {c : Char} {texts : List Str} (h : c ∈ [','].intercalate texts) :
    c = ',' ∨ ∃ text ∈ texts, c ∈ text := by
  induction texts with
  | nil => simp at h
  | cons text texts ih =>
    cases texts with
    | nil => exact .inr ⟨text, by simp, by simpa using h⟩
    | cons next texts =>
      have hjoin : [','].intercalate (text :: next :: texts) =
          text ++ ',' :: [','].intercalate (next :: texts) := by simp
      rw [hjoin, List.mem_append, List.mem_cons] at h
      rcases h with htext | rfl | hrest
      · exact .inr ⟨text, by simp, htext⟩
      · exact .inl rfl
      · rcases ih hrest with hcomma | ⟨t, ht, hc⟩
        · exact .inl hcomma
        · exact .inr ⟨t, by simp [List.mem_cons.mp ht], hc⟩

/-- A text without white space is read as a whole. -/
theorem readWord_of_forall (s : Str) (h : ∀ c ∈ s, isspace c = false) : readWord s = s := by
  rw [readWord, ltrim_of_forall s h, List.takeWhile_eq_self_iff]
  intro c hc
  rw [h c hc]
  rfl

/-- **Element.** What is read of a rendered array for a car is the item at its index. -/
theorem carValue_rendered {α T : Type*} [Zero T] [LE T] [DecidableLE T] (read : Str → T)
    (print : α → Str) (hprint : ∀ x, print x ≠ [] ∧ ∀ c ∈ print x, NumberChar c) {m : StrMap}
    {varName : String} {items : List α}
    (hfind : m.find varName.toList = some ([','].intercalate (items.map print))) (carIdx : ℤ) :
    carValue read (readTextFromMap m varName) carIdx =
      ((elementAt items carIdx).map fun x => read (print x)).filter (0 ≤ ·) := by
  have hspace : ∀ c ∈ [','].intercalate (items.map print), isspace c = false := by
    intro c hc
    rcases mem_intercalate_comma hc with rfl | ⟨text, htext, hc⟩
    · decide
    · obtain ⟨x, -, rfl⟩ := List.mem_map.mp htext
      exact isspace_eq_false_of_numberChar c ((hprint x).2 c hc)
  have hitems : getitems ',' ([','].intercalate (items.map print)) = items.map print := by
    apply getitems_intercalate
    intro text htext
    obtain ⟨x, -, rfl⟩ := List.mem_map.mp htext
    exact ⟨fun hcomma => absurd ((hprint x).2 ',' hcomma) (by decide), (hprint x).1⟩
  rw [carValue, readTextFromMap, hfind, Option.map_some, Option.getD_some,
    readWord_of_forall _ hspace, hitems, itemAt_eq, sub_zero, elementAt_map, Option.map_map]
  rfl

/-! ## Intervals -/

variable {K : Type*} [Field K] [LinearOrder K] [FloorRing K]

/-- What is read of the text of a value. -/
def rendered (v : K) : K := roundSix (roundPlaces precision v)

/-- Both elements at the index of the car are there and not negative, and the distance to the car is
not negative either. -/
def InOrder (laps : List ℤ) (pcts : List K) (gap : K → K) (carIdx : ℤ) (delta : K) : Prop :=
  ∃ lap pct, elementAt laps carIdx = some lap ∧ elementAt pcts carIdx = some pct ∧
    0 ≤ lap ∧ 0 ≤ rendered pct ∧ delta = gap (lap + rendered pct) ∧ 0 ≤ delta

/-- The values of a car that is reported. -/
structure ReportsCar (f : Frame) (estLapTime : K) (laps : List ℤ) (pcts : List K) (gap : K → K)
    (r : Result) (car : CarAround K) : Prop where
  pos : car.pos = r.classPosition + 1
  carNumber : car.carNumber = ((f.driver r.carIdx "CarNumber:").map stripQuotes).getD []
  initials : car.initials = (f.driver r.carIdx "Initials:").getD []
  interval : ∀ delta, InOrder laps pcts gap r.carIdx delta →
    car.intervalSec = delta * estLapTime ∧ 0 ≤ car.intervalSec
  unknown : (∀ delta, ¬ InOrder laps pcts gap r.carIdx delta) → car.intervalSec = -1

def Reports (f : Frame) (estLapTime : K) (laps : List ℤ) (pcts : List K) (gap : K → K) :
    Option Result → CarAround K → Prop
  | none, car => car = {}
  | some r, car => ReportsCar f estLapTime laps pcts gap r car

section

variable {m : StrMap} {laps : List ℤ} {pcts : List K}
  (hlaps : m.find "CarIdxLap".toList = some ((VarData.int laps : VarData K).text .exact precision))
  (hpcts : m.find "CarIdxLapDistPct".toList = some ((VarData.float pcts).text .exact precision))

include hlaps hpcts

theorem totalDistLaps_eq_some_iff (carIdx : ℤ) (total : K) :
    totalDistLaps m carIdx = some total ↔
      ∃ lap pct, elementAt laps carIdx = some lap ∧ elementAt pcts carIdx = some pct ∧
        0 ≤ lap ∧ 0 ≤ rendered pct ∧ total = lap + rendered pct := by
  have hlap := carValue_rendered atoi printInt (fun n => ⟨printInt_ne_nil n, printInt_chars n⟩)
    hlaps carIdx
  have hpct := carValue_rendered (parseFloat : Str → K) (fun v : K => printNumber (roundPlaces precision v))
    (fun v => ⟨printNumber_ne_nil _, printNumber_chars _⟩) hpcts carIdx
  simp only [atoi_printInt, Option.map_id'] at hlap
  simp only [parseFloat_printNumber] at hpct
  have hboth : totalDistLaps m carIdx = some total ↔
      ∃ lap, carValue atoi (readTextFromMap m "CarIdxLap") carIdx = some lap ∧
        ∃ pct, carValue parseFloat (readTextFromMap m "CarIdxLapDistPct") carIdx = some pct ∧
          (lap : K) + pct = total := by
    unfold totalDistLaps
    dsimp only
    cases carValue atoi (readTextFromMap m "CarIdxLap") carIdx with
    | none => simp
    | some lap =>
      cases (carValue parseFloat (readTextFromMap m "CarIdxLapDistPct") carIdx : Option K) with
      | none => simp
      | some pct => simp
  rw [hboth, hlap, hpct]
  simp only [Option.filter_eq_some_iff, Option.map_eq_some_iff, decide_eq_true_eq]
  constructor
  · rintro ⟨lap, ⟨hlapAt, hlapNonneg⟩, -, ⟨⟨pct, hpctAt, rfl⟩, hpctNonneg⟩, htotal⟩
    exact ⟨lap, pct, hlapAt, hpctAt, hlapNonneg, hpctNonneg, htotal.symm⟩
  · rintro ⟨lap, pct, hlapAt, hpctAt, hlapNonneg, hpctNonneg, htotal⟩
    exact ⟨lap, ⟨hlapAt, hlapNonneg⟩, _, ⟨⟨pct, hpctAt, rfl⟩, hpctNonneg⟩, htotal.symm⟩

theorem bind_deltaTo_eq_some_iff {gap : K → K} {deltaTo : K → Option K}
    (hdelta : ∀ total, deltaTo total = if 0 ≤ gap total then some (gap total) else none) (carIdx : ℤ)
    (delta : K) :
    (totalDistLaps m carIdx).bind deltaTo = some delta ↔ InOrder laps pcts gap carIdx delta := by
  rw [Option.bind_eq_some_iff]
  simp only [hdelta, Option.ite_none_right_eq_some, Option.some.injEq,
    totalDistLaps_eq_some_iff hlaps hpcts]
  constructor
  · rintro ⟨total, ⟨lap, pct, hlap, hpct, hlapNonneg, hpctNonneg, rfl⟩, hgap, rfl⟩
    exact ⟨lap, pct, hlap, hpct, hlapNonneg, hpctNonneg, rfl, hgap⟩
  · rintro ⟨lap, pct, hlap, hpct, hlapNonneg, hpctNonneg, rfl, hgap⟩
    exact ⟨_, ⟨lap, pct, hlap, hpct, hlapNonneg, hpctNonneg, rfl⟩, hgap, rfl⟩

variable [IsStrictOrderedRing K]

theorem reports_find (f : Frame) {estLapTime : K} (hest : 0 < estLapTime) {gap : K → K}
    {deltaTo : K → Option K}
    (hdelta : ∀ total, deltaTo total = if 0 ≤ gap total then some (gap total) else none)
    {scan : ClassScan} {offset : ℤ} {next : Option Result}
    (hnext : scan.find offset = next.map fun r => (r.carIdx, r.classPosition)) :
    Reports f estLapTime laps pcts gap next (CarAround.find f m estLapTime scan offset deltaTo {}) := by
  have hiff := bind_deltaTo_eq_some_iff hlaps hpcts hdelta
  unfold CarAround.find
  rw [hnext]
  cases next with
  | none => rfl
  | some r =>
    simp only [Option.map_some]
    split
    · rename_i delta hfound
      have horder := (hiff r.carIdx delta).mp hfound
      refine ⟨rfl, rfl, rfl, ?_, fun hnone => absurd horder (hnone delta)⟩
      intro delta' horder'
      have hsame : delta' = delta := by
        have hfound' := (hiff r.carIdx delta').mpr horder'
        rw [hfound] at hfound'
        exact (Option.some.inj hfound').symm
      subst hsame
      obtain ⟨-, -, -, -, -, -, -, hnonneg⟩ := horder
      exact ⟨rfl, mul_nonneg hnonneg hest.le⟩
    · rename_i hmissing
      refine ⟨rfl, rfl, rfl, ?_, fun _ => rfl⟩
      intro delta horder
      have hfound := (hiff r.carIdx delta).mpr horder
      rw [hmissing] at hfound
      contradiction

end

/-! ## The two cars -/

/-- The car that is reported at an offset. Without a car of his own the player has none. -/
def reportedCar (f : Frame) (results : List Result) (offset : ℤ) : Option Result :=
  if f.carIdx < 0 then none else nextCar f results offset

theorem mem_reportedCar_iff {f : Frame} {sessionNum : ℤ} {results : List Result}
    (h : HasResults f sessionNum results) (offset : ℤ) (r : Result) :
    r ∈ reportedCar f results offset ↔
      0 ≤ f.carIdx ∧ 0 ≤ r.classPosition ∧ IsNext f results offset r := by
  unfold reportedCar
  split
  · rename_i hcar
    have hnot : ¬ 0 ≤ f.carIdx := by omega
    simp [hnot]
  · rename_i hcar
    rw [Option.mem_def, nextCar_eq_some_iff h]
    exact ⟨fun hnext => ⟨by omega, hnext⟩, And.right⟩

theorem reportedCar_distinct {f : Frame} {sessionNum : ℤ} {results : List Result}
    (h : HasResults f sessionNum results) :
    (∀ r ∈ reportedCar f results (-1), r.carIdx ≠ f.carIdx) ∧
    (∀ r ∈ reportedCar f results 1, r.carIdx ≠ f.carIdx) ∧
    ∀ r ∈ reportedCar f results (-1), ∀ r' ∈ reportedCar f results 1, r.carIdx ≠ r'.carIdx := by
  have hnext (offset : ℤ) (r : Result) (hr : r ∈ reportedCar f results offset) :
      IsNext f results offset r := ((mem_reportedCar_iff h offset r).mp hr).2.2
  refine ⟨?_, ?_, ?_⟩
  · intro r hr
    exact carIdx_ne_player h (by omega) (hnext _ r hr)
  · intro r hr
    exact carIdx_ne_player h (by omega) (hnext _ r hr)
  · intro r hr r' hr'
    exact carIdx_ne_of_isNext h (by omega) (hnext _ r hr) (hnext _ r' hr')

omit [FloorRing K] in
theorem getDataFromSessionInfo_eq {f : Frame} {sessionNum : ℤ} {results : List Result}
    (h : HasResults f sessionNum results) (m : StrMap) (estLapTime : K) {fuel : Nat}
    (hfuel : results.length < fuel) (hcar : 0 ≤ f.carIdx) (cars : CarsAround K) :
    getDataFromSessionInfo f m sessionNum estLapTime fuel cars =
      let scan := ({} : ClassScan).addResults f.carIdx (results.filter f.isMyClass)
      some { ahead := carAhead f m estLapTime scan cars.ahead
             behind := carBehind f m estLapTime scan cars.behind } := by
  have hscan := scanPositions_eq h fuel 0 (Nat.zero_le _) (by omega) {}
  rw [Nat.cast_zero, zero_add, List.drop_zero] at hscan
  rw [getDataFromSessionInfo, if_neg (by omega), hscan]
  rfl

variable [IsStrictOrderedRing K]

theorem exists_reports (f : Frame) {m : StrMap} {sessionNum : ℤ} {estLapTime : K}
    {results : List Result} {laps : List ℤ} {pcts : List K} (hest : 0 < estLapTime)
    (h : HasResults f sessionNum results)
    (hlaps : m.find "CarIdxLap".toList = some ((VarData.int laps : VarData K).text .exact precision))
    (hpcts : m.find "CarIdxLapDistPct".toList = some ((VarData.float pcts).text .exact precision)) :
    ∃ cars : CarsAround K,
      (∀ fuel, results.length < fuel →
        getDataFromSessionInfo f m sessionNum estLapTime fuel {} = some cars) ∧
      Reports f estLapTime laps pcts (fun total => total - myTotalDistLaps m)
        (reportedCar f results (-1)) cars.ahead ∧
      Reports f estLapTime laps pcts (fun total => myTotalDistLaps m - total)
        (reportedCar f results 1) cars.behind := by
  by_cases hcar : f.carIdx < 0
  · have hnone (offset : ℤ) : reportedCar f results offset = none := if_pos hcar
    rw [hnone, hnone]
    exact ⟨{}, fun fuel _ => if_pos hcar, rfl, rfl⟩
  · have hfind (offset : ℤ) :
        (({} : ClassScan).addResults f.carIdx (results.filter f.isMyClass)).find offset =
          (reportedCar f results offset).map fun r => (r.carIdx, r.classPosition) := by
      rw [reportedCar, if_neg hcar]
      exact find_addResults f results offset
    refine ⟨_, fun fuel hfuel => getDataFromSessionInfo_eq h m estLapTime hfuel (by omega) {}, ?_, ?_⟩
    · apply reports_find hlaps hpcts f hest _ (hfind (-1))
      intro total
      simp only [sub_nonneg]
    · apply reports_find hlaps hpcts f hest _ (hfind 1)
      intro total
      simp only [sub_nonneg]

/-- **Cars ahead and behind.** The cars that are reported are the first of the class next to the
player, and an interval is the distance of a car that is in order times the estimate for a lap. -/
theorem cars_around_correct (f : Frame) (m : StrMap) (sessionNum : ℤ) (estLapTime : K)
    (results : List Result) (laps : List ℤ) (pcts : List K) (hest : 0 < estLapTime)
    (h : HasResults f sessionNum results)
    (hlaps : m.find "CarIdxLap".toList = some ((VarData.int laps : VarData K).text .exact precision))
    (hpcts : m.find "CarIdxLapDistPct".toList = some ((VarData.float pcts).text .exact precision)) :
    ∃ (cars : CarsAround K) (ahead behind : Option Result),
      (∀ fuel, results.length < fuel →
        getDataFromSessionInfo f m sessionNum estLapTime fuel {} = some cars) ∧
      (∀ r, r ∈ ahead ↔ 0 ≤ f.carIdx ∧ 0 ≤ r.classPosition ∧ IsNext f results (-1) r) ∧
      (∀ r, r ∈ behind ↔ 0 ≤ f.carIdx ∧ 0 ≤ r.classPosition ∧ IsNext f results 1 r) ∧
      (∀ r ∈ ahead, r.carIdx ≠ f.carIdx) ∧ (∀ r ∈ behind, r.carIdx ≠ f.carIdx) ∧
      (∀ r ∈ ahead, ∀ r' ∈ behind, r.carIdx ≠ r'.carIdx) ∧
      Reports f estLapTime laps pcts (fun total => total - myTotalDistLaps m) ahead cars.ahead ∧
      Reports f estLapTime laps pcts (fun total => myTotalDistLaps m - total) behind cars.behind := by
  obtain ⟨cars, hcars, hreports⟩ := exists_reports f hest h hlaps hpcts
  obtain ⟨hahead, hbehind, hboth⟩ := reportedCar_distinct h
  exact ⟨cars, reportedCar f results (-1), reportedCar f results 1, hcars, mem_reportedCar_iff h (-1),
    mem_reportedCar_iff h 1, hahead, hbehind, hboth, hreports⟩

/-! ## A grid of two classes -/

def gridPaths : List (String × String) :=
  [("DriverInfo:DriverCarIdx:", "0"),
   ("DriverInfo:Drivers:CarIdx:{0}CarClassShortName:", "GT3"),
   ("DriverInfo:Drivers:CarIdx:{1}CarClassShortName:", "GT4"),
   ("DriverInfo:Drivers:CarIdx:{2}CarClassShortName:", "GT3"),
   ("SessionInfo:Sessions:SessionNum:{1}ResultsPositions:Position:{1}CarIdx:", "2"),
   ("SessionInfo:Sessions:SessionNum:{1}ResultsPositions:Position:{1}ClassPosition:", "0"),
   ("SessionInfo:Sessions:SessionNum:{1}ResultsPositions:Position:{2}CarIdx:", "1"),
   ("SessionInfo:Sessions:SessionNum:{1}ResultsPositions:Position:{2}ClassPosition:", "0"),
   ("SessionInfo:Sessions:SessionNum:{1}ResultsPositions:Position:{3}CarIdx:", "0"),
   ("SessionInfo:Sessions:SessionNum:{1}ResultsPositions:Position:{3}ClassPosition:", "1")]

def gridVars : List (Var ℚ) :=
  [⟨"Lap", .int [4]⟩, ⟨"LapDistPct", .float [1 / 4]⟩, ⟨"CarIdxLap", .int [4, 4, 4, -1]⟩,
   ⟨"CarIdxLapDistPct", .float [1 / 4, 7 / 8, 3 / 4, -1]⟩]

def gridFrame : Frame where
  bufLen := 1
  parseYaml path := (gridPaths.lookup (String.ofList path)).map String.toList
  dataMap := varsDataMap .exact gridVars
  fuelMessage := []
  status := {}

def gridResults : List Result := [⟨2, 0⟩, ⟨1, 0⟩, ⟨0, 1⟩]

theorem hasResults_grid : HasResults gridFrame 1 gridResults where
  carIdx := by
    rintro (_ | _ | _ | i) r hr
    · cases hr
      decide +kernel
    · cases hr
      decide +kernel
    · cases hr
      decide +kernel
    · cases hr
  classPosition := by
    rintro (_ | _ | _ | i) r hr
    · cases hr
      decide +kernel
    · cases hr
      decide +kernel
    · cases hr
      decide +kernel
    · cases hr
  last := by decide +kernel
  distinct := by decide

/-- The car ahead is half a lap away. -/
theorem cars_around_grid :
    ∃ cars : CarsAround ℚ,
      getDataFromSessionInfo gridFrame (varsDataMap .exact gridVars) 1 90 4 {} = some cars ∧
        cars.ahead.pos = 1 ∧ cars.ahead.intervalSec = 45 := by
  have hlaps : (varsDataMap .exact gridVars).find "CarIdxLap".toList =
      some ((VarData.int [4, 4, 4, -1] : VarData ℚ).text .exact precision) := by
    rw [find_varsDataMap]
    rfl
  have hpcts : (varsDataMap .exact gridVars).find "CarIdxLapDistPct".toList =
      some ((VarData.float [1 / 4, 7 / 8, 3 / 4, -1] : VarData ℚ).text .exact precision) := by
    rw [find_varsDataMap]
    rfl
  obtain ⟨cars, ahead, -, hcars, hahead, -, -, -, -, hreports, -⟩ :=
    cars_around_correct gridFrame (varsDataMap .exact gridVars) 1 90 gridResults _ _ (by norm_num)
      hasResults_grid hlaps hpcts
  have hnext : IsNext gridFrame gridResults (-1) ⟨2, 0⟩ :=
    ⟨⟨0, 1⟩, by decide, by decide +kernel, by decide +kernel⟩
  have hsome : ahead = some ⟨2, 0⟩ := (hahead ⟨2, 0⟩).mpr ⟨by decide +kernel, by decide, hnext⟩
  subst hsome
  refine ⟨cars, hcars 4 (by decide), hreports.pos, ?_⟩
  have horder := hreports.interval (1 / 2)
    ⟨4, 3 / 4, rfl, rfl, by decide, by decide +kernel, by decide +kernel, by norm_num⟩
  rw [horder.1]
  norm_num

end IrPitCrew.Plugin
