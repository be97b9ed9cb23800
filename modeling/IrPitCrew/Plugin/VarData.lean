import IrPitCrew.Plugin.Loop
import Mathlib.Data.Rat.Floor

/-!
# Variables of the simulator as text

Numbers are rounded to three decimals to save bandwidth. The stream that prints
them keeps six digits, so three decimals are left of a number below 1000 and
fewer of a larger one.
-/

open IrPitCrew.Text IrPitCrew.Decimal IrPitCrew.Rounding IrPitCrew.Binary IrPitCrew.WebServer

namespace IrPitCrew.Plugin

/-- The items at the offset of a variable, as its type reads them. -/
inductive VarData (K : Type*) where
  | char (items : List Char)
  | bool (items : List Bool)
  | int (items : List ℤ)
  | bitField (items : List ℤ)
  | float (items : List K)
  | double (items : List K)

structure Var (K : Type*) where
  name : String
  data : VarData K

variable {K : Type*} [Field K] [LinearOrder K] [FloorRing K]

def VarData.itemTexts (a : Arith K) (precision : Nat) : VarData K → List Str
  | .char items => items.map fun c => [c]
  | .bool items => items.map fun b => if b then ['1'] else ['0']
  | .int items => items.map printInt
  | .bitField items => items.map printInt
  | .float items => items.map fun fValue => printNumber (roundToPrecision a.single precision fValue)
  | .double items => items.map fun dblValue => printNumber (roundToPrecision a.double precision dblValue)

def VarData.text (a : Arith K) (precision : Nat) (data : VarData K) : Str :=
  [','].intercalate (data.itemTexts a precision)

/-- The name and the text of the variable at the index, when there is one. -/
def irsdkGetVarDataLocal (a : Arith K) (vars : List (Var K)) (index precision : Nat) :
    Option (String × Str) :=
  vars[index]?.map fun pVar => (pVar.name, pVar.data.text a precision)

def addVar (a : Arith K) (vars : List (Var K)) (strDataMap : StrMap) (ii : Nat) : StrMap :=
  match irsdkGetVarDataLocal a vars ii precision with
  | some (varName, varDataStr) => addStringDataVarToMap strDataMap varName varDataStr
  | none => strDataMap

/-- The loop over the variables, at the start of a tick. -/
def varsDataMap (a : Arith K) (vars : List (Var K)) : StrMap :=
  (List.range vars.length).foldl (addVar a vars) .empty

/-! ## What the loop leaves in the map -/

theorem addVar_of_getElem (a : Arith K) {vars : List (Var K)} {ii : Nat} {pVar : Var K} (m : StrMap)
    (h : vars[ii]? = some pVar) :
    addVar a vars m ii = addStringDataVarToMap m pVar.name (pVar.data.text a precision) := by
  simp [addVar, irsdkGetVarDataLocal, h]

/-- Of two variables with one name the first stays. -/
theorem find_addVars (a : Arith K) (vars : List (Var K)) (name : String) (n : Nat)
    (h : n ≤ vars.length) :
    ((List.range n).foldl (addVar a vars) .empty).find name.toList =
      ((vars.take n).find? (·.name = name)).map fun pVar => pVar.data.text a precision := by
  induction n with
  | zero => simp
  | succ n ih =>
    obtain ⟨pVar, hpVar⟩ : ∃ pVar, vars[n]? = some pVar := ⟨_, List.getElem?_eq_getElem (by omega)⟩
    have hrec := ih (by omega)
    rw [List.range_succ, List.foldl_append, List.foldl_cons, List.foldl_nil, addVar_of_getElem a _ hpVar,
      List.take_add_one, hpVar, List.find?_append]
    cases hfind : (vars.take n).find? (·.name = name) with
    | some pFirst =>
      rw [hfind] at hrec
      exact find_addStringDataVarToMap_of_some _ _ _ hrec
    | none =>
      rw [hfind] at hrec
      by_cases hname : pVar.name = name
      · subst hname
        simpa using find_addStringDataVarToMap_self _ _ _ hrec
      · have hne : name.toList ≠ pVar.name.toList := fun heq => hname (String.toList_injective heq).symm
        rw [find_addStringDataVarToMap_of_ne _ _ hne, hrec]
        simp [hname]

theorem find_varsDataMap (a : Arith K) (vars : List (Var K)) (name : String) :
    (varsDataMap a vars).find name.toList =
      (vars.find? (·.name = name)).map fun pVar => pVar.data.text a precision := by
  simpa [varsDataMap] using find_addVars a vars name vars.length le_rfl

/-- The number is in the map under the name. A variable holds it as its first item, or the plugin
added it. -/
inductive Put (name : String) (v : K) : StrMap → Prop
  | float {vars : List (Var K)} (items : List K)
      (h : vars.find? (·.name = name) = some ⟨name, .float (v :: items)⟩) :
      Put name v (varsDataMap .exact vars)
  | double {vars : List (Var K)} (items : List K)
      (h : vars.find? (·.name = name) = some ⟨name, .double (v :: items)⟩) :
      Put name v (varsDataMap .exact vars)
  | computed (m : StrMap) (h : m.find name.toList = none) :
    Put name v (addDataVarToMap .exact m name v precision)
  | later {m : StrMap} (varName : String) (varDataStr : Str) (h : Put name v m) :
      Put name v (addStringDataVarToMap m varName varDataStr)

theorem intercalate_comma_cons (text : Str) (texts : List Str) :
    ∃ tail, NumberEnd "eE".toList tail ∧ [','].intercalate (text :: texts) = text ++ tail := by
  cases texts with
  | nil => exact ⟨[], numberEnd_nil _, by simp⟩
  | cons t ts =>
    refine ⟨',' :: [','].intercalate (t :: ts), ?_, by simp⟩
    simp [NumberEnd]

theorem Put.find {name : String} {v : K} {m : StrMap} (h : Put name v m) :
    ∃ tail, NumberEnd "eE".toList tail ∧
      m.find name.toList = some (printNumber (roundPlaces precision v) ++ tail) := by
  induction h with
  | float items hfind =>
    obtain ⟨tail, hend, htail⟩ := intercalate_comma_cons (printNumber (roundPlaces precision v))
      (items.map fun fValue => printNumber (roundPlaces precision fValue))
    refine ⟨tail, hend, ?_⟩
    rw [find_varsDataMap, hfind, Option.map_some, ← htail]
    rfl
  | double items hfind =>
    obtain ⟨tail, hend, htail⟩ := intercalate_comma_cons (printNumber (roundPlaces precision v))
      (items.map fun dblValue => printNumber (roundPlaces precision dblValue))
    refine ⟨tail, hend, ?_⟩
    rw [find_varsDataMap, hfind, Option.map_some, ← htail]
    rfl
  | computed m hnone =>
    refine ⟨[], numberEnd_nil _, ?_⟩
    rw [List.append_nil]
    exact find_addStringDataVarToMap_self m name _ hnone
  | later varName varDataStr _ ih =>
    obtain ⟨tail, hend, hfind⟩ := ih
    exact ⟨tail, hend, find_addStringDataVarToMap_of_some _ varName varDataStr hfind⟩

/-! ## What is read back -/

/-- The plugin and the client read the number within half a unit of the third decimal. -/
def ReadWithin (m : StrMap) (name : String) (v : K) : Prop :=
  |readDataVarFromMap parseFloat m name - v| ≤ 1 / 2 / 10 ^ 3 ∧
    ∃ text, m.find name.toList = some text ∧ |parseFloat text - v| ≤ 1 / 2 / 10 ^ 3

theorem Put.readWithin_iff {name : String} {v : K} {m : StrMap} (h : Put name v m) :
    ReadWithin m name v ↔ |roundSix (roundPlaces precision v) - v| ≤ 1 / 2 / 10 ^ 3 := by
  obtain ⟨tail, hend, hfind⟩ := h.find
  have hread := parseFloat_printNumber_append (roundPlaces precision v) tail hend
  have hmap : readDataVarFromMap parseFloat m name = roundSix (roundPlaces precision v) := by
    rw [readDataVarFromMap, hfind, Option.map_some, Option.getD_some, hread]
  rw [ReadWithin, hmap]
  constructor
  · exact And.left
  · intro hle
    exact ⟨hle, _, hfind, by rwa [hread]⟩

/-- **Half a thousandth.** A number is read back within half a thousandth exactly when some number of
six digits is that near, as for every number up to 1000. -/
theorem put_readWithin_iff [IsStrictOrderedRing K] {name : String} {v : K} {m : StrMap}
    (h : Put name v m) :
    (ReadWithin m name v ↔ ∃ s : K, SixSig s ∧ |s - v| ≤ 1 / 2 / 10 ^ 3) ∧
      (|v| ≤ 10 ^ 3 → ReadWithin m name v) := by
  have hiff : ReadWithin m name v ↔ ∃ s : K, SixSig s ∧ |s - v| ≤ 1 / 2 / 10 ^ 3 := by
    rw [h.readWithin_iff]
    exact abs_roundSix_roundPlaces_sub_le_iff 3 v
  refine ⟨hiff, fun hv => hiff.mpr ⟨roundPlaces 3 v, sixSig_roundPlaces 3 v ?_, ?_⟩⟩
  · linarith
  · exact abs_roundPlaces_sub_le 3 v

/-! ## Three hours and a half of a session -/

def sessionTime : ℚ := 12345 + 678 / 1000

def sessionVars : List (Var ℚ) := [⟨"FuelLevel", .float [18]⟩, ⟨"SessionTime", .double [sessionTime]⟩]

theorem put_readWithin_fuelLevel : ReadWithin (varsDataMap .exact sessionVars) "FuelLevel" (18 : ℚ) := by
  have hput : Put "FuelLevel" (18 : ℚ) (varsDataMap .exact sessionVars) := .float [] rfl
  exact (put_readWithin_iff hput).2 (by decide +kernel)

theorem sessionTime_read_back :
    Put "SessionTime" sessionTime (varsDataMap .exact sessionVars) ∧
      (varsDataMap .exact sessionVars).find "SessionTime".toList = some "12345.7".toList ∧
      ¬ ReadWithin (varsDataMap .exact sessionVars) "SessionTime" sessionTime := by
  refine ⟨.double [] rfl, by decide +kernel, ?_⟩
  rintro ⟨hread, -⟩
  revert hread
  decide +kernel

end IrPitCrew.Plugin
