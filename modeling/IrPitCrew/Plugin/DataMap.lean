import IrPitCrew.Lib.Binary
import IrPitCrew.Server.WebServer

/-!
# The data map of one tick

The variables of the simulator come first, as text. The plugin reads some of
them back and adds its own values. An added value never replaces one.
-/

open IrPitCrew.Text IrPitCrew.Decimal IrPitCrew.Rounding IrPitCrew.Binary IrPitCrew.WebServer

namespace IrPitCrew.Plugin

/-! ## Inserting an entry -/

def insertEntry (varName varData : Str) : List (Str × Str) → List (Str × Str)
  | [] => [(varName, varData)]
  | (name, data) :: es =>
    if varName < name then (varName, varData) :: (name, data) :: es
    else if varName = name then (name, data) :: es
    else (name, data) :: insertEntry varName varData es

theorem mem_insertEntry {varName varData : Str} {p : Str × Str} (es : List (Str × Str))
    (h : p ∈ insertEntry varName varData es) : p = (varName, varData) ∨ p ∈ es := by
  induction es with
  | nil => simpa [insertEntry] using h
  | cons q es ih =>
    obtain ⟨name, data⟩ := q
    unfold insertEntry at h
    split at h
    · simpa using h
    split at h
    · exact .inr h
    · rcases List.mem_cons.mp h with h | h
      · exact .inr (by simp [h])
      · exact (ih h).imp_right (List.mem_cons_of_mem _)

theorem mem_insertEntry_of_mem {varName varData : Str} {p : Str × Str} (es : List (Str × Str))
    (h : p ∈ es) : p ∈ insertEntry varName varData es := by
  induction es with
  | nil => simp at h
  | cons q es ih =>
    obtain ⟨name, data⟩ := q
    unfold insertEntry
    split
    · exact List.mem_cons_of_mem _ h
    split
    · exact h
    · rcases List.mem_cons.mp h with rfl | h
      · simp
      · exact List.mem_cons_of_mem _ (ih h)

theorem key_mem_insertEntry {varName varData k : Str} (es : List (Str × Str))
    (h : k ∈ (insertEntry varName varData es).map Prod.fst) :
    k = varName ∨ k ∈ es.map Prod.fst := by
  obtain ⟨p, hp, rfl⟩ := List.mem_map.mp h
  rcases mem_insertEntry es hp with rfl | hp
  · exact .inl rfl
  · exact .inr (List.mem_map_of_mem hp)

theorem sorted_insertEntry (varName varData : Str) (es : List (Str × Str))
    (h : (es.map Prod.fst).Pairwise (· < ·)) :
    ((insertEntry varName varData es).map Prod.fst).Pairwise (· < ·) := by
  induction es with
  | nil => simp [insertEntry]
  | cons p es ih =>
    obtain ⟨name, data⟩ := p
    obtain ⟨hname, hes⟩ := List.pairwise_cons.mp h
    unfold insertEntry
    split
    · rename_i hlt
      refine List.pairwise_cons.mpr ⟨fun k hk => ?_, h⟩
      rcases List.mem_cons.mp hk with rfl | hk
      · exact hlt
      · exact List.lt_trans hlt (hname k hk)
    rename_i hnlt
    split
    · exact h
    · rename_i hne
      refine List.pairwise_cons.mpr ⟨fun k hk => ?_, ih hes⟩
      rcases key_mem_insertEntry es hk with rfl | hk
      · exact (List.le_iff_lt_or_eq.mp (List.not_lt.mp hnlt)).resolve_right (Ne.symm hne)
      · exact hname k hk

theorem lookup_insertEntry_self {varName : Str} (varData : Str) (es : List (Str × Str))
    (h : es.lookup varName = none) : (insertEntry varName varData es).lookup varName = some varData := by
  induction es with
  | nil => simp [insertEntry]
  | cons p es ih =>
    obtain ⟨name, data⟩ := p
    rw [List.lookup_cons] at h
    have hne : (varName == name) = false := by
      by_contra hbeq
      rw [Bool.not_eq_false] at hbeq
      rw [hbeq] at h
      simp at h
    rw [hne] at h
    unfold insertEntry
    split
    · simp
    · rw [if_neg (by simpa using hne), List.lookup_cons, hne]
      exact ih h

theorem lookup_insertEntry_of_ne {varName k : Str} (varData : Str) (es : List (Str × Str))
    (h : k ≠ varName) : (insertEntry varName varData es).lookup k = es.lookup k := by
  have hne : (k == varName) = false := by simpa using h
  induction es with
  | nil => simp [insertEntry, List.lookup_cons, hne]
  | cons p es ih =>
    obtain ⟨name, data⟩ := p
    unfold insertEntry
    split
    · rw [List.lookup_cons, hne]
    · split
      · rfl
      · rw [List.lookup_cons, List.lookup_cons, ih]

/-- `strDataMap.insert`. -/
def addStringDataVarToMap (strDataMap : StrMap) (varName : String) (varDataStr : Str) : StrMap where
  entries := insertEntry varName.toList varDataStr strDataMap.entries
  sorted := sorted_insertEntry _ _ _ strDataMap.sorted

theorem find_addStringDataVarToMap_self (m : StrMap) (varName : String) (varDataStr : Str)
    (h : m.find varName.toList = none) :
    (addStringDataVarToMap m varName varDataStr).find varName.toList = some varDataStr :=
  lookup_insertEntry_self varDataStr m.entries h

theorem find_addStringDataVarToMap_of_ne (m : StrMap) {varName : String} {k : Str} (varDataStr : Str)
    (h : k ≠ varName.toList) : (addStringDataVarToMap m varName varDataStr).find k = m.find k :=
  lookup_insertEntry_of_ne varDataStr m.entries h

theorem find_addStringDataVarToMap_of_some (m : StrMap) (varName : String) (varDataStr : Str)
    {k data : Str} (h : m.find k = some data) :
    (addStringDataVarToMap m varName varDataStr).find k = some data := by
  rw [StrMap.find_eq_some_iff] at h ⊢
  exact mem_insertEntry_of_mem _ h

/-! ## Numbers in the map -/

/-- The text of the variable, read by `stream >>`. The variables that are read are in the map: the
assertions that follow the calls say so. Without one the value stays 0. -/
def readDataVarFromMap {T : Type*} [Zero T] (read : Str → T) (strDataMap : StrMap)
    (varName : String) : T :=
  ((strDataMap.find varName.toList).map read).getD 0

variable {K : Type*} [Field K] [LinearOrder K] [FloorRing K]

/-- Three steps, each rounded to the type of the value. -/
def roundToPrecision (round : K → K) (precision : Nat) (value : K) : K :=
  round (round (roundHalfAway (round (value * 10 ^ precision))) / 10 ^ precision)

def dataVarText (a : Arith K) (varData : K) (precision : Nat) : Str :=
  printNumber (roundToPrecision a.double precision varData)

def addDataVarToMap (a : Arith K) (strDataMap : StrMap) (varName : String) (varData : K)
    (precision : Nat) : StrMap :=
  addStringDataVarToMap strDataMap varName (dataVarText a varData precision)

end IrPitCrew.Plugin
