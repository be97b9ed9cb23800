import IrPitCrew.Irsdk.MemServer
import Mathlib.Tactic.Ring

/-!
# The registry of the variables

A name keeps its index and its place in the row, for the server and for its
clients, and no two places meet.
-/

open IrPitCrew.Text IrPitCrew.Memory IrPitCrew.Run

namespace IrPitCrew.MemServer

variable {F α V : Type*}

/-! ## Names -/

def VarHeader.isNamed (name : Str) (rec : VarHeader) : Bool := isSameString name rec.name irsdkMaxString

/-- The bytes of a variable in the row. -/
def VarHeader.len (rec : VarHeader) : ℤ := rec.type.bytes * rec.count

theorem isNamed_iff {name : Str} {rec : VarHeader} (hname : name.length < irsdkMaxString)
    (hrec : rec.name.length < irsdkMaxString) : rec.isNamed name = true ↔ name = rec.name := by
  rw [VarHeader.isNamed, isSameString, List.take_of_length_le hname.le, List.take_of_length_le hrec.le,
    decide_eq_true_iff]

theorem copyString_of_lt {s : Str} {size : Nat} (h : s.length < size) : copyString s size = s :=
  List.take_of_length_le (by omega)

theorem nameIndex_eq_iff {name : Str} {headers : List VarHeader} {i : Nat} :
    nameIndex name headers = i ↔ headers.findIdx? (·.isNamed name) = some i := by
  change ((headers.findIdx? (·.isNamed name)).map (↑)).getD (-1 : ℤ) = i ↔ _
  cases headers.findIdx? (·.isNamed name) with
  | none =>
    rw [Option.map_none, Option.getD_none]
    exact ⟨fun h => by omega, fun h => by cases h⟩
  | some j =>
    rw [Option.map_some, Option.getD_some, Option.some.injEq]
    exact Int.ofNat_inj

theorem nameIndex_neg_iff {name : Str} {headers : List VarHeader} :
    nameIndex name headers = -1 ↔ headers.findIdx? (·.isNamed name) = none := by
  change ((headers.findIdx? (·.isNamed name)).map (↑)).getD (-1 : ℤ) = -1 ↔ _
  cases headers.findIdx? (·.isNamed name) with
  | none => exact iff_of_true rfl rfl
  | some j =>
    rw [Option.map_some, Option.getD_some]
    exact ⟨fun h => by omega, fun h => by cases h⟩

/-- A name is found at an index, or not at all. -/
theorem nameIndex_cases (name : Str) (headers : List VarHeader) :
    nameIndex name headers = -1 ∨ ∃ i : Nat, nameIndex name headers = i ∧ i < headers.length := by
  cases hfind : headers.findIdx? (·.isNamed name) with
  | none => exact .inl (nameIndex_neg_iff.mpr hfind)
  | some i =>
    obtain ⟨hi, -⟩ := List.findIdx?_eq_some_iff_getElem.mp hfind
    exact .inr ⟨i, nameIndex_eq_iff.mpr hfind, hi⟩

/-- Later variables do not change what is found. -/
theorem nameIndex_of_isPrefix {name : Str} {headers later : List VarHeader} {i : Nat}
    (h : headers <+: later) (hi : nameIndex name headers = i) : nameIndex name later = i :=
  nameIndex_eq_iff.mpr (h.findIdx?_eq_some (nameIndex_eq_iff.mp hi))

theorem nameIndex_concat {name : Str} {headers : List VarHeader} {rec : VarHeader}
    (h : nameIndex name headers = -1) (hrec : rec.isNamed name = true) :
    nameIndex name (headers ++ [rec]) = headers.length := by
  rw [nameIndex_eq_iff, List.findIdx?_append, nameIndex_neg_iff.mp h, Option.none_or,
    List.findIdx?_singleton, if_pos hrec, Option.map_some, Nat.zero_add]

/-- The offset that a client finds is the one at the index. -/
theorem varNameToOffset_eq {h : SharedHeader} {name : Str} {i : Nat} {rec : VarHeader}
    (hi : nameIndex name h.varHeader = i) (hrec : h.varHeader[i]? = some rec) :
    irsdk_varNameToOffset h name = rec.offset := by
  change ((h.varHeader.find? (·.isNamed name)).map VarHeader.offset).getD (-1) = rec.offset
  rw [List.find?_eq_bind_findIdx?_getElem?, nameIndex_eq_iff.mp hi, Option.bind_some, hrec]
  rfl

/-! ## What a call does to the registry -/

theorem map_modify_of_same {β γ : Type*} {f : β → γ} {g : β → β} (h : ∀ x, f (g x) = f x) (xs : List β)
    (i : Nat) : (xs.modify i g).map f = xs.map f := by
  apply List.ext_getElem?
  intro j
  rw [List.getElem?_map, List.getElem?_map, List.getElem?_modify]
  cases xs[j]? with
  | none => rfl
  | some x =>
    split
    · exact congrArg some (h x)
    · rfl

/-- The fields that registrations write, and what the clients see of them. -/
structure Registry where
  isInitialized : Bool
  isHeaderFinalized : Bool
  headers : List VarHeader
  bufLen : ℤ
  isConnected : Bool
  sharedHeaders : List VarHeader
  sharedLen : ℤ

def registry (s : MemServer F α V) : Registry :=
  ⟨s.isInitialized, s.isHeaderFinalized, s.headers, s.bufLen, s.pHeader.isConnected, s.pHeader.varHeader,
    s.pHeader.bufLen⟩

@[simp] theorem length_headers (s : MemServer F α V) : s.headers.length = s.vars.length :=
  List.length_map ..

theorem registry_reRegVarAt (s : MemServer F α V) (index : ℤ) (var : Option α) :
    (s.reRegVarAt index var).2.registry = s.registry := by
  unfold reRegVarAt
  split
  · simp only [registry, headers, map_modify_of_same (f := Var.header) (g := fun v : Var F α =>
      { v with helper.varPtr := var }) (fun _ => rfl)]
  · rfl

theorem varNameToIndex_cases (s : MemServer F α V) (name : Str) :
    s.varNameToIndex name = -1 ∨
      ∃ i : Nat, s.varNameToIndex name = i ∧ i < s.vars.length ∧ s.isInitialized = true := by
  unfold varNameToIndex
  split
  · rename_i hinit
    obtain h | ⟨i, hi, hlt⟩ := nameIndex_cases name s.headers
    · exact .inl h
    · exact .inr ⟨i, hi, by rwa [length_headers] at hlt, hinit⟩
  · exact .inl rfl

theorem isVar_iff {s : MemServer F α V} {i : Nat} : s.isVar i = true ↔ i < s.vars.length := by
  rw [isVar, decide_eq_true_iff]
  omega

theorem reRegVarAt_neg_one (s : MemServer F α V) (var : Option α) : s.reRegVarAt (-1) var = (false, s) := by
  have hvar : s.isVar (-1) = false := rfl
  rw [reRegVarAt, hvar, Bool.and_false, if_neg Bool.false_ne_true]

theorem reRegVar_eq (s : MemServer F α V) (name : Str) (var : Option α) :
    s.reRegVar name var = (s.varNameToIndex name, (s.reRegVarAt (s.varNameToIndex name) var).2) := by
  unfold reRegVar
  dsimp only
  obtain h | ⟨i, h, hi, hinit⟩ := s.varNameToIndex_cases name
  · rw [h, reRegVarAt_neg_one, ite_self]
  · rw [h, reRegVarAt, hinit, isVar_iff.mpr hi]
    rfl

/-- The header of a variable at the end of the row. -/
def nextHeader (s : MemServer F α V) (name : Str) (type : VarType) (count : ℤ) (desc unit : Str) :
    VarHeader where
  type
  offset := s.bufLen
  count
  name := copyString name irsdkMaxString
  desc := copyString desc irsdkMaxDesc
  unit := copyString unit irsdkMaxString

/-- A new variable has room, a name of its own, and comes before the clients see the headers. -/
structure CanAdd (s : MemServer F α V) (name : Str) (type : VarType) (count : ℤ) : Prop where
  isInitialized : s.isInitialized = true
  isHeaderFinalized : s.isHeaderFinalized = false
  numVars : s.vars.length < irsdkMaxVars
  name : s.varNameToIndex name = -1
  len : type.bytes * count + s.bufLen < bufLength

/-- A registration finds the name, adds it at the end, or refuses it. -/
theorem regVar_cases (s : MemServer F α V) (name : Str) (var : Option α) (type : VarType) (count : ℤ)
    (desc unit : Str) (multiplier offset : F) :
    s.regVar name var type count desc unit multiplier offset = s.reRegVar name var ∨
    s.CanAdd name type count ∧ s.regVar name var type count desc unit multiplier offset =
      ((s.vars.length : ℤ), { s with
        vars := s.vars ++ [⟨s.nextHeader name type count desc unit, ⟨multiplier, offset, var⟩⟩]
        bufLen := type.bytes * count + s.bufLen }) := by
  unfold regVar
  by_cases hinit : s.isInitialized = true
  · rw [if_pos hinit]
    dsimp only
    split
    · exact .inl rfl
    · rename_i hneg
      have hname : s.varNameToIndex name = -1 := by
        rw [reRegVar_eq] at hneg
        obtain h | ⟨i, h, -⟩ := s.varNameToIndex_cases name
        · exact h
        · rw [h] at hneg
          exact absurd (Int.natCast_nonneg i) hneg
      have hsame : s.reRegVar name var = (-1, s) := by rw [reRegVar_eq, hname, reRegVarAt_neg_one]
      rw [hsame]
      dsimp only
      split
      · rename_i hopen
        rw [Bool.and_eq_true, Bool.not_eq_true', decide_eq_true_iff] at hopen
        unfold addVar
        dsimp only
        split
        · rename_i hlen
          exact .inr ⟨⟨hinit, hopen.1, hopen.2, hname, hlen⟩, rfl⟩
        · exact .inl rfl
      · exact .inl rfl
  · left
    rw [if_neg hinit, reRegVar_eq, varNameToIndex, if_neg hinit, reRegVarAt_neg_one]

theorem varNameToIndex_eq_iff {s : MemServer F α V} {name : Str} {i : Nat} :
    s.varNameToIndex name = i ↔ s.isInitialized = true ∧ nameIndex name s.headers = i := by
  unfold varNameToIndex
  split
  · rename_i hinit
    exact (and_iff_right hinit).symm
  · rename_i hinit
    exact ⟨fun h => by omega, fun h => absurd h.1 hinit⟩

/-- A registration that is not refused returns the index of its name. -/
theorem varNameToIndex_regVar {s : MemServer F α V} {name : Str} {var : Option α} {type : VarType} {count : ℤ}
    {desc unit : Str} {multiplier offset : F} (hname : name.length < irsdkMaxString) {i : Nat}
    (hi : (s.regVar name var type count desc unit multiplier offset).1 = i) :
    (s.regVar name var type count desc unit multiplier offset).2.varNameToIndex name = i := by
  obtain h | ⟨hadd, h⟩ := s.regVar_cases name var type count desc unit multiplier offset
  · rw [h, reRegVar_eq] at hi ⊢
    have hsame := s.registry_reRegVarAt (s.varNameToIndex name) var
    simp only [registry, Registry.mk.injEq] at hsame
    rw [varNameToIndex, hsame.1, hsame.2.2.1]
    exact hi
  · rw [h] at hi ⊢
    rw [varNameToIndex_eq_iff]
    have hnew : (s.nextHeader name type count desc unit).isNamed name = true := by
      have hcopy : (s.nextHeader name type count desc unit).name = name := copyString_of_lt hname
      rw [isNamed_iff hname (by rw [hcopy]; exact hname), hcopy]
    have hnone := hadd.name
    rw [varNameToIndex, hadd.isInitialized, if_pos rfl] at hnone
    refine ⟨hadd.isInitialized, ?_⟩
    have hconcat := nameIndex_concat hnone hnew
    rw [length_headers] at hconcat
    rw [headers, List.map_append]
    exact hconcat.trans hi

theorem registry_finalizeHeader (s : MemServer F α V) : s.finalizeHeader.registry = s.registry ∨
    s.isHeaderFinalized = false ∧ s.finalizeHeader.registry =
      ⟨s.isInitialized, true, s.headers, s.bufLen, true, s.headers, s.bufLen⟩ := by
  unfold finalizeHeader
  split
  · rename_i h
    rw [Bool.and_eq_true, Bool.not_eq_true'] at h
    exact .inr ⟨h.2, rfl⟩
  · exact .inl rfl

/-! ## The row -/

/-- Names are short, as the server asserts, and an array has no negative length. What it adds to the
row is computed in an `int`. -/
def Call.IsValid : Call F α V → Prop
  | .regVar name _ type count _ _ _ _ =>
    name.length < irsdkMaxString ∧ 0 ≤ count ∧ type.bytes * count + bufLength ≤ NewData.intMax
  | _ => True

/-- The row as the registrations have laid it out. -/
structure Registry.Laid (r : Registry) : Prop where
  short : ∀ rec ∈ r.headers, rec.name.length < irsdkMaxString
  names : r.headers.Pairwise fun rec rec' => rec.name ≠ rec'.name
  apart : r.headers.Pairwise fun rec rec' => rec.offset + rec.len ≤ rec'.offset
  within : ∀ rec ∈ r.headers, 0 ≤ rec.offset ∧ 0 ≤ rec.count ∧ rec.offset + rec.len ≤ r.bufLen
  bufLen : 0 ≤ r.bufLen ∧ r.bufLen < bufLength
  numVars : r.headers.length ≤ irsdkMaxVars
  shared : r.isHeaderFinalized = true → r.sharedHeaders = r.headers ∧ r.sharedLen = r.bufLen
  hidden : r.isHeaderFinalized = false → r.sharedHeaders = [] ∧ r.isConnected = false

theorem laid_init [Zero V] (isInitialized : Bool) : (init isInitialized : MemServer F α V).registry.Laid where
  short _ h := absurd h List.not_mem_nil
  names := .nil
  apart := .nil
  within _ h := absurd h List.not_mem_nil
  bufLen := ⟨le_rfl, show (0 : ℤ) < bufLength by decide⟩
  numVars := Nat.zero_le _
  shared h := absurd h Bool.false_ne_true
  hidden _ := ⟨rfl, rfl⟩

/-- A new variable gets the end of the row. -/
theorem Registry.Laid.add {s : MemServer F α V} (h : s.registry.Laid) {name : Str} {type : VarType}
    {count : ℤ} (desc unit : Str) (hadd : s.CanAdd name type count)
    (hname : name.length < irsdkMaxString) (hcount : 0 ≤ count) :
    Registry.Laid { s.registry with
      headers := s.headers ++ [s.nextHeader name type count desc unit]
      bufLen := type.bytes * count + s.bufLen } := by
  have hlen : 0 ≤ type.bytes * count := Int.mul_nonneg (Int.natCast_nonneg _) hcount
  have hend (rec : VarHeader) (hrec : rec ∈ s.headers) : rec.offset + rec.len ≤ s.bufLen :=
    (h.within rec hrec).2.2
  have hnew : (s.nextHeader name type count desc unit).name = name := copyString_of_lt hname
  refine ⟨?_, ?_, ?_, ?_, ⟨?_, hadd.len⟩, ?_, ?_, h.hidden⟩
  · intro rec hrec
    rcases List.mem_append.mp hrec with hrec | hrec
    · exact h.short rec hrec
    · rw [List.mem_singleton.mp hrec, hnew]
      exact hname
  · refine List.pairwise_append.mpr ⟨h.names, List.pairwise_singleton .., ?_⟩
    intro rec hrec rec' hrec' heq
    rw [List.mem_singleton.mp hrec', hnew] at heq
    have hfound := hadd.name
    rw [varNameToIndex, hadd.isInitialized, if_pos rfl, nameIndex_neg_iff, List.findIdx?_eq_none_iff] at hfound
    have hnamed := (isNamed_iff hname (h.short rec hrec)).mpr heq.symm
    exact Bool.false_ne_true ((hfound rec hrec).symm.trans hnamed)
  · refine List.pairwise_append.mpr ⟨h.apart, List.pairwise_singleton .., ?_⟩
    intro rec hrec rec' hrec'
    rw [List.mem_singleton.mp hrec']
    exact hend rec hrec
  · intro rec hrec
    dsimp only
    rcases List.mem_append.mp hrec with hrec | hrec
    · obtain ⟨h₁, h₂, h₃⟩ := h.within rec hrec
      exact ⟨h₁, h₂, by change rec.offset + rec.len ≤ s.bufLen at h₃; omega⟩
    · rw [List.mem_singleton.mp hrec]
      exact ⟨h.bufLen.1, hcount, (add_comm s.bufLen _).le⟩
  · exact add_nonneg hlen h.bufLen.1
  · have hnum := hadd.numVars
    rw [← length_headers] at hnum
    rw [List.length_append, List.length_singleton]
    exact hnum
  · intro hfinal
    exact absurd (hadd.isHeaderFinalized.symm.trans hfinal) Bool.false_ne_true

section

variable [DecidableEq F] [One F] [Zero F] [DecidableEq V] [Zero V]
variable (scale : VarType → F → F → (Nat → V) → Nat → V)

omit [DecidableEq V] [Zero V] in
theorem registry_setVarAt (s : MemServer F α V) (index : ℤ) (var : Option (Nat → V)) :
    (s.setVarAt scale index var).2.registry = s.registry := by
  unfold setVarAt
  split
  · split <;> rfl
  · rfl

omit [DecidableEq F] [One F] [Zero F] in
theorem registry_regSessionInfo (s : MemServer F α V) (str : List V) :
    (s.regSessionInfo str).registry = s.registry := by
  unfold regSessionInfo
  split
  · split <;> rfl
  · rfl

omit [DecidableEq F] [One F] [Zero F] [DecidableEq V] in
theorem registry_resetSampleVars (s : MemServer F α V) : s.resetSampleVars.registry = s.registry := by
  unfold resetSampleVars
  split
  · simp only [registry, headers]
  · rfl

omit [DecidableEq V] [Zero V] in
theorem registry_pollSampleVars (s : MemServer F α V) (program : α → Nat → V) :
    (s.pollSampleVars scale program).registry = s.registry := by
  unfold pollSampleVars
  split <;> rfl

/-- What a call does to the registry: nothing, a new variable, or the copy for the clients. -/
theorem registry_step (s : MemServer F α V) (call : Call F α V) :
    (step scale s call).registry = s.registry ∨
    (∃ name var type count desc unit multiplier offset,
      call = .regVar name var type count desc unit multiplier offset ∧ s.CanAdd name type count ∧
      (step scale s call).registry = { s.registry with
        headers := s.headers ++ [s.nextHeader name type count desc unit]
        bufLen := type.bytes * count + s.bufLen }) ∨
    s.isHeaderFinalized = false ∧ (step scale s call).registry =
      ⟨s.isInitialized, true, s.headers, s.bufLen, true, s.headers, s.bufLen⟩ := by
  cases call with
  | regVar name var type count desc unit multiplier offset =>
    obtain h | ⟨hadd, h⟩ := s.regVar_cases name var type count desc unit multiplier offset
    · left
      rw [step, h, reRegVar_eq]
      exact s.registry_reRegVarAt _ var
    · right; left
      refine ⟨name, var, type, count, desc, unit, multiplier, offset, rfl, hadd, ?_⟩
      rw [step, h]
      simp only [registry, headers, List.map_append, List.map_cons, List.map_nil]
  | reRegVar name var =>
    left
    rw [step, reRegVar_eq]
    exact s.registry_reRegVarAt _ var
  | reRegVarAt index var => exact .inl (s.registry_reRegVarAt index var)
  | setVar name var => exact .inl (s.registry_setVarAt scale _ var)
  | setVarAt index var => exact .inl (s.registry_setVarAt scale index var)
  | regSessionInfo str => exact .inl (s.registry_regSessionInfo str)
  | finalizeHeader => exact s.registry_finalizeHeader.imp_right .inr
  | resetSampleVars => exact .inl s.registry_resetSampleVars
  | pollSampleVars program => exact .inl (s.registry_pollSampleVars scale program)

/-! ## Runs -/

theorem laid_step (s : MemServer F α V) (call : Call F α V) (hcall : call.IsValid) (h : s.registry.Laid) :
    (step scale s call).registry.Laid := by
  obtain hsame | ⟨name, var, type, count, desc, unit, multiplier, offset, rfl, hadd, hnew⟩ | ⟨hopen, hfinal⟩ :=
    s.registry_step scale call
  · rw [hsame]
    exact h
  · rw [hnew]
    exact h.add desc unit hadd hcall.1 hcall.2.1
  · rw [hfinal]
    exact ⟨h.short, h.names, h.apart, h.within, h.bufLen, h.numVars, fun _ => ⟨rfl, rfl⟩,
      fun hno => absurd hno.symm Bool.false_ne_true⟩

theorem laid_run {s : MemServer F α V} (h : s.registry.Laid) {calls : List (Call F α V)}
    (hcalls : ∀ call ∈ calls, call.IsValid) : (run (step scale) s calls).registry.Laid := by
  have hstep (s : MemServer F α V) (call : Call F α V) (hcall : call.IsValid) (h : s.registry.Laid) :
      (step scale s call).registry.Laid := laid_step scale s call hcall h
  exact run_invariant_of_forall hstep hcalls h

/-! ## What later calls keep -/

/-- Later on there may be more variables behind the ones there are. -/
structure Registry.Later (r r' : Registry) : Prop where
  isInitialized : r'.isInitialized = r.isInitialized
  headers : r.headers <+: r'.headers

theorem later_step (s : MemServer F α V) (call : Call F α V) :
    s.registry.Later (step scale s call).registry := by
  obtain hsame | ⟨name, var, type, count, desc, unit, multiplier, offset, -, -, hnew⟩ | ⟨-, hfinal⟩ :=
    s.registry_step scale call
  · rw [hsame]
    exact ⟨rfl, List.prefix_rfl⟩
  · rw [hnew]
    exact ⟨rfl, List.prefix_append _ _⟩
  · rw [hfinal]
    exact ⟨rfl, List.prefix_rfl⟩

theorem later_run (s : MemServer F α V) (calls : List (Call F α V)) :
    s.registry.Later (run (step scale) s calls).registry := by
  have hstep (t : MemServer F α V) (call : Call F α V) (ht : s.registry.Later t.registry) :
      s.registry.Later (step scale t call).registry := by
    have hlater := t.later_step scale call
    exact ⟨hlater.isInitialized.trans ht.isInitialized, ht.headers.trans hlater.headers⟩
  exact run_invariant_of_step hstep calls ⟨rfl, List.prefix_rfl⟩

/-- **Names.** A registered name keeps its index and its header through all later calls. Once the headers
are shared a client finds the same index and offset, and before it finds nothing. -/
theorem registered_forever (isInitialized : Bool) (before after : List (Call F α V))
    (hbefore : ∀ call ∈ before, call.IsValid) (hafter : ∀ call ∈ after, call.IsValid)
    (name : Str) (var : Option α) (type : VarType) (count : ℤ) (desc unit : Str) (multiplier offset : F)
    (hvalid : (Call.regVar name var type count desc unit multiplier offset : Call F α V).IsValid) (i : Nat)
    (hi : ((run (step scale) (init isInitialized) before).regVar name var type count desc unit multiplier
      offset).1 = i) :
    let s := ((run (step scale) (init isInitialized) before).regVar name var type count desc unit multiplier
      offset).2
    let t := run (step scale) s after
    ∃ rec, s.headers[i]? = some rec ∧ rec.name = name ∧ t.varNameToIndex name = i ∧
      t.headers[i]? = some rec ∧
      irsdk_varNameToIndex t.pHeader name = (if t.isHeaderFinalized then ↑i else -1) ∧
      irsdk_varNameToOffset t.pHeader name = (if t.isHeaderFinalized then rec.offset else -1) := by
  intro s t
  have hs : s.registry.Laid :=
    laid_step scale _ _ hvalid (laid_run scale (laid_init isInitialized) hbefore)
  have ht : t.registry.Laid := laid_run scale hs hafter
  have hlater : s.registry.Later t.registry := later_run scale s after
  obtain ⟨hinit, hindex⟩ := varNameToIndex_eq_iff.mp (varNameToIndex_regVar hvalid.1 hi)
  obtain ⟨hlt, hnamed, -⟩ := List.findIdx?_eq_some_iff_getElem.mp (nameIndex_eq_iff.mp hindex)
  have hrec : s.headers[i]? = some s.headers[i] := List.getElem?_eq_getElem hlt
  have hname : s.headers[i].name = name :=
    ((isNamed_iff hvalid.1 (hs.short _ (List.getElem_mem hlt))).mp hnamed).symm
  have hkept : nameIndex name t.headers = i := nameIndex_of_isPrefix hlater.headers hindex
  have hrec' : t.headers[i]? = some s.headers[i] := by
    obtain ⟨more, hmore⟩ := hlater.headers
    rw [← show s.headers ++ more = t.headers from hmore, List.getElem?_append_left hlt, hrec]
  refine ⟨s.headers[i], hrec, hname, varNameToIndex_eq_iff.mpr ⟨hlater.isInitialized.trans hinit, hkept⟩,
    hrec', ?_⟩
  cases hfinal : t.isHeaderFinalized with
  | false =>
    have hshared : t.pHeader.varHeader = [] := (ht.hidden hfinal).1
    rw [irsdk_varNameToIndex, irsdk_varNameToOffset, hshared]
    exact ⟨rfl, rfl⟩
  | true =>
    have hshared : t.pHeader.varHeader = t.headers := (ht.shared hfinal).1
    exact ⟨by rw [irsdk_varNameToIndex, hshared, hkept, if_pos rfl],
      varNameToOffset_eq (by rw [hshared]; exact hkept) (by rw [hshared]; exact hrec')⟩

end

/-- A call that registers one value of a type. -/
def registerOne (name : String) (type : VarType) : Call ℤ Unit Nat :=
  .regVar name.toList none type 1 [] [] 1 0

def afterSpeed : MemServer ℤ Unit Nat :=
  run (step fun _ _ _ pSource => pSource) (init true) [registerOne "SessionTime" .double, registerOne "Speed" .float]

theorem registered_forever_fuelLevel :
    irsdk_varNameToIndex (run (step fun _ _ _ pSource => pSource)
      (afterSpeed.regVar "FuelLevel".toList none .float 1 [] [] 1 0).2
      [.finalizeHeader, registerOne "Lap" .int]).pHeader "FuelLevel".toList = 2 := by
  obtain ⟨_, -, -, -, -, hindex, -⟩ := registered_forever (fun _ _ _ pSource => pSource) true
    [registerOne "SessionTime" .double, registerOne "Speed" .float]
    [.finalizeHeader, registerOne "Lap" .int]
    (by simp [registerOne, Call.IsValid, VarType.bytes, irsdkMaxString, bufLength, irsdkMaxVars, NewData.intMax])
    (by simp [registerOne, Call.IsValid, VarType.bytes, irsdkMaxString, bufLength, irsdkMaxVars, NewData.intMax])
    "FuelLevel".toList none .float 1 [] [] 1 0 ⟨by decide, by decide, by decide⟩ 2 rfl
  exact hindex

end IrPitCrew.MemServer
