import IrPitCrew.Irsdk.Rows
import Mathlib.Data.List.Nodup

/-!
# What the clients read

The calls of the server are writes and commits of a ring of three rows, which a
client reads while they happen. What it reads by name is what the program had at
one poll.
-/

open IrPitCrew.Text IrPitCrew.Memory IrPitCrew.Run IrPitCrew.NewData

namespace IrPitCrew.MemServer

variable {F α V : Type*}

/-! ## The ring of the server -/

def serverStep (N : Nat) (r : Ring ℤ V) : NewData.Action ℤ V → Ring ℤ V
  | .write i v => r.write N i v
  | .commit => r.commit N
  | .setStatus _ | .call _ | .read => r

def isServer : NewData.Action ℤ V → Bool
  | .write _ _ | .commit | .setStatus _ => true
  | .call _ | .read => false

/-- The client leaves the ring alone. -/
theorem mem_run (N : Nat) (cells : List ℤ) (s : System ℤ V) (actions : List (NewData.Action ℤ V)) :
    (run (NewData.step N cells) s actions).mem = run (serverStep N) s.mem (actions.filter isServer) := by
  have hstep (s : System ℤ V) (a : NewData.Action ℤ V) : (NewData.step N cells s a).mem = serverStep N s.mem a := by
    cases a <;> rfl
  have hmap : (run (NewData.step N cells) s actions).mem = run (serverStep N) s.mem actions :=
    run_map System.mem hstep s actions
  have hfilter : run (serverStep N) s.mem (actions.filter isServer) = run (serverStep N) s.mem actions := by
    refine run_filter isServer (fun r a ha => ?_) s.mem actions
    cases a with
    | write | commit | setStatus => cases ha
    | call | read => rfl
  rw [hmap, hfilter]

/-- Images stay. -/
theorem images_run (N : Nat) (r : Ring ℤ V) (actions : List (NewData.Action ℤ V)) :
    r.images <+: (run (serverStep N) r actions).images := by
  have hstep (r' : Ring ℤ V) (a : NewData.Action ℤ V) (h : r.images <+: r'.images) :
      r.images <+: (serverStep N r' a).images := by
    cases a with
    | commit => exact h.trans (List.prefix_append _ _)
    | write | setStatus | call | read => exact h
  exact run_invariant_of_step hstep actions List.prefix_rfl

theorem run_writes (N : Nat) (ss : List (ℤ × V)) (r : Ring ℤ V) :
    run (serverStep N) r (ss.map fun s => .write s.1 s.2) = r.writes N ss := by
  rw [run, List.foldl_map]
  rfl

/-! ## The calls as actions -/

section

variable [DecidableEq F] [One F] [Zero F] [DecidableEq V] [Zero V]
variable (scale : VarType → F → F → (Nat → V) → Nat → V)

def setStores (s : MemServer F α V) (index : ℤ) (var : Option (Nat → V)) : List (ℤ × V) :=
  match var, s.vars[index.toNat]? with
  | some var, some v => if s.isInitialized && s.isVar index then v.write scale var 0 else []
  | _, _ => []

/-- The stores of a call, from the start of the current row. -/
def rowStores (s : MemServer F α V) : Call F α V → List (ℤ × V)
  | .setVar name var => s.setStores scale (s.varNameToIndex name) var
  | .setVarAt index var => s.setStores scale index var
  | .resetSampleVars => if s.isInitialized then stores 0 (List.replicate bufLength 0) else []
  | .pollSampleVars program => if s.isInitialized then pollStores scale s.vars program 0 else []
  | .regVar .. | .reRegVar .. | .reRegVarAt .. | .regSessionInfo _ | .finalizeHeader => []

/-- What a call tells the clients after its stores. -/
def marks (s : MemServer F α V) : Call F α V → List (NewData.Action ℤ V)
  | .pollSampleVars _ => if s.isInitialized then [.commit] else []
  | .finalizeHeader => if s.isInitialized && !s.isHeaderFinalized then [.setStatus true] else []
  | _ => []

def actions (s : MemServer F α V) (call : Call F α V) : List (NewData.Action ℤ V) :=
  ((s.rowStores scale call).map fun store => .write store.1 store.2) ++ s.marks call

def serverActions : MemServer F α V → List (Call F α V) → List (NewData.Action ℤ V)
  | _, [] => []
  | s, call :: calls => s.actions scale call ++ serverActions (step scale s call) calls

theorem serverActions_append (s : MemServer F α V) (calls more : List (Call F α V)) :
    s.serverActions scale (calls ++ more) =
      s.serverActions scale calls ++ (run (step scale) s calls).serverActions scale more := by
  induction calls generalizing s with
  | nil => rfl
  | cons call calls ih => rw [List.cons_append, serverActions, serverActions, ih, run_cons, List.append_assoc]

end

/-! ## Where the rows are -/

theorem bufOffset_eq (b : Nat) : bufOffset b = 721008 + 24576 * b := by
  simp only [bufOffset, varHeaderOffset, sessionInfoOffset, sessionInfoLen, sizeofHeader, sizeofVarHeader,
    irsdkMaxVars, bufLength]
  push_cast
  ring

/-- A row of the shared memory. -/
def row (m : ℤ → V) (b : Nat) : ℤ → V := fun i => m (bufOffset b + i)

theorem load_row (m : ℤ → V) (b : Nat) (base : ℤ) (n : Nat) :
    load (row m b) base n = load m (bufOffset b + base) n := by
  apply List.map_congr_left
  intro j _
  rw [row, add_assoc]

theorem row_apply (m : ℤ → V) {ss : List (ℤ × V)} (h : Within 0 bufLength ss) (b b' : Nat) {i : ℤ}
    (hi : 0 ≤ i) (hlt : i < bufLength) :
    row (Memory.apply m (shift (bufOffset b) ss)) b' i =
      if b' = b then Memory.apply (row m b') ss i else row m b' i := by
  split
  · rename_i hb
    rw [hb]
    exact apply_shift m (bufOffset b) i ss
  · rename_i hb
    have hlen : bufLength = 24576 := rfl
    refine apply_of_within (h.shift (bufOffset b)) ?_ m
    rw [bufOffset_eq, bufOffset_eq]
    omega

/-! ## What each call writes -/

theorem reRegVarAt_shape (s : MemServer F α V) (index : ℤ) (var : Option α) :
    ∃ vars, (s.reRegVarAt index var).2 = { s with vars } := by
  unfold reRegVarAt
  split
  · exact ⟨_, rfl⟩
  · exact ⟨s.vars, rfl⟩

theorem regVar_shape (s : MemServer F α V) (name : Str) (var : Option α) (type : VarType) (count : ℤ)
    (desc unit : Str) (multiplier offset : F) :
    ∃ vars bufLen, (s.regVar name var type count desc unit multiplier offset).2 = { s with vars, bufLen } := by
  obtain h | ⟨-, h⟩ := s.regVar_cases name var type count desc unit multiplier offset
  · obtain ⟨vars, hvars⟩ := s.reRegVarAt_shape (s.varNameToIndex name) var
    rw [h, reRegVar_eq]
    exact ⟨vars, s.bufLen, hvars⟩
  · rw [h]
    exact ⟨_, _, rfl⟩

theorem setVarAt_shape [DecidableEq F] [One F] [Zero F] (scale : VarType → F → F → (Nat → V) → Nat → V)
    (s : MemServer F α V) (index : ℤ) (var : Option (Nat → V)) :
    (s.setVarAt scale index var).2 = { s with
      sharedMem := Memory.apply s.sharedMem (shift (bufOffset s.curBuf) (s.setStores scale index var)) } := by
  unfold setVarAt setStores
  cases var with
  | none => rfl
  | some var =>
    cases s.vars[index.toNat]? with
    | none => rfl
    | some v =>
      dsimp only
      split
      · rw [← write_add, add_zero]
      · rfl

/-- The session string is below the rows. -/
theorem regSessionInfo_shape [DecidableEq V] [Zero V] (s : MemServer F α V) (str : List V) :
    ∃ sharedMem sessionInfoUpdate shared, s.regSessionInfo str =
      { s with sharedMem, sessionInfoUpdate, pHeader.sessionInfoUpdate := shared } ∧
      ∀ b i, 0 ≤ i → row sharedMem b i = row s.sharedMem b i := by
  unfold regSessionInfo
  split
  · split
    · refine ⟨_, _, _, rfl, fun b i hi => apply_of_within (within_stores _ _) (.inr ?_) s.sharedMem⟩
      have hlen : sessionInfoLen = 131072 := rfl
      have hoffset : sessionInfoOffset = 112 := rfl
      rw [bufOffset_eq, List.length_append, List.length_take, List.length_replicate]
      omega
    · exact ⟨s.sharedMem, s.sessionInfoUpdate, s.pHeader.sessionInfoUpdate, rfl, fun _ _ _ => rfl⟩
  · exact ⟨s.sharedMem, s.sessionInfoUpdate, s.pHeader.sessionInfoUpdate, rfl, fun _ _ _ => rfl⟩

/-! ## The server and the ring in step -/

/-- The rows of the server, its counters and the ticks that the clients see. -/
structure Shows (s : MemServer F α V) (r : Ring ℤ V) : Prop where
  curBuf : s.curBuf = r.current bufCount
  count : s.count = r.count
  tick : s.tickCount = r.tick
  shared : s.isHeaderFinalized = true → s.pHeader.tickCount = r.tick
  cell : ∀ b < bufCount, ∀ i : ℤ, 0 ≤ i → i < bufLength → row s.sharedMem b i = r.cell b i

theorem shows_init [Zero V] (isInitialized : Bool) :
    (init isInitialized : MemServer F α V).Shows (Ring.init fun _ _ => 0) :=
  ⟨rfl, rfl, rfl, fun h => absurd h Bool.false_ne_true, fun _ _ _ _ _ => rfl⟩

/-- Stores into the current row. -/
theorem Shows.writes {s : MemServer F α V} {r : Ring ℤ V} (h : s.Shows r) {ss : List (ℤ × V)}
    (hss : Within 0 bufLength ss) :
    Shows { s with sharedMem := Memory.apply s.sharedMem (shift (bufOffset s.curBuf) ss) }
      (r.writes bufCount ss) := by
  obtain ⟨himages, htick, hcell⟩ := r.writes_eq bufCount ss
  have hcount : (r.writes bufCount ss).count = r.count := congrArg List.length himages
  refine ⟨?_, ?_, h.tick.trans htick.symm, fun hfinal => (h.shared hfinal).trans htick.symm, ?_⟩
  · rw [Ring.current, hcount]
    exact h.curBuf
  · rw [hcount]
    exact h.count
  · intro b hb i hi hlt
    rw [row_apply _ hss s.curBuf b hi hlt, hcell b, ← h.curBuf]
    split
    · exact apply_congr (h.cell b hb i hi hlt) ss
    · exact h.cell b hb i hi hlt

/-- A block from the start of the current row. -/
theorem Shows.store {s : MemServer F α V} {r : Ring ℤ V} (h : s.Shows r) {vs : List V}
    (hvs : vs.length = bufLength) :
    Shows { s with sharedMem := Memory.apply s.sharedMem (stores (bufOffset s.curBuf) vs) }
      (r.writes bufCount (stores 0 vs)) := by
  have hwithin := within_stores 0 vs
  rw [hvs, zero_add] at hwithin
  have hshift := stores_add (bufOffset s.curBuf) 0 vs
  rw [add_zero] at hshift
  rw [hshift]
  exact h.writes hwithin

/-- The end of a poll. -/
theorem Shows.commit {s : MemServer F α V} {r : Ring ℤ V} (h : s.Shows r) :
    Shows { s with
        tickCount := Function.update s.tickCount s.curBuf s.count
        pHeader.tickCount := Function.update s.pHeader.tickCount s.curBuf s.count
        curBuf := (s.curBuf + 1) % bufCount
        count := s.count + 1 } (r.commit bufCount) := by
  have hcount := r.count_commit bufCount
  refine ⟨?_, ?_, ?_, ?_, h.cell⟩
  · dsimp only
    rw [Ring.current, hcount, h.curBuf, Ring.current, Nat.mod_add_mod]
  · dsimp only
    rw [hcount, h.count]
    rfl
  · dsimp only
    rw [h.tick, h.curBuf, h.count]
    rfl
  · intro hfinal
    dsimp only
    rw [h.shared hfinal, h.curBuf, h.count]
    rfl

section

variable [DecidableEq F] [One F] [Zero F] [DecidableEq V] [Zero V]
variable (scale : VarType → F → F → (Nat → V) → Nat → V)

omit [DecidableEq V] [Zero V] in
theorem within_setStores {s : MemServer F α V} (h : s.registry.Laid) (index : ℤ) (var : Option (Nat → V)) :
    Within 0 bufLength (s.setStores scale index var) := by
  have hnone : Within 0 (bufLength : ℤ) ([] : List (ℤ × V)) := fun _ hs => absurd hs List.not_mem_nil
  unfold setStores
  cases var with
  | none => exact hnone
  | some var =>
    cases hv : s.vars[index.toNat]? with
    | none => exact hnone
    | some v =>
      dsimp only
      split
      · have hrec : v.header ∈ s.headers := List.mem_map_of_mem (List.mem_of_getElem? hv)
        exact (within_write scale (h.within _ hrec) var).mono le_rfl h.bufLen.2.le
      · exact hnone

omit [DecidableEq V] [Zero V] in
theorem shows_setVarAt {s : MemServer F α V} {r : Ring ℤ V} (hs : s.registry.Laid) (h : s.Shows r) (index : ℤ)
    (var : Option (Nat → V)) :
    (s.setVarAt scale index var).2.Shows (r.writes bufCount (s.setStores scale index var)) := by
  rw [setVarAt_shape]
  exact h.writes (within_setStores scale hs index var)

/-- One call. -/
theorem shows_step (s : MemServer F α V) (r : Ring ℤ V) (call : Call F α V) (hs : s.registry.Laid)
    (h : s.Shows r) : (step scale s call).Shows (run (serverStep bufCount) r (s.actions scale call)) := by
  rw [actions, run_append, run_writes]
  cases call with
  | regVar name var type count desc unit multiplier offset =>
    obtain ⟨vars, bufLen, hshape⟩ := s.regVar_shape name var type count desc unit multiplier offset
    rw [step, hshape]
    exact ⟨h.curBuf, h.count, h.tick, h.shared, h.cell⟩
  | reRegVar name var =>
    obtain ⟨vars, hshape⟩ := s.reRegVarAt_shape (s.varNameToIndex name) var
    rw [step, reRegVar_eq, hshape]
    exact ⟨h.curBuf, h.count, h.tick, h.shared, h.cell⟩
  | reRegVarAt index var =>
    obtain ⟨vars, hshape⟩ := s.reRegVarAt_shape index var
    rw [step, hshape]
    exact ⟨h.curBuf, h.count, h.tick, h.shared, h.cell⟩
  | setVar name var => exact shows_setVarAt scale hs h _ var
  | setVarAt index var => exact shows_setVarAt scale hs h index var
  | regSessionInfo str =>
    obtain ⟨sharedMem, sessionInfoUpdate, shared, hshape, hrow⟩ := s.regSessionInfo_shape str
    rw [step, hshape]
    exact ⟨h.curBuf, h.count, h.tick, h.shared, fun b hb i hi hlt =>
      (hrow b i hi).trans (h.cell b hb i hi hlt)⟩
  | finalizeHeader =>
    have hmarks : run (serverStep bufCount) r (s.marks (.finalizeHeader : Call F α V)) = r := by
      rw [marks]
      split <;> rfl
    rw [step, finalizeHeader]
    change Shows _ (run (serverStep bufCount) r (s.marks (.finalizeHeader : Call F α V)))
    rw [hmarks]
    split
    · exact ⟨h.curBuf, h.count, h.tick, fun _ => h.tick, h.cell⟩
    · exact h
  | resetSampleVars =>
    have hmarks : s.marks (.resetSampleVars : Call F α V) = [] := rfl
    rw [step, resetSampleVars, rowStores, hmarks, run_nil]
    split
    · exact h.store List.length_replicate
    · exact h
  | pollSampleVars program =>
    rw [step, pollSampleVars, rowStores, marks]
    split
    · have hwithin : Within 0 bufLength (pollStores scale s.vars program 0) :=
        (within_pollStores scale hs program).mono le_rfl hs.bufLen.2.le
      have hshift := pollStores_add scale s.vars program (bufOffset s.curBuf) 0
      rw [add_zero] at hshift
      rw [hshift]
      exact (h.writes hwithin).commit
    · exact h

/-! ## Runs -/

/-- The ring after some calls. -/
def ringAfter (isInitialized : Bool) (calls : List (Call F α V)) : Ring ℤ V :=
  run (serverStep bufCount) (Ring.init fun _ _ => 0)
    ((init isInitialized : MemServer F α V).serverActions scale calls)

theorem ringAfter_concat (isInitialized : Bool) (calls : List (Call F α V)) (call : Call F α V) :
    ringAfter scale isInitialized (calls ++ [call]) =
      run (serverStep bufCount) (ringAfter scale isInitialized calls)
        ((run (step scale) (init isInitialized) calls).actions scale call) := by
  rw [ringAfter, serverActions_append, run_append, ← ringAfter]
  simp only [serverActions, List.append_nil]

theorem shows_run (isInitialized : Bool) {calls : List (Call F α V)} (hcalls : ∀ call ∈ calls, call.IsValid) :
    (run (step scale) (init isInitialized) calls).Shows (ringAfter scale isInitialized calls) := by
  induction calls using List.reverseRecOn with
  | nil => exact shows_init isInitialized
  | append_singleton calls call ih =>
    have hbefore : ∀ c ∈ calls, c.IsValid := fun c hc => hcalls c (List.mem_append_left _ hc)
    rw [ringAfter_concat, run_append, run_cons, run_nil]
    exact shows_step scale _ _ call (laid_run scale (laid_init isInitialized) hbefore) (ih hbefore)

omit [DecidableEq V] in
/-- The image that a call finishes. -/
theorem images_actions (s : MemServer F α V) (r : Ring ℤ V) (call : Call F α V) :
    (run (serverStep bufCount) r (s.actions scale call)).images = r.images ∨
      ∃ program, call = .pollSampleVars program ∧ s.isInitialized = true ∧
        (run (serverStep bufCount) r (s.actions scale call)).images =
          r.images ++ [(run (serverStep bufCount) r (s.actions scale call)).cell (r.current bufCount)] := by
  obtain ⟨himages, -, -⟩ := r.writes_eq bufCount (s.rowStores scale call)
  rw [actions, run_append, run_writes]
  cases call with
  | pollSampleVars program =>
    cases hinit : s.isInitialized with
    | false =>
      left
      rw [marks, hinit]
      exact himages
    | true =>
      right
      refine ⟨program, rfl, rfl, ?_⟩
      have hcurrent : (r.writes bufCount (s.rowStores scale (.pollSampleVars program))).current bufCount =
          r.current bufCount := by
        rw [Ring.current, Ring.count, himages]
        rfl
      rw [marks, hinit, if_pos rfl, run_cons, run_nil, serverStep, Ring.commit, himages, hcurrent]
  | finalizeHeader =>
    left
    rw [marks]
    split <;> exact himages
  | _ => exact .inl himages

/-- Each image is the row that some poll filled. -/
theorem image_of_poll (isInitialized : Bool) {calls : List (Call F α V)}
    (hcalls : ∀ call ∈ calls, call.IsValid) {k : Nat} {image : ℤ → V}
    (himage : (ringAfter scale isInitialized calls).images[k]? = some image) :
    ∃ before program after, calls = before ++ .pollSampleVars program :: after ∧
      (run (step scale) (init isInitialized) before).isInitialized = true ∧
      (run (step scale) (init isInitialized) before).count = k ∧
      ∀ i : ℤ, 0 ≤ i → i < bufLength → image i =
        row (run (step scale) (init isInitialized) (before ++ [.pollSampleVars program])).sharedMem
          (run (step scale) (init isInitialized) before).curBuf i := by
  induction calls using List.reverseRecOn with
  | nil => exact absurd himage (by simp [ringAfter, serverActions, Ring.init])
  | append_singleton calls call ih =>
    have hbefore : ∀ c ∈ calls, c.IsValid := fun c hc => hcalls c (List.mem_append_left _ hc)
    have hshows := shows_run scale isInitialized hbefore
    have hshows' := shows_run scale isInitialized hcalls
    have hold (h : (ringAfter scale isInitialized calls).images[k]? = some image) := ih hbefore h
    obtain hsame | ⟨program, rfl, hinit, hnew⟩ := images_actions scale
      (run (step scale) (init isInitialized) calls) (ringAfter scale isInitialized calls) call
    · rw [← ringAfter_concat] at hsame
      rw [hsame] at himage
      obtain ⟨before, program, after, rfl, h⟩ := hold himage
      exact ⟨before, program, after ++ [call], by simp, h⟩
    · rw [← ringAfter_concat] at hnew
      rw [hnew] at himage
      rcases Nat.lt_or_ge k (ringAfter scale isInitialized calls).images.length with hlt | hge
      · rw [List.getElem?_append_left hlt] at himage
        obtain ⟨before, program', after, rfl, h⟩ := hold himage
        exact ⟨before, program', after ++ [.pollSampleVars program], by simp, h⟩
      · have hlast : k < _ := (List.getElem?_eq_some_iff.mp himage).1
        rw [List.length_append, List.length_singleton] at hlast
        obtain rfl : k = (ringAfter scale isInitialized calls).images.length := by omega
        rw [List.getElem?_concat_length, Option.some.injEq] at himage
        refine ⟨calls, program, [], rfl, hinit, hshows.count, fun i hi hlt => ?_⟩
        rw [← himage, ← hshows.curBuf]
        refine (hshows'.cell _ ?_ i hi hlt).symm
        rw [hshows.curBuf]
        exact Nat.mod_lt _ (by decide)

/-! ## Reading by name -/

omit [DecidableEq F] [One F] [Zero F] [DecidableEq V] [Zero V] in
/-- A client finds the place of each variable that is shared. -/
theorem varNameToOffset_of_mem {s : MemServer F α V} (h : s.registry.Laid)
    (hfinal : s.isHeaderFinalized = true) {rec : VarHeader} (hrec : rec ∈ s.headers) :
    irsdk_varNameToOffset s.pHeader rec.name = rec.offset := by
  have hshared : s.pHeader.varHeader = s.headers := (h.shared hfinal).1
  have hsome : (s.headers.find? (·.isNamed rec.name)).isSome = true :=
    List.find?_isSome.mpr ⟨rec, hrec, (isNamed_iff (h.short rec hrec) (h.short rec hrec)).mpr rfl⟩
  obtain ⟨found, hfound⟩ := Option.isSome_iff_exists.mp hsome
  have hmem := List.mem_of_find?_eq_some hfound
  have hname : rec.name = found.name :=
    (isNamed_iff (h.short rec hrec) (h.short found hmem)).mp (List.find?_some hfound)
  have hnodup : (s.headers.map VarHeader.name).Nodup := List.pairwise_map.mpr h.names
  rw [irsdk_varNameToOffset, hshared]
  change ((s.headers.find? (·.isNamed rec.name)).map VarHeader.offset).getD (-1) = rec.offset
  rw [hfound, List.inj_on_of_nodup_map hnodup hrec hmem hname]
  rfl

/-- The bytes that a client copies. -/
def rowCells (bufLen : ℤ) : List ℤ := (List.range bufLen.toNat).map (↑)

theorem mem_rowCells {bufLen i : ℤ} : i ∈ rowCells bufLen ↔ 0 ≤ i ∧ i < bufLen := by
  simp only [rowCells, List.mem_map, List.mem_range]
  constructor
  · rintro ⟨j, hj, rfl⟩
    omega
  · intro h
    exact ⟨i.toNat, by omega, by omega⟩

/-- **Reading by name.** Whatever else the server does and however its writes fall between the reads of a
client, the data that `irsdk_getNewData` returns have, at the offset that the client finds for a name, the
values that the variable had in the program at one poll. It is a poll no older than the newest one that
was finished when the client began. -/
theorem read_by_name (isInitialized : Bool) (calls : List (Call F α V))
    (hcalls : ∀ call ∈ calls, call.IsValid) (data : ℤ → V) (before inside : List (NewData.Action ℤ V)) {result : Bool}
    (t : MemServer F α V) (ht : t = run (step scale) (init isInitialized) calls)
    (hfinal : t.isHeaderFinalized = true)
    (start s : System ℤ V)
    (hstart : start = run (NewData.step bufCount (rowCells t.pHeader.bufLen))
      (NewData.init (fun _ _ => 0) data) before)
    (hs : s = run (NewData.step bufCount (rowCells t.pHeader.bufLen)) start (.call true :: inside))
    (hserver : (before ++ .call true :: inside).filter isServer <+:
      (init isInitialized : MemServer F α V).serverActions scale calls)
    (hready : start.client.place = .returned result) (hinside : ∀ a ∈ inside, ¬ IsCall a)
    (hcommits : commits inside ≤ 1) (hdone : s.client.place = .returned true) :
    ∃ polled program later, calls = polled ++ .pollSampleVars program :: later ∧
      s.client.lastTickCount = (run (step scale) (init isInitialized) polled).count ∧
      commits before ≤ s.client.lastTickCount + 1 ∧
      ∀ v ∈ (run (step scale) (init isInitialized) polled).vars, ∀ varPtr, v.helper.varPtr = some varPtr →
        ∀ n : Nat, n < v.header.count →
          load s.client.data (irsdk_varNameToOffset t.pHeader v.header.name + v.header.type.bytes * n)
            v.header.type.bytes = v.value scale fun j => program varPtr (v.header.type.bytes * n + j) := by
  have hs' : s = run (NewData.step bufCount (rowCells t.pHeader.bufLen)) (NewData.init (fun _ _ => 0) data)
      (before ++ .call true :: inside) := by rw [run_append, ← hstart, ← hs]
  have ht' : t.registry.Laid := ht ▸ laid_run scale (laid_init isInitialized) hcalls
  have hshared : t.pHeader.bufLen = t.bufLen := (ht'.shared hfinal).2
  have hbufLen : t.bufLen < bufLength := ht'.bufLen.2
  obtain ⟨hfinished, k, hlast, hnewest, hk, hcopied⟩ := copied_of_returned (by decide : 1 < bufCount)
    (rowCells t.pHeader.bufLen) (fun _ _ => 0) data before inside (by rw [← hstart]; exact hready) hinside
    (by rw [← hs']; exact hdone)
  rw [← hs'] at hfinished hlast hk hcopied
  -- At most one image was finished meanwhile, so all cells are those of one image.
  have hbound : s.mem.count < k + bufCount := by
    rw [bufCount]
    omega
  obtain ⟨image, himage⟩ : ∃ image, s.mem.images[k]? = some image :=
    ⟨_, List.getElem?_eq_getElem hk⟩
  have hdata : ∀ i ∈ rowCells t.pHeader.bufLen, s.client.data i = image i :=
    fun i hi => hcopied i hi hbound image himage
  -- The ring of the client is a part of the ring of all calls.
  have hcalled : (ringAfter scale isInitialized calls).images[k]? = some image := by
    rw [hs', mem_run] at himage
    obtain ⟨rest, hrest⟩ := hserver
    obtain ⟨more, hmore⟩ := images_run bufCount (run (serverStep bufCount)
      (NewData.init (fun _ _ => 0) data).mem ((before ++ .call true :: inside).filter isServer)) rest
    rw [← run_append, hrest] at hmore
    rw [ringAfter]
    change (run (serverStep bufCount) (NewData.init (fun _ _ => 0) data).mem _).images[k]? = some image
    rw [← hmore, List.getElem?_append_left (List.getElem?_eq_some_iff.mp himage).1, himage]
  obtain ⟨polled, program, later, rfl, hinit, hcount, hrow⟩ := image_of_poll scale isInitialized hcalls hcalled
  have hpolled : ∀ call ∈ polled, call.IsValid := fun call hcall => hcalls call (List.mem_append_left _ hcall)
  have hu := laid_run scale (laid_init isInitialized) hpolled
  refine ⟨polled, program, later, rfl, hlast.trans hcount.symm, ?_, fun v hv varPtr hvar n hn => ?_⟩
  · rw [count_run] at hnewest
    rw [hlast]
    simp only [NewData.init, Ring.init, Ring.count, List.length_nil, Nat.zero_add] at hnewest
    omega
  · have hrec : v.header ∈ t.headers := by
      rw [ht, run_append]
      exact (later_run scale _ _).headers.subset (List.mem_map_of_mem hv)
    obtain ⟨hoffset, hcount, hend⟩ := ht'.within _ hrec
    rw [varNameToOffset_of_mem ht' hfinal hrec]
    have hlen : ((v.header.type.bytes * v.header.count.toNat : Nat) : ℤ) = v.header.len := by
      rw [Nat.cast_mul, Int.toNat_of_nonneg hcount, VarHeader.len]
    have hcells (address : ℤ) (hlow : v.header.offset ≤ address)
        (hhigh : address < v.header.offset + (v.header.type.bytes * v.header.count.toNat : Nat)) :
        0 ≤ address ∧ address < t.bufLen := by
      change v.header.offset + v.header.len ≤ t.bufLen at hend
      omega
    have hload : load s.client.data v.header.offset (v.header.type.bytes * v.header.count.toNat) =
        v.values scale v.header.count.toNat (program varPtr) := by
      rw [← load_pollStores scale hu hv hvar program
        (run (step scale) (init isInitialized) polled).sharedMem
        (bufOffset (run (step scale) (init isInitialized) polled).curBuf), ← load_row]
      refine load_congr fun address hlow hhigh => ?_
      obtain ⟨hnonneg, hlt⟩ := hcells address hlow hhigh
      rw [hdata address (mem_rowCells.mpr ⟨hnonneg, hlt.trans_eq hshared.symm⟩),
        hrow address hnonneg (hlt.trans hbufLen), run_append, run_cons, run_nil, step, pollSampleVars,
        if_pos hinit]
    exact load_value scale v hload (by omega)

end

/-- One variable, polled once, and then read. -/
def speedCalls : List (Call ℤ Unit Nat) :=
  [.regVar "Speed".toList (some ()) .float 1 [] [] 1 0, .finalizeHeader, .pollSampleVars fun _ j => j + 7]

def speedServer : MemServer ℤ Unit Nat := run (step fun _ _ _ pSource => pSource) (init true) speedCalls

/-- The client calls before the poll, and is told to wait for news. -/
def speedActions : List (NewData.Action ℤ Nat) :=
  .setStatus true :: .call true :: List.replicate 8 .read ++
    ((init true : MemServer ℤ Unit Nat).serverActions (fun _ _ _ pSource => pSource) speedCalls).drop 1

def speedStart : System ℤ Nat :=
  run (NewData.step bufCount (rowCells speedServer.pHeader.bufLen)) (NewData.init (fun _ _ => 0) fun _ => 0)
    speedActions

def speedRead : System ℤ Nat :=
  run (NewData.step bufCount (rowCells speedServer.pHeader.bufLen)) speedStart
    (.call true :: List.replicate 12 .read)

theorem read_by_name_speed :
    ∃ polled program later, speedCalls = polled ++ .pollSampleVars program :: later ∧
      speedRead.client.lastTickCount = (run (step fun _ _ _ pSource => pSource) (init true) polled).count ∧
      commits speedActions ≤ speedRead.client.lastTickCount + 1 ∧
      ∀ v ∈ (run (step fun _ _ _ pSource => pSource) (init true) polled).vars, ∀ varPtr,
        v.helper.varPtr = some varPtr → ∀ n : Nat, n < v.header.count →
          load speedRead.client.data
            (irsdk_varNameToOffset speedServer.pHeader v.header.name + v.header.type.bytes * n)
            v.header.type.bytes =
          v.value (fun _ _ _ pSource => pSource) fun j => program varPtr (v.header.type.bytes * n + j) := by
  have hvalid : ∀ call ∈ speedCalls, call.IsValid := by
    simp [speedCalls, Call.IsValid, VarType.bytes, irsdkMaxString, bufLength, irsdkMaxVars, NewData.intMax]
  exact read_by_name (fun _ _ _ pSource => pSource) true speedCalls hvalid (fun _ => 0) speedActions
    (List.replicate 12 .read) speedServer rfl rfl speedStart speedRead rfl rfl ⟨[], rfl⟩ rfl (by decide)
    (by decide) rfl

end IrPitCrew.MemServer
