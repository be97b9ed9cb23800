import IrPitCrew.Irsdk.CallEnds
import Mathlib.Logic.Function.Iterate

/-!
# A call that is overtaken

The tick of a buffer says nothing while the simulator fills it: a call during
which `N - 1` images are finished can return a mixture of two images.
-/

open IrPitCrew.Run

namespace IrPitCrew.NewData

variable {ι V : Type*} [DecidableEq ι]

/-! ## Reads while nothing else happens -/

theorem run_reads (N : Nat) (cells : List ι) (s : System ι V) (n : Nat) :
    run (step N cells) s (List.replicate n .read) =
      { s with client := (Client.read N cells s.mem)^[n] s.client } := by
  induction n generalizing s with
  | zero => rfl
  | succ n ih =>
    rw [List.replicate_succ, run_cons, ih]
    rfl

/-- The first buffer stays the latest one, when no other is newer. -/
theorem read_scan {N : Nat} (cells : List ι) {mem : Ring ι V} (hmem : ∀ i, mem.tick i ≤ mem.tick 0)
    (c : Client ι V) (n i : Nat) (hi : i + n = N) :
    (Client.read N cells mem)^[2 * n + 1] { c with place := .scan 0 i } = { c with place := .newer 0 } := by
  induction n generalizing i with
  | zero =>
    have hend : ¬ i < N := by omega
    simp [Client.read, hend]
  | succ n ih =>
    have hreads : 2 * (n + 1) + 1 = 2 * n + 1 + 2 := by omega
    have hstep : (Client.read N cells mem)^[2] { c with place := .scan 0 i } =
        { c with place := .scan 0 (i + 1) } := by
      have hlt : i < N := by omega
      have hle : ¬ mem.tick 0 < mem.tick i := Int.not_lt.mpr (hmem i)
      simp [Client.read, hlt, hle]
    rw [hreads, Function.iterate_add_apply, hstep]
    exact ih (i + 1) (by omega)

/-- A call with news begins to copy. -/
theorem read_newer (N : Nat) (cells : List ι) {mem : Ring ι V} (htick : mem.tick 0 = 0) {c : Client ι V}
    (hlast : c.lastTickCount = -1) (hdata : c.hasData = true) :
    (Client.read N cells mem)^[2] { c with place := .newer 0 } =
      { c with place := .copy 0 0 0 cells } := by
  simp [Client.read, htick, hlast, hdata]

/-! ## Images while the client waits -/

theorem run_commits (N : Nat) (cells : List ι) (s : System ι V) (n : Nat) :
    run (step N cells) s (List.replicate n .commit) =
      { s with mem := (Ring.commit N)^[n] s.mem } := by
  induction n generalizing s with
  | zero => rfl
  | succ n ih =>
    rw [List.replicate_succ, run_cons, ih]
    rfl

omit [DecidableEq ι] in
theorem count_commits (N n : Nat) (mem : Ring ι V) :
    ((Ring.commit N)^[n] mem).count = mem.count + n := by
  induction n generalizing mem with
  | zero => rfl
  | succ n ih =>
    rw [Function.iterate_succ_apply, ih, Ring.count_commit]
    omega

omit [DecidableEq ι] in
/-- The simulator does not come back to the first buffer. -/
theorem tick_commits {N n : Nat} {mem : Ring ι V} (hmem : 0 < mem.count) (hn : mem.count + n ≤ N) :
    ((Ring.commit N)^[n] mem).tick 0 = mem.tick 0 := by
  induction n generalizing mem with
  | zero => rfl
  | succ n ih =>
    have hcurrent : 0 ≠ mem.current N := by
      rw [Ring.current, Nat.mod_eq_of_lt (by omega)]
      omega
    rw [Function.iterate_succ_apply, ih (by rw [Ring.count_commit]; omega)
      (by rw [Ring.count_commit]; omega), Ring.tick_commit_of_ne mem hcurrent]

omit [DecidableEq ι] in
theorem image_commits {N n : Nat} {mem : Ring ι V} {image : ι → V}
    (h : image ∈ ((Ring.commit N)^[n] mem).images) : image ∈ mem.images ∨ ∃ b, image = mem.cell b := by
  induction n generalizing mem with
  | zero => exact .inl h
  | succ n ih =>
    rw [Function.iterate_succ_apply] at h
    rcases ih h with hmem | hcell
    · rcases List.mem_append.mp hmem with hold | hnew
      · exact .inl hold
      · exact .inr ⟨_, List.mem_singleton.mp hnew⟩
    · exact .inr hcell

/-! ## The run -/

/-- A call without news sets the last tick. -/
def beforeTorn (N : Nat) : List (Action Bool Bool) :=
  .setStatus true :: .call true :: List.replicate (2 * (N - 1) + 1) .read ++
    [.read, .read, .read, .commit]

/-- The second cell is copied after the simulator has come back and filled it. -/
def insideTorn (N : Nat) : List (Action Bool Bool) :=
  List.replicate (2 * (N - 1) + 1) .read ++ [.read, .read, .read] ++
    List.replicate (N - 1) .commit ++ [.write true true, .read, .read]

/-- Before the second call, nothing but the first image is there. -/
def tornStart (N : Nat) : System Bool Bool where
  mem := (Ring.init fun _ _ => false).commit N
  connected := true
  client := { place := .returned false, lastTickCount := -1, hasData := true, data := fun _ => false }

theorem run_beforeTorn {N : Nat} (hN : 1 < N) :
    run (step N [false, true]) (init (fun _ _ => false) fun _ => false) (beforeTorn N) = tornStart N := by
  have hinit : ∀ i, (Ring.init fun _ (_ : Bool) => false).tick i ≤
      (Ring.init fun _ (_ : Bool) => false).tick 0 := fun _ => Int.le_refl _
  have hscan := read_scan [false, true] hinit { hasData := true, data := fun _ => false } (N - 1) 1
    (show 1 + (N - 1) = N by omega)
  unfold beforeTorn
  rw [List.cons_append, List.cons_append, run_cons, run_cons, run_append, run_reads]
  unfold step init Client.call
  simp only [if_true]
  rw [hscan]
  rfl

/-- The first cell is copied, and then the simulator finishes the images up to the first buffer. -/
theorem run_insideTorn {N : Nat} (hN : 1 < N) :
    run (step N [false, true]) (tornStart N) (.call true :: insideTorn N) =
      { mem := ((Ring.commit N)^[N - 1] (tornStart N).mem).write N true true
        connected := true
        client := { place := .returned true, lastTickCount := 0, hasData := true, data := id } } := by
  have htick : (tornStart N).mem.tick 0 = 0 := by
    have hcurrent : (0 : Nat) = (Ring.init fun _ (_ : Bool) => false).current N := (Nat.zero_mod N).symm
    exact (congrArg _ hcurrent).trans (Ring.tick_commit_current N _)
  have hstart : ∀ i, (tornStart N).mem.tick i ≤ (tornStart N).mem.tick 0 := by
    intro i
    rw [htick]
    have hbound := ((Ring.marked_init N fun _ (_ : Bool) => false).commit (Nat.lt_of_succ_lt hN)).bound i
    have hcount : ((Ring.init fun _ (_ : Bool) => false).commit N).count = 1 := rfl
    rw [hcount] at hbound
    exact Int.lt_add_one_iff.mp hbound.2
  have hscan := read_scan [false, true] hstart (tornStart N).client (N - 1) 1
    (show 1 + (N - 1) = N by omega)
  have hcommits : ((Ring.commit N)^[N - 1] (tornStart N).mem).tick 0 = 0 := by
    have hcount : (tornStart N).mem.count = 1 := rfl
    rw [tick_commits (by omega) (by omega), htick]
  have hcurrent : ((Ring.commit N)^[N - 1] (tornStart N).mem).current N = 0 := by
    have hcount : (tornStart N).mem.count = 1 := rfl
    rw [Ring.current, count_commits, hcount, Nat.add_sub_cancel' (Nat.le_of_lt hN), Nat.mod_self]
  have hcopy : (Client.read N [false, true] (tornStart N).mem)^[3]
      { (tornStart N).client with place := .newer 0 } =
      { (tornStart N).client with
        data := Function.update (fun _ => false) false false
        place := .copy 0 0 0 [true] } := by
    rw [Function.iterate_succ_apply', read_newer N [false, true] htick rfl rfl]
    rfl
  have hcall : step N [false, true] (tornStart N) (.call true) =
      { tornStart N with client := { (tornStart N).client with place := .scan 0 1 } } := rfl
  rw [run_cons, insideTorn, run_append, run_append, run_append, run_reads, hcall]
  simp only
  rw [hscan, show [Action.read, .read, .read] = List.replicate 3 (.read : Action Bool Bool) from rfl,
    run_reads]
  simp only
  rw [hcopy, run_commits]
  have hcell : (((Ring.commit N)^[N - 1] (tornStart N).mem).write N true true).cell 0 true = true := by
    have hwritten := Ring.cell_write_current N ((Ring.commit N)^[N - 1] (tornStart N).mem) true true
    rwa [hcurrent] at hwritten
  have hdata : Function.update (Function.update (fun _ => false) false false) true true = id := by
    funext b
    cases b <;> rfl
  simp only [run_cons, run_nil, step, Client.read, Ring.tick_write, hcommits, hcell, hdata, if_true]
  rfl

/-- **Torn read.** For every number of buffers there is a run with `N - 1` images finished in a call
that returns true with data of no image. -/
theorem torn_read {N : Nat} (hN : 1 < N) :
    ∃ before inside : List (Action Bool Bool),
      let start := run (step N [false, true]) (init (fun _ _ => false) fun _ => false) before
      let s := run (step N [false, true]) start (.call true :: inside)
      start.client.place = .returned false ∧ (∀ a ∈ inside, ¬ IsCall a) ∧ commits inside + 1 = N ∧
        s.client.place = .returned true ∧ ∀ image ∈ s.mem.images, s.client.data true ≠ image true := by
  refine ⟨beforeTorn N, insideTorn N, ?_⟩
  dsimp only
  rw [run_beforeTorn hN, run_insideTorn hN]
  refine ⟨rfl, ?_, ?_, rfl, ?_⟩
  · intro a ha
    simp only [insideTorn, List.mem_append, List.mem_replicate, List.mem_cons, List.not_mem_nil,
      or_false] at ha
    rcases ha with ((⟨-, rfl⟩ | rfl | rfl | rfl) | ⟨-, rfl⟩) | rfl | rfl | rfl <;> exact id
  · simp only [commits, insideTorn, List.countP_append, List.countP_replicate]
    simp
    omega
  · intro image himage
    rcases image_commits himage with hfirst | ⟨b, rfl⟩
    · rw [List.mem_singleton.mp hfirst]
      exact Bool.noConfusion
    · exact Bool.noConfusion

theorem torn_read_three : ∃ before inside : List (Action Bool Bool),
    let start := run (step 3 [false, true]) (init (fun _ _ => false) fun _ => false) before
    let s := run (step 3 [false, true]) start (.call true :: inside)
    start.client.place = .returned false ∧ (∀ a ∈ inside, ¬ IsCall a) ∧ commits inside + 1 = 3 ∧
      s.client.place = .returned true ∧ ∀ image ∈ s.mem.images, s.client.data true ≠ image true :=
  torn_read (by decide)

end IrPitCrew.NewData
