import IrPitCrew.Irsdk.Registry
import IrPitCrew.Irsdk.Snapshots

/-!
# The rows in the shared memory

The server writes bytes at addresses. To its clients there is a ring of three
rows, and in a row that was polled each variable has the values that it had in
the program.
-/

open IrPitCrew.Text IrPitCrew.Memory IrPitCrew.Run

namespace IrPitCrew.MemServer

variable {F α V : Type*}

/-! ## The values of a variable -/

section

variable [DecidableEq F] [One F] [Zero F] (scale : VarType → F → F → (Nat → V) → Nat → V)

/-- One value: scaled, or copied. -/
def Var.value (v : Var F α) (pSource : Nat → V) : List V :=
  if isScaled v.header.type v.helper.multiplier v.helper.offset then
    element scale v.header.type v.helper.multiplier v.helper.offset pSource
  else (List.range v.header.type.bytes).map pSource

def Var.values (v : Var F α) : Nat → (Nat → V) → List V
  | 0, _ => []
  | count + 1, pSource =>
    v.value scale pSource ++ v.values count (fun j => pSource (v.header.type.bytes + j))

omit [DecidableEq F] [One F] [Zero F] in
theorem length_element (type : VarType) (multiplier offset : F) (pSource : Nat → V) :
    (element scale type multiplier offset pSource).length = type.bytes := by
  cases type <;> exact (List.length_map _).trans (List.length_range)

theorem length_value (v : Var F α) (pSource : Nat → V) :
    (v.value scale pSource).length = v.header.type.bytes := by
  unfold Var.value
  split
  · exact length_element scale _ _ _ _
  · rw [List.length_map, List.length_range]

theorem length_values (v : Var F α) (count : Nat) (pSource : Nat → V) :
    (v.values scale count pSource).length = v.header.type.bytes * count := by
  induction count generalizing pSource with
  | zero => rfl
  | succ count ih =>
    rw [Var.values, List.length_append, length_value, ih]
    ring

/-- The loop and the copy of the whole array are the same stores. -/
theorem write_eq (v : Var F α) (var : Nat → V) (pBase : ℤ) :
    v.write scale var pBase =
      stores (pBase + v.header.offset) (v.values scale v.header.count.toNat var) := by
  unfold Var.write writeVar
  generalize pBase + v.header.offset = pDest
  split
  · split
    · rename_i hscaled
      induction v.header.count.toNat generalizing var pDest with
      | zero => rfl
      | succ count ih =>
        rw [writeElements, Var.values, stores_append, length_value, ih, Var.value, if_pos hscaled]
    · rename_i hplain
      congr 1
      induction v.header.count.toNat generalizing var with
      | zero => rfl
      | succ count ih =>
        rw [Var.values, ← ih, Var.value, if_neg hplain, Nat.mul_succ, Nat.add_comm, List.range_add,
          List.map_append, List.map_map]
        rfl
  · rename_i hcount
    rw [Int.toNat_of_nonpos (not_lt.mp hcount)]
    rfl

/-- A value of an array that was loaded. -/
theorem load_value (v : Var F α) {m : ℤ → V} {base : ℤ} {count : Nat} {pSource : Nat → V}
    (h : load m base (v.header.type.bytes * count) = v.values scale count pSource) {n : Nat} (hn : n < count) :
    load m (base + v.header.type.bytes * n) v.header.type.bytes =
      v.value scale (fun j => pSource (v.header.type.bytes * n + j)) := by
  induction count generalizing base pSource n with
  | zero => exact absurd hn (Nat.not_lt_zero n)
  | succ count ih =>
    rw [Nat.mul_succ, Nat.add_comm, load_add, Var.values] at h
    obtain ⟨hfirst, hrest⟩ := List.append_inj h (by rw [length_load, length_value])
    cases n with
    | zero =>
      rw [Nat.cast_zero, mul_zero, add_zero, hfirst]
      simp only [Nat.mul_zero, Nat.zero_add]
    | succ n =>
      have hvalue := ih hrest (Nat.lt_of_succ_lt_succ hn)
      simp only [← Nat.add_assoc] at hvalue
      rw [Nat.mul_succ, Nat.add_comm (v.header.type.bytes * n), ← hvalue]
      congr 1
      push_cast
      ring

/-! ## A row that is polled -/

/-- The blocks that a poll stores. -/
def blocks (vars : List (Var F α)) (program : α → Nat → V) (pBase : ℤ) : List (ℤ × List V) :=
  vars.filterMap fun v => v.helper.varPtr.map fun varPtr =>
    (pBase + v.header.offset, v.values scale v.header.count.toNat (program varPtr))

theorem pollStores_eq (vars : List (Var F α)) (program : α → Nat → V) (pBase : ℤ) :
    pollStores scale vars program pBase = (blocks scale vars program pBase).flatMap fun b => stores b.1 b.2 := by
  induction vars with
  | nil => rfl
  | cons v vars ih =>
    rw [pollStores, List.flatMap_cons, ← pollStores, ih, blocks, blocks, List.filterMap_cons]
    cases v.helper.varPtr with
    | none => rfl
    | some varPtr =>
      rw [Option.map_some, Option.getD_some, write_eq]
      rfl

theorem length_values_eq (v : Var F α) (hcount : 0 ≤ v.header.count) (pSource : Nat → V) :
    ((v.values scale v.header.count.toNat pSource).length : ℤ) = v.header.len := by
  rw [length_values, VarHeader.len, Nat.cast_mul, Int.toNat_of_nonneg hcount]

theorem pairwise_blocks {vars : List (Var F α)}
    (hapart : (vars.map Var.header).Pairwise fun rec rec' => rec.offset + rec.len ≤ rec'.offset)
    (hcount : ∀ rec ∈ vars.map Var.header, 0 ≤ rec.count) (program : α → Nat → V) (pBase : ℤ) :
    (blocks scale vars program pBase).Pairwise fun (b b' : ℤ × List V) => b.1 + b.2.length ≤ b'.1 := by
  rw [List.pairwise_map] at hapart
  rw [blocks, List.pairwise_filterMap]
  refine hapart.imp_of_mem ?_
  intro v v' hv _ h b hb b' hb'
  obtain ⟨varPtr, -, rfl⟩ := Option.map_eq_some_iff.mp hb
  obtain ⟨varPtr', -, rfl⟩ := Option.map_eq_some_iff.mp hb'
  have hlen := length_values_eq scale v (hcount _ (List.mem_map_of_mem hv)) (program varPtr)
  dsimp only
  omega

/-- What a poll leaves in the place of a variable. -/
theorem load_pollStores {s : MemServer F α V} (h : s.registry.Laid) {v : Var F α} (hv : v ∈ s.vars)
    {varPtr : α} (hvar : v.helper.varPtr = some varPtr) (program : α → Nat → V) (m : ℤ → V) (pBase : ℤ) :
    load (Memory.apply m (pollStores scale s.vars program pBase)) (pBase + v.header.offset)
      (v.header.type.bytes * v.header.count.toNat) =
      v.values scale v.header.count.toNat (program varPtr) := by
  have hblock : (pBase + v.header.offset, v.values scale v.header.count.toNat (program varPtr)) ∈
      blocks scale s.vars program pBase :=
    List.mem_filterMap.mpr ⟨v, hv, by rw [hvar, Option.map_some]⟩
  have hload := load_blocks (pairwise_blocks scale h.apart (fun rec hrec => (h.within rec hrec).2.1)
    program pBase) hblock m
  rw [length_values] at hload
  rw [pollStores_eq]
  exact hload

/-! ## Stores of a call into its row -/

theorem write_add (v : Var F α) (var : Nat → V) (distance pBase : ℤ) :
    v.write scale var (distance + pBase) = shift distance (v.write scale var pBase) := by
  rw [write_eq, write_eq, add_assoc, stores_add]

theorem pollStores_add (vars : List (Var F α)) (program : α → Nat → V) (distance pBase : ℤ) :
    pollStores scale vars program (distance + pBase) = shift distance (pollStores scale vars program pBase) := by
  induction vars with
  | nil => rfl
  | cons v vars ih =>
    rw [pollStores, pollStores, List.flatMap_cons, List.flatMap_cons, ← pollStores, ← pollStores, ih]
    cases v.helper.varPtr with
    | none => rfl
    | some varPtr =>
      rw [Option.map_some, Option.getD_some, Option.map_some, Option.getD_some, write_add, shift, shift,
        shift, List.map_append]

theorem within_write {v : Var F α} {bufLen : ℤ} (h : 0 ≤ v.header.offset ∧ 0 ≤ v.header.count ∧
    v.header.offset + v.header.len ≤ bufLen) (var : Nat → V) : Within 0 bufLen (v.write scale var 0) := by
  rw [write_eq, zero_add]
  refine (within_stores _ _).mono h.1 ?_
  rw [length_values_eq scale v h.2.1]
  exact h.2.2

theorem within_pollStores {s : MemServer F α V} (h : s.registry.Laid) (program : α → Nat → V) :
    Within 0 s.bufLen (pollStores scale s.vars program 0) := by
  intro store hstore
  obtain ⟨v, hv, hstore⟩ := List.mem_flatMap.mp hstore
  cases hvar : v.helper.varPtr with
  | none =>
    rw [hvar] at hstore
    exact absurd hstore List.not_mem_nil
  | some varPtr =>
    rw [hvar] at hstore
    exact within_write scale (h.within _ (List.mem_map_of_mem hv)) (program varPtr) store hstore

end

end IrPitCrew.MemServer
