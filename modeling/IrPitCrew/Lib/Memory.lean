import Mathlib.Data.List.Basic
import Mathlib.Logic.Function.Basic
import Mathlib.Tactic.Common
import Mathlib.Algebra.Order.Group.Int

/-!
# Memory

A memory has a value at each address. Stores are done one after the other, and a
block is loaded from an address on.
-/

namespace IrPitCrew.Memory

variable {V : Type*}

/-- Stores, the first one first. -/
def apply (m : ℤ → V) (ss : List (ℤ × V)) : ℤ → V := ss.foldl (fun m s => Function.update m s.1 s.2) m

/-- The stores of a block. -/
def stores (base : ℤ) : List V → List (ℤ × V)
  | [] => []
  | v :: vs => (base, v) :: stores (base + 1) vs

def load (m : ℤ → V) (base : ℤ) (n : Nat) : List V := (List.range n).map fun j : Nat => m (base + j)

@[simp] theorem apply_nil (m : ℤ → V) : apply m [] = m := rfl

@[simp] theorem apply_cons (m : ℤ → V) (s : ℤ × V) (ss : List (ℤ × V)) :
    apply m (s :: ss) = apply (Function.update m s.1 s.2) ss := rfl

theorem apply_append (m : ℤ → V) (ss ts : List (ℤ × V)) : apply m (ss ++ ts) = apply (apply m ss) ts :=
  List.foldl_append

@[simp] theorem length_load (m : ℤ → V) (base : ℤ) (n : Nat) : (load m base n).length = n := by
  simp [load]

theorem load_congr {m m' : ℤ → V} {base : ℤ} {n : Nat}
    (h : ∀ address, base ≤ address → address < base + n → m address = m' address) :
    load m base n = load m' base n := by
  apply List.map_congr_left
  intro j hj
  rw [List.mem_range] at hj
  exact h _ (by omega) (by omega)

theorem load_succ (m : ℤ → V) (base : ℤ) (n : Nat) :
    load m base (n + 1) = m base :: load m (base + 1) n := by
  rw [load, List.range_succ_eq_map, List.map_cons, List.map_map]
  congr 1
  · simp
  · apply List.map_congr_left
    intro j _
    simp only [Function.comp_apply]
    congr 1
    omega

theorem load_add (m : ℤ → V) (base : ℤ) (k n : Nat) :
    load m base (k + n) = load m base k ++ load m (base + k) n := by
  induction k generalizing base with
  | zero => simp [load]
  | succ k ih =>
    rw [Nat.add_right_comm, load_succ, load_succ, ih, List.cons_append]
    congr 3
    omega

/-! ## Stores that do not meet -/

/-- All stores are from `low` on and below `high`. -/
def Within (low high : ℤ) (ss : List (ℤ × V)) : Prop := ∀ s ∈ ss, low ≤ s.1 ∧ s.1 < high

theorem Within.append {low high : ℤ} {ss ts : List (ℤ × V)} (hs : Within low high ss)
    (ht : Within low high ts) : Within low high (ss ++ ts) := by
  intro s h
  exact (List.mem_append.mp h).elim (hs s) (ht s)

theorem Within.mono {low high low' high' : ℤ} {ss : List (ℤ × V)} (h : Within low high ss)
    (hlow : low' ≤ low) (hhigh : high ≤ high') : Within low' high' ss := by
  intro s hs
  obtain ⟨h₁, h₂⟩ := h s hs
  exact ⟨hlow.trans h₁, h₂.trans_le hhigh⟩

theorem within_stores (base : ℤ) (vs : List V) : Within base (base + vs.length) (stores base vs) := by
  induction vs generalizing base with
  | nil => exact fun s hs => absurd hs List.not_mem_nil
  | cons v vs ih =>
    intro s hs
    rw [List.length_cons]
    rcases List.mem_cons.mp hs with rfl | hs
    · exact ⟨le_rfl, by dsimp only; omega⟩
    · obtain ⟨h₁, h₂⟩ := ih (base + 1) s hs
      exact ⟨by omega, by omega⟩

/-- Stores change only where they store. -/
theorem apply_of_forall_ne {address : ℤ} {ss : List (ℤ × V)} (h : ∀ s ∈ ss, s.1 ≠ address) (m : ℤ → V) :
    apply m ss address = m address := by
  induction ss generalizing m with
  | nil => rfl
  | cons s ss ih =>
    rw [apply_cons, ih (fun t ht => h t (List.mem_cons_of_mem _ ht)),
      Function.update_of_ne (h s List.mem_cons_self).symm]

/-- What is at an address after stores depends on what was there alone. -/
theorem apply_congr {m m' : ℤ → V} {address : ℤ} (h : m address = m' address) (ss : List (ℤ × V)) :
    apply m ss address = apply m' ss address := by
  induction ss generalizing m m' with
  | nil => exact h
  | cons s ss ih =>
    rw [apply_cons, apply_cons]
    refine ih ?_
    by_cases hs : address = s.1
    · rw [hs, Function.update_self, Function.update_self]
    · rw [Function.update_of_ne hs, Function.update_of_ne hs, h]

theorem apply_of_within {low high address : ℤ} {ss : List (ℤ × V)} (h : Within low high ss)
    (haddress : address < low ∨ high ≤ address) (m : ℤ → V) : apply m ss address = m address := by
  refine apply_of_forall_ne (fun s hs => ?_) m
  obtain ⟨h₁, h₂⟩ := h s hs
  omega

/-! ## A block -/

/-- What was stored as a block is loaded. -/
theorem load_stores (m : ℤ → V) (base : ℤ) (vs : List V) :
    load (apply m (stores base vs)) base vs.length = vs := by
  induction vs generalizing m base with
  | nil => rfl
  | cons v vs ih =>
    rw [List.length_cons, load_succ, stores, apply_cons, ih,
      apply_of_within (within_stores (base + 1) vs) (.inl (by omega)), Function.update_self]

theorem stores_append (base : ℤ) (vs ws : List V) :
    stores base (vs ++ ws) = stores base vs ++ stores (base + vs.length) ws := by
  induction vs generalizing base with
  | nil => simp [stores]
  | cons v vs ih =>
    rw [List.cons_append, stores, stores, ih, List.cons_append, List.length_cons]
    congr 3
    omega

/-- The same stores, further up. -/
def shift (distance : ℤ) (ss : List (ℤ × V)) : List (ℤ × V) := ss.map fun s => (distance + s.1, s.2)

theorem stores_add (distance base : ℤ) (vs : List V) :
    stores (distance + base) vs = shift distance (stores base vs) := by
  induction vs generalizing base with
  | nil => rfl
  | cons v vs ih =>
    rw [stores, stores, shift, List.map_cons, add_assoc, ih]
    rfl

/-- Stores to one part of the memory, seen from its start. -/
theorem apply_shift (m : ℤ → V) (distance address : ℤ) (ss : List (ℤ × V)) :
    apply m (shift distance ss) (distance + address) = apply (fun i => m (distance + i)) ss address := by
  induction ss generalizing m with
  | nil => rfl
  | cons s ss ih =>
    have hupdate : (fun i => Function.update m (distance + s.1) s.2 (distance + i)) =
        Function.update (fun i => m (distance + i)) s.1 s.2 := by
      funext i
      by_cases hi : i = s.1
      · rw [hi, Function.update_self, Function.update_self]
      · rw [Function.update_of_ne (by omega), Function.update_of_ne hi]
    rw [shift, List.map_cons, apply_cons, apply_cons, ← hupdate]
    exact ih _

/-- Blocks that do not meet, lower ones first: each one is loaded as it was stored. -/
theorem load_blocks {blocks : List (ℤ × List V)}
    (h : blocks.Pairwise fun (b b' : ℤ × List V) => b.1 + b.2.length ≤ b'.1) {b : ℤ × List V} (hb : b ∈ blocks)
    (m : ℤ → V) : load (apply m (blocks.flatMap fun b => stores b.1 b.2)) b.1 b.2.length = b.2 := by
  induction blocks generalizing m with
  | nil => exact absurd hb List.not_mem_nil
  | cons first blocks ih =>
    obtain ⟨habove, h⟩ := List.pairwise_cons.mp h
    rw [List.flatMap_cons, apply_append]
    rcases List.mem_cons.mp hb with rfl | hb
    · have hkeep (address : ℤ) (hlow : b.1 ≤ address) (hhigh : address < b.1 + b.2.length) :
          apply (apply m (stores b.1 b.2)) (blocks.flatMap fun b => stores b.1 b.2) address =
            apply m (stores b.1 b.2) address := by
        refine apply_of_forall_ne (fun s hs => ?_) _
        obtain ⟨b', hb', hs⟩ := List.mem_flatMap.mp hs
        have hapart := habove b' hb'
        have hwithin := within_stores b'.1 b'.2 s hs
        omega
      rw [load_congr hkeep, load_stores]
    · exact ih h hb _

theorem Within.shift {low high : ℤ} {ss : List (ℤ × V)} (h : Within low high ss) (distance : ℤ) :
    Within (distance + low) (distance + high) (shift distance ss) := by
  intro s hs
  obtain ⟨t, ht, rfl⟩ := List.mem_map.mp hs
  obtain ⟨h₁, h₂⟩ := h t ht
  exact ⟨by dsimp only; omega, by dsimp only; omega⟩

end IrPitCrew.Memory
