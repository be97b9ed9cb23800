import Mathlib.Data.List.Basic
import Mathlib.Logic.Function.Basic
import Mathlib.Order.Basic
import Mathlib.Tactic.Common

/-!
# A ring of buffers

A writer fills the buffers one after the other, and marks each with the number
of the image that it holds. An image stays in its buffer until the writer comes
back to it.
-/

namespace IrPitCrew

/-- The ring keeps the images that were marked, oldest first. -/
structure Ring (ι V : Type*) where
  cell : Nat → ι → V
  tick : Nat → Int
  images : List (ι → V)

namespace Ring

variable {ι V : Type*}

def count (r : Ring ι V) : Nat := r.images.length

/-- The buffer that the writer fills. -/
def current (N : Nat) (r : Ring ι V) : Nat := r.count % N

def write [DecidableEq ι] (N : Nat) (i : ι) (v : V) (r : Ring ι V) : Ring ι V :=
  { r with cell := Function.update r.cell (r.current N) (Function.update (r.cell (r.current N)) i v) }

def commit (N : Nat) (r : Ring ι V) : Ring ι V where
  cell := r.cell
  tick := Function.update r.tick (r.current N) r.count
  images := r.images ++ [r.cell (r.current N)]

@[simp] theorem tick_write [DecidableEq ι] (N : Nat) (i : ι) (v : V) (r : Ring ι V) :
    (r.write N i v).tick = r.tick := rfl

@[simp] theorem images_write [DecidableEq ι] (N : Nat) (i : ι) (v : V) (r : Ring ι V) :
    (r.write N i v).images = r.images := rfl

@[simp] theorem count_write [DecidableEq ι] (N : Nat) (i : ι) (v : V) (r : Ring ι V) :
    (r.write N i v).count = r.count := rfl

@[simp] theorem count_commit (N : Nat) (r : Ring ι V) : (r.commit N).count = r.count + 1 := by
  simp [count, commit]

theorem cell_write_of_ne [DecidableEq ι] {N b : Nat} (r : Ring ι V) (h : b ≠ r.current N) (i : ι)
    (v : V) : (r.write N i v).cell b = r.cell b := Function.update_of_ne h _ _

theorem cell_write_current [DecidableEq ι] (N : Nat) (r : Ring ι V) (i : ι) (v : V) :
    (r.write N i v).cell (r.current N) i = v := by
  simp [write]

/-- Writes, the first one first. -/
def writes [DecidableEq ι] (N : Nat) (ss : List (ι × V)) (r : Ring ι V) : Ring ι V :=
  ss.foldl (fun r s => r.write N s.1 s.2) r

theorem writes_eq [DecidableEq ι] (N : Nat) (ss : List (ι × V)) (r : Ring ι V) :
    (r.writes N ss).images = r.images ∧ (r.writes N ss).tick = r.tick ∧
      ∀ b, (r.writes N ss).cell b = if b = r.current N then
        ss.foldl (fun m s => Function.update m s.1 s.2) (r.cell b) else r.cell b := by
  induction ss generalizing r with
  | nil => exact ⟨rfl, rfl, fun b => (ite_self _).symm⟩
  | cons s ss ih =>
    obtain ⟨himages, htick, hcell⟩ := ih (r.write N s.1 s.2)
    refine ⟨himages, htick, fun b => (hcell b).trans ?_⟩
    have hcurrent : (r.write N s.1 s.2).current N = r.current N := rfl
    rw [hcurrent]
    split
    · rename_i hb
      rw [hb, List.foldl_cons]
      simp only [write, Function.update_self]
    · rename_i hb
      exact r.cell_write_of_ne hb _ _

/-! ## Marks -/

/-- What the marks say. -/
structure Marked (N : Nat) (r : Ring ι V) : Prop where
  bound : ∀ b, -1 ≤ r.tick b ∧ r.tick b < r.count
  mark : ∀ b < N, ∀ k : Nat, r.tick b = k → k % N = b ∧ r.count ≤ k + N
  image : ∀ k < r.count, r.count < k + N →
    r.tick (k % N) = k ∧ r.images[k]? = some (r.cell (k % N))

/-- A ring before the first image. -/
def init (cell : Nat → ι → V) : Ring ι V where
  cell := cell
  tick _ := -1
  images := []

theorem marked_init (N : Nat) (cell : Nat → ι → V) : Marked N (init cell) where
  bound b := by
    simp only [init, count, List.length_nil]
    omega
  mark b _ k h := by
    simp only [init] at h
    omega
  image k hk := absurd hk (Nat.not_lt_zero k)

/-- Fewer than `N` images apart, the buffers are different. -/
theorem mod_ne_of_lt {N k n : Nat} (hlt : k < n) (hn : n < k + N) : k % N ≠ n % N := by
  intro h
  have hdvd : N ∣ n - k := Nat.dvd_of_mod_eq_zero (Nat.sub_mod_eq_zero_of_mod_eq h.symm)
  have hle := Nat.le_of_dvd (by omega) hdvd
  omega

theorem Marked.write [DecidableEq ι] {N : Nat} {r : Ring ι V} (h : Marked N r) (i : ι) (v : V) :
    Marked N (r.write N i v) where
  bound := h.bound
  mark := h.mark
  image := by
    intro k hk hN
    obtain ⟨htick, himage⟩ := h.image k hk hN
    rw [cell_write_of_ne r (mod_ne_of_lt hk hN)]
    exact ⟨htick, himage⟩

theorem tick_commit_of_ne {N b : Nat} (r : Ring ι V) (h : b ≠ r.current N) :
    (r.commit N).tick b = r.tick b := Function.update_of_ne h _ _

theorem tick_commit_current (N : Nat) (r : Ring ι V) : (r.commit N).tick (r.current N) = r.count :=
  Function.update_self ..

theorem Marked.commit {N : Nat} {r : Ring ι V} (h : Marked N r) (hN : 0 < N) :
    Marked N (r.commit N) where
  bound := by
    intro b
    rw [count_commit]
    by_cases hb : b = r.current N
    · rw [hb, tick_commit_current]
      omega
    · rw [tick_commit_of_ne r hb]
      have := h.bound b
      omega
  mark := by
    intro b hbN k hk
    rw [count_commit]
    by_cases hb : b = r.current N
    · rw [hb, tick_commit_current] at hk
      have hcount : k = r.count := by omega
      exact ⟨by rw [hcount, hb, current], by omega⟩
    · rw [tick_commit_of_ne r hb] at hk
      obtain ⟨hmod, hle⟩ := h.mark b hbN k hk
      refine ⟨hmod, ?_⟩
      -- The writer was not at this buffer.
      have hne : r.count ≠ k + N := by
        intro hcount
        rw [current, hcount, Nat.add_mod_right, hmod] at hb
        exact hb rfl
      omega
  image := by
    intro k hk hlt
    rw [count_commit] at hk hlt
    rcases Nat.lt_succ_iff_lt_or_eq.mp hk with hk | rfl
    · have hne : k % N ≠ r.current N := mod_ne_of_lt hk (by omega)
      obtain ⟨htick, himage⟩ := h.image k hk (by omega)
      rw [tick_commit_of_ne r hne]
      refine ⟨htick, ?_⟩
      exact (List.getElem?_append_left hk).trans himage
    · refine ⟨tick_commit_current N r, ?_⟩
      exact List.getElem?_concat_length ..

/-! ## What later steps keep -/

/-- The ring later on. -/
structure Later (r r' : Ring ι V) : Prop where
  tick : ∀ b, r.tick b ≤ r'.tick b
  images : r.images <+: r'.images

theorem Later.refl (r : Ring ι V) : Later r r := ⟨fun _ => Int.le_refl _, List.prefix_rfl⟩

theorem Later.trans {r r' r'' : Ring ι V} (h : Later r r') (h' : Later r' r'') : Later r r'' :=
  ⟨fun b => Int.le_trans (h.tick b) (h'.tick b), h.images.trans h'.images⟩

theorem Later.count_le {r r' : Ring ι V} (h : Later r r') : r.count ≤ r'.count := h.images.length_le

theorem Later.image {r r' : Ring ι V} (h : Later r r') {k : Nat} (hk : k < r.count) :
    r'.images[k]? = r.images[k]? := by
  obtain ⟨images, himages⟩ := h.images
  rw [← himages, List.getElem?_append_left hk]

theorem later_write [DecidableEq ι] (N : Nat) (i : ι) (v : V) (r : Ring ι V) :
    Later r (r.write N i v) := ⟨fun _ => Int.le_refl _, List.prefix_rfl⟩

theorem later_commit {N : Nat} {r : Ring ι V} (h : Marked N r) : Later r (r.commit N) := by
  refine ⟨fun b => ?_, List.prefix_append _ _⟩
  by_cases hb : b = r.current N
  · have := h.bound b
    rw [hb, tick_commit_current]
    rw [hb] at this
    omega
  · exact Int.le_of_eq (tick_commit_of_ne r hb).symm

/-- The newest image is in its buffer, or a newer one is. -/
theorem Marked.newest {N : Nat} {r : Ring ι V} (h : Marked N r) (hN : 1 < N) :
    (r.count : Int) ≤ r.tick ((r.count - 1) % N) + 1 := by
  rcases Nat.eq_zero_or_pos r.count with hzero | hpos
  · have := h.bound ((r.count - 1) % N)
    omega
  · obtain ⟨htick, -⟩ := h.image (r.count - 1) (by omega) (by omega)
    omega

/-- A buffer whose mark has changed was filled again. -/
theorem count_of_tick_ne {N : Nat} {r : Ring ι V} (h : Marked N r) {b k : Nat} (hb : b < N)
    (hk : k % N = b) (hlt : (k : Int) < r.tick b) : k + N < r.count := by
  obtain ⟨n, hn⟩ := Int.eq_ofNat_of_zero_le (show 0 ≤ r.tick b by omega)
  obtain ⟨hmod, -⟩ := h.mark b hb n hn
  have hcount := (h.bound b).2
  have hdvd : N ∣ n - k :=
    Nat.dvd_of_mod_eq_zero (Nat.sub_mod_eq_zero_of_mod_eq (hmod.trans hk.symm))
  have hle := Nat.le_of_dvd (by omega) hdvd
  omega

end Ring

end IrPitCrew
