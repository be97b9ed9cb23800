import IrPitCrew.Lib.Decimal
import Mathlib.Algebra.Order.Field.Basic
import Mathlib.Data.List.GetD
import Mathlib.Data.List.MinMax
import Mathlib.Data.List.Sort
import Mathlib.Tactic.Linarith
import Mathlib.Tactic.Ring

/-!
# The median and the median absolute deviation

Both are the middle of a sorted list, where an even length averages the two
middle values. At least one half of the values lie between the smallest one and
the median, so the deviation reaches no farther down than the smallest value, and
no farther up than the largest one.
-/

namespace IrPitCrew.OrderStat

/-! ## Sorting and counting -/

section Sorting

/-- A stretch of `n` values of a list, all with the property, counts for `n`. -/
theorem le_countP_of_stretch {α : Type*} (p : α → Bool) (s : List α) (start n : Nat)
    (hn : start + n ≤ s.length)
    (h : ∀ i (hi : i < s.length), start ≤ i → i < start + n → p s[i] = true) : n ≤ s.countP p := by
  have hlen : ((s.drop start).take n).length = n := by
    rw [List.length_take, List.length_drop]
    omega
  have hall : ((s.drop start).take n).countP p = n := by
    rw [List.countP_eq_length.mpr, hlen]
    intro x hx
    obtain ⟨i, hi, rfl⟩ := List.getElem_of_mem hx
    rw [List.getElem_take, List.getElem_drop]
    exact h _ (by omega) (by omega) (by omega)
  rw [← hall]
  exact List.Sublist.countP_le ((List.take_sublist _ _).trans (List.drop_sublist _ _))

variable {α : Type*} [LinearOrder α]

def sort (l : List α) : List α := l.mergeSort (· ≤ ·)

@[simp] theorem length_sort (l : List α) : (sort l).length = l.length := List.length_mergeSort l

@[simp] theorem mem_sort (l : List α) (x : α) : x ∈ sort l ↔ x ∈ l := List.mem_mergeSort

theorem sorted_sort (l : List α) : (sort l).SortedLE := List.sortedLE_mergeSort

theorem countP_sort (p : α → Bool) (l : List α) : (sort l).countP p = l.countP p :=
  (List.mergeSort_perm l _).countP_eq p

theorem sort_ne_nil (l : List α) (h : l ≠ []) : sort l ≠ [] := by
  rw [← List.length_pos_iff] at h ⊢
  rwa [length_sort]

theorem getElem_le_getElem (s : List α) (hs : s.SortedLE) (i j : Nat) (hij : i ≤ j)
    (hj : j < s.length) : s[i] ≤ s[j] :=
  List.sortedLE_iff_getElem_le_getElem_of_le.mp hs hij

/-- When more than `i` values are at most `b`, so is the value at `i`. -/
theorem getElem_le_of_lt_countP (s : List α) (hs : s.SortedLE) (b : α) (i : Nat) (hi : i < s.length)
    (h : i < s.countP (· ≤ b)) : s[i] ≤ b := by
  by_contra hlt
  have hdrop : (s.drop i).countP (· ≤ b) = 0 := by
    rw [List.countP_eq_zero]
    intro x hx hxb
    obtain ⟨j, hj, rfl⟩ := List.getElem_of_mem hx
    rw [List.length_drop] at hj
    rw [List.getElem_drop, decide_eq_true_eq] at hxb
    exact hlt ((getElem_le_getElem s hs i (i + j) (by omega) (by omega)).trans hxb)
  have hsplit : s.countP (· ≤ b) = (s.take i).countP (· ≤ b) + (s.drop i).countP (· ≤ b) := by
    rw [← List.countP_append, List.take_append_drop]
  have htake := List.countP_le_length (p := (· ≤ b)) (l := s.take i)
  rw [List.length_take] at htake
  omega

/-- When more than the values after `i` are at least `b`, so is the value at `i`. -/
theorem le_getElem_of_lt_countP (s : List α) (hs : s.SortedLE) (b : α) (i : Nat) (hi : i < s.length)
    (h : s.length - (i + 1) < s.countP (b ≤ ·)) : b ≤ s[i] := by
  by_contra hlt
  have htake : (s.take (i + 1)).countP (b ≤ ·) = 0 := by
    rw [List.countP_eq_zero]
    intro x hx hbx
    obtain ⟨j, hj, rfl⟩ := List.getElem_of_mem hx
    rw [List.length_take] at hj
    rw [List.getElem_take, decide_eq_true_eq] at hbx
    exact hlt (hbx.trans (getElem_le_getElem s hs j i (by omega) hi))
  have hsplit : s.countP (b ≤ ·) = (s.take (i + 1)).countP (b ≤ ·) + (s.drop (i + 1)).countP (b ≤ ·) := by
    rw [← List.countP_append, List.take_append_drop]
  have hdrop := List.countP_le_length (p := (b ≤ ·)) (l := s.drop (i + 1))
  rw [List.length_drop] at hdrop
  omega

end Sorting

/-! ## The middle value -/

variable {K : Type*} [Field K]

def middle (s : List K) : K :=
  let middleIndex := s.length / 2
  if s.length % 2 = 0 then (s.getD middleIndex 0 + s.getD (middleIndex - 1) 0) / 2
  else s.getD middleIndex 0

/-- The two middle values of a list. For an odd length they are one value. -/
theorem middle_eq [CharZero K] (s : List K) (h : 0 < s.length) :
    middle s = (s[s.length / 2] + s[s.length - 1 - s.length / 2]) / 2 := by
  have hj : s.length / 2 < s.length := by omega
  unfold middle
  rcases Nat.mod_two_eq_zero_or_one s.length with heven | hodd
  · have hi : s.length - 1 - s.length / 2 = s.length / 2 - 1 := by omega
    simp only [if_pos heven, hi, List.getD_eq_getElem s 0 hj,
      List.getD_eq_getElem s 0 (show s.length / 2 - 1 < s.length by omega)]
  · have hi : s.length - 1 - s.length / 2 = s.length / 2 := by omega
    simp only [hi, hodd, one_ne_zero, if_false, List.getD_eq_getElem s 0 hj]
    ring

variable [LinearOrder K]

def median (l : List K) : K := middle (sort l)

def mad (l : List K) : K := middle (sort ((sort l).map fun x => |median l - x|))

variable [IsStrictOrderedRing K]

theorem le_middle (s : List K) (h : s ≠ []) (lo : K) (hlo : ∀ x ∈ s, lo ≤ x) : lo ≤ middle s := by
  have hlen := List.length_pos_of_ne_nil h
  rw [middle_eq s hlen]
  have h1 := hlo _ (List.getElem_mem (show s.length / 2 < s.length by omega))
  have h2 := hlo _ (List.getElem_mem (show s.length - 1 - s.length / 2 < s.length by omega))
  linarith

theorem middle_le_of_lt_countP (s : List K) (hs : s.SortedLE) (h : s ≠ []) (b : K)
    (hb : s.length / 2 < s.countP (· ≤ b)) : middle s ≤ b := by
  have hlen := List.length_pos_of_ne_nil h
  rw [middle_eq s hlen]
  have hj := getElem_le_of_lt_countP s hs b (s.length / 2) (by omega) hb
  have hij := getElem_le_getElem s hs (s.length - 1 - s.length / 2) (s.length / 2) (by omega) (by omega)
  linarith

theorem le_middle_of_lt_countP (s : List K) (hs : s.SortedLE) (h : s ≠ []) (b : K)
    (hb : s.length / 2 < s.countP (b ≤ ·)) : b ≤ middle s := by
  have hlen := List.length_pos_of_ne_nil h
  rw [middle_eq s hlen]
  have hi := le_getElem_of_lt_countP s hs b (s.length - 1 - s.length / 2) (by omega) (by omega)
  have hij := getElem_le_getElem s hs (s.length - 1 - s.length / 2) (s.length / 2) (by omega) (by omega)
  linarith

/-- A value up to the middle is as far above a lower bound as the middle allows. -/
theorem getElem_add_le (s : List K) (hs : s.SortedLE) (lo : K) (hlo : ∀ x ∈ s, lo ≤ x) (k : Nat)
    (hk : k < s.length) (hmid : k ≤ s.length / 2) : s[k] + lo ≤ 2 * middle s := by
  rw [middle_eq s (by omega)]
  have hj := getElem_le_getElem s hs k (s.length / 2) hmid (by omega)
  have hi := hlo _ (List.getElem_mem (show s.length - 1 - s.length / 2 < s.length by omega))
  linarith

theorem le_getElem_add (s : List K) (hs : s.SortedLE) (hi : K) (hhi : ∀ x ∈ s, x ≤ hi) (k : Nat)
    (hk : k < s.length) (hmid : s.length - 1 - s.length / 2 ≤ k) : 2 * middle s ≤ s[k] + hi := by
  rw [middle_eq s (by omega)]
  have h1 := getElem_le_getElem s hs (s.length - 1 - s.length / 2) k hmid hk
  have h2 := hhi _ (List.getElem_mem (show s.length / 2 < s.length by omega))
  linarith

/-! ## The median absolute deviation -/

/-- One half of the deviations, and one more, from `start` on are at most `b`. -/
theorem mad_le_of_stretch (l : List K) (h : l ≠ []) (b : K) (start : Nat)
    (hstart : start + l.length / 2 + 1 ≤ l.length)
    (hb : ∀ i (hi : i < (sort l).length), start ≤ i → i < start + (l.length / 2 + 1) →
      |median l - (sort l)[i]| ≤ b) : mad l ≤ b := by
  have hne : (sort l).map (fun x => |median l - x|) ≠ [] := by simpa using sort_ne_nil l h
  apply middle_le_of_lt_countP _ (sorted_sort _) (sort_ne_nil _ hne)
  rw [countP_sort, length_sort, List.length_map, length_sort]
  apply le_countP_of_stretch _ _ start (l.length / 2 + 1) (by simpa using by omega)
  intro i hi h1 h2
  rw [List.length_map] at hi
  rw [List.getElem_map, decide_eq_true_eq]
  exact hb i hi h1 h2

/-- **Lower side.** One deviation below the median is not below the smallest value. -/
theorem mad_le_median_sub (l : List K) (h : l ≠ []) (lo : K) (hlo : ∀ x ∈ l, lo ≤ x) :
    mad l ≤ median l - lo := by
  have hlen := List.length_pos_of_ne_nil h
  have hsort : ∀ x ∈ sort l, lo ≤ x := by simpa using hlo
  apply mad_le_of_stretch l h _ 0 (by omega)
  intro i hi _ hmid
  have h1 := hsort _ (List.getElem_mem hi)
  have h2 := getElem_add_le (sort l) (sorted_sort l) lo hsort i hi (by rw [length_sort]; omega)
  change _ ≤ 2 * median l at h2
  rw [abs_le]
  constructor <;> linarith

/-- **Upper side.** One deviation above the median is not above the largest value. -/
theorem mad_le_sub_median (l : List K) (h : l ≠ []) (hi : K) (hhi : ∀ x ∈ l, x ≤ hi) :
    mad l ≤ hi - median l := by
  have hlen := List.length_pos_of_ne_nil h
  have hsort : ∀ x ∈ sort l, x ≤ hi := by simpa using hhi
  apply mad_le_of_stretch l h _ (l.length - 1 - l.length / 2) (by omega)
  intro i hilt hmid _
  have h1 := hsort _ (List.getElem_mem hilt)
  have h2 := le_getElem_add (sort l) (sorted_sort l) hi hsort i hilt (by rw [length_sort]; omega)
  change 2 * median l ≤ _ at h2
  rw [abs_le]
  constructor <;> linarith

theorem exists_le_median_sub_mad (l : List K) (h : l ≠ []) : ∃ x ∈ l, x ≤ median l - mad l := by
  obtain ⟨lo, hlo⟩ := WithTop.ne_top_iff_exists.mp (List.minimum_ne_top_of_ne_nil h)
  obtain ⟨hmem, hmin⟩ := List.minimum_eq_coe_iff.mp hlo.symm
  exact ⟨lo, hmem, by linarith [mad_le_median_sub l h lo hmin]⟩

theorem exists_median_add_mad_le (l : List K) (h : l ≠ []) : ∃ x ∈ l, median l + mad l ≤ x := by
  obtain ⟨hi, hhi⟩ := WithBot.ne_bot_iff_exists.mp (List.maximum_ne_bot_of_ne_nil h)
  obtain ⟨hmem, hmax⟩ := List.maximum_eq_coe_iff.mp hhi.symm
  exact ⟨hi, hmem, by linarith [mad_le_sub_median l h hi hmax]⟩

theorem mad_nonneg (l : List K) (h : l ≠ []) : 0 ≤ mad l := by
  have hne : (sort l).map (fun x => |median l - x|) ≠ [] := by simpa using sort_ne_nil l h
  apply le_middle _ (sort_ne_nil _ hne)
  intro x hx
  obtain ⟨y, -, rfl⟩ := List.mem_map.mp ((mem_sort _ _).mp hx)
  exact abs_nonneg _

/-- At least one half of the values of a sorted list are not above its middle. -/
theorem half_le_countP_middle (s : List K) (hs : s.SortedLE) (h : s ≠ []) :
    (s.length + 1) / 2 ≤ s.countP (· ≤ middle s) := by
  have hlen := List.length_pos_of_ne_nil h
  apply le_countP_of_stretch _ s 0 _ (by omega)
  intro i hi _ hmid
  have h1 := getElem_le_getElem s hs i (s.length / 2) (by omega) (by omega)
  have h2 := getElem_le_getElem s hs i (s.length - 1 - s.length / 2) (by omega) (by omega)
  rw [decide_eq_true_eq, middle_eq s hlen]
  linarith

/-- **Majority.** At least one half of the values lie within one deviation of the median. -/
theorem half_le_countP_mad (l : List K) (h : l ≠ []) :
    (l.length + 1) / 2 ≤ l.countP fun x => |median l - x| ≤ mad l := by
  have hne : (sort l).map (fun x => |median l - x|) ≠ [] := by simpa using sort_ne_nil l h
  have hcount := half_le_countP_middle _ (sorted_sort _) (sort_ne_nil _ hne)
  rw [countP_sort, length_sort, List.length_map, length_sort, List.countP_map, countP_sort] at hcount
  exact hcount

theorem exists_abs_sub_le_mad (l : List K) (h : l ≠ []) : ∃ x ∈ l, |median l - x| ≤ mad l := by
  have hlen := List.length_pos_of_ne_nil h
  have hcount := half_le_countP_mad l h
  obtain ⟨x, hx, hdev⟩ := List.countP_pos_iff.mp
    (show 0 < l.countP fun x => |median l - x| ≤ mad l by omega)
  rw [decide_eq_true_eq] at hdev
  exact ⟨x, hx, hdev⟩

/-! ## Lists with most values in an interval -/

section Most

variable {l : List K} {lo hi : K} (hmost : l.length < 2 * l.countP fun x => lo ≤ x ∧ x ≤ hi)

include hmost

omit [Field K] [IsStrictOrderedRing K] in
theorem half_lt_countP_of_most {p : K → Bool} (hp : ∀ x, lo ≤ x → x ≤ hi → p x = true) :
    l.length / 2 < l.countP p := by
  have hle : (l.countP fun x => lo ≤ x ∧ x ≤ hi) ≤ l.countP p := by
    apply List.countP_mono_left
    intro x _ hx
    rw [decide_eq_true_eq] at hx
    exact hp x hx.1 hx.2
  omega

omit [Field K] [IsStrictOrderedRing K] in
theorem ne_nil_of_most : l ≠ [] := by
  rintro rfl
  simp at hmost

theorem le_median_of_most : lo ≤ median l := by
  apply le_middle_of_lt_countP _ (sorted_sort l) (sort_ne_nil l (ne_nil_of_most hmost))
  rw [length_sort, countP_sort]
  exact half_lt_countP_of_most hmost fun x hx _ => decide_eq_true hx

theorem median_le_of_most : median l ≤ hi := by
  apply middle_le_of_lt_countP _ (sorted_sort l) (sort_ne_nil l (ne_nil_of_most hmost))
  rw [length_sort, countP_sort]
  exact half_lt_countP_of_most hmost fun x _ hx => decide_eq_true hx

/-- The values of the interval are not farther from the median than it is wide. -/
theorem mad_le_of_most : mad l ≤ hi - lo := by
  have hne : (sort l).map (fun x => |median l - x|) ≠ [] := by
    simpa using sort_ne_nil l (ne_nil_of_most hmost)
  apply middle_le_of_lt_countP _ (sorted_sort _) (sort_ne_nil _ hne)
  rw [countP_sort, length_sort, List.length_map, length_sort, List.countP_map, countP_sort]
  apply half_lt_countP_of_most hmost
  intro x hlo hhi
  have h1 := le_median_of_most hmost
  have h2 := median_le_of_most hmost
  rw [Function.comp_apply, decide_eq_true_eq, abs_le]
  constructor <;> linarith

end Most

end IrPitCrew.OrderStat
