import Mathlib.Data.List.DropRight
import Mathlib.Data.List.Infix
import Mathlib.Tactic.Common

/-!
# Text: substring search, lines and white space

Strings are lists of characters. Positions count characters from 0, and a
search that finds nothing is `none`.
-/

namespace IrPitCrew.Text

abbrev Str := List Char

/-- Decided along the text, and not by trying every character there is. -/
instance decidableForallMem (p : Char → Prop) [DecidablePred p] (s : Str) :
    Decidable (∀ c ∈ s, p c) := List.decidableBAll p s

/-! ## Substring search -/

/-- The position of the first occurrence of `pat`. -/
def indexOf (pat : Str) : Str → Option Nat
  | [] => if pat = [] then some 0 else none
  | c :: s => if pat.isPrefixOf (c :: s) then some 0 else (indexOf pat s).map (· + 1)

def indexOfFrom (pat s : Str) (start : Nat) : Option Nat :=
  (indexOf pat (s.drop start)).map (· + start)

def contains (pat s : Str) : Bool := (indexOf pat s).isSome

/-- The characters from `start` up to, not including, `stop`. -/
def slice (s : Str) (start stop : Nat) : Str := (s.drop start).take (stop - start)

@[simp] theorem indexOf_nil (c : Char) (p : Str) : indexOf (c :: p) [] = none := by simp [indexOf]

theorem indexOf_of_startsWith (pat s : Str) (h : pat <+: s) : indexOf pat s = some 0 := by
  cases s with
  | nil => simp [indexOf, List.prefix_nil.mp h]
  | cons c s => rw [indexOf, if_pos (List.isPrefixOf_iff_prefix.mpr h)]

theorem indexOf_cons_of_not_startsWith (pat : Str) (c : Char) (s : Str) (h : ¬ pat <+: c :: s) :
    indexOf pat (c :: s) = (indexOf pat s).map (· + 1) := by
  rw [indexOf, if_neg (by rwa [List.isPrefixOf_iff_prefix])]

/-- A stretch without the first character of the pattern is skipped. -/
theorem indexOf_append_of_notMem (c : Char) (p a s : Str) (h : c ∉ a) :
    indexOf (c :: p) (a ++ s) = (indexOf (c :: p) s).map (· + a.length) := by
  induction a with
  | nil => simp
  | cons x a ih =>
    have hx : ¬ (c :: p) <+: x :: (a ++ s) := by
      intro hp
      exact h (by rw [(List.cons_prefix_cons.mp hp).1]; simp)
    rw [List.cons_append, indexOf_cons_of_not_startsWith _ _ _ hx, ih (fun hc => h (by simp [hc])),
      Option.map_map]
    rfl

def textFrom (pat s : Str) : Option Str := (indexOf pat s).map s.drop

theorem textFrom_of_startsWith (pat s : Str) (h : pat <+: s) : textFrom pat s = some s := by
  simp [textFrom, indexOf_of_startsWith pat s h]

theorem textFrom_cons_of_not_startsWith (pat : Str) (c : Char) (s : Str) (h : ¬ pat <+: c :: s) :
    textFrom pat (c :: s) = textFrom pat s := by
  rw [textFrom, indexOf_cons_of_not_startsWith pat c s h, Option.map_map]
  rfl

theorem textFrom_append_of_notMem (c : Char) (p a s : Str) (h : c ∉ a) :
    textFrom (c :: p) (a ++ s) = textFrom (c :: p) s := by
  rw [textFrom, indexOf_append_of_notMem c p a s h, Option.map_map, textFrom]
  congr 1
  funext n
  simp [List.drop_append]

theorem contains_iff (pat s : Str) : contains pat s = true ↔ pat <:+: s := by
  unfold contains
  induction s with
  | nil => by_cases h : pat = [] <;> simp [indexOf, h]
  | cons c s ih =>
    by_cases hp : pat <+: c :: s
    · simp [indexOf_of_startsWith _ _ hp, hp.isInfix]
    · rw [indexOf_cons_of_not_startsWith _ _ _ hp, Option.isSome_map, ih, List.infix_cons_iff]
      simp [hp]

/-- Two words closed by a separator that neither holds are equal when one text starts the other. -/
theorem eq_of_append_sep_startsWith (sep : Char) (a b s : Str) (ha : sep ∉ a) (hb : sep ∉ b)
    (h : (a ++ [sep]) <+: (b ++ sep :: s)) : a = b := by
  induction a generalizing b with
  | nil =>
    cases b with
    | nil => rfl
    | cons y b =>
      have := (List.cons_prefix_cons.mp h).1
      simp [this] at hb
  | cons x a ih =>
    cases b with
    | nil =>
      have := (List.cons_prefix_cons.mp h).1
      simp [this] at ha
    | cons y b =>
      obtain ⟨hxy, hrest⟩ := List.cons_prefix_cons.mp h
      rw [hxy, ih b (fun hm => ha (by simp [hm])) (fun hm => hb (by simp [hm])) hrest]

/-- Text without `c` that starts a longer text does so before the first `c`. -/
theorem isPrefix_of_notMem (p a s : Str) (c : Char) (hc : c ∉ p) (h : p <+: a ++ c :: s) : p <+: a := by
  rcases Nat.lt_or_ge a.length p.length with hlen | hlen
  · have hcut : a ++ [c] <+: p :=
      List.prefix_of_prefix_length_le ⟨s, by simp⟩ h (by rw [List.length_append]; exact hlen)
    exact absurd (hcut.subset (by simp)) hc
  · exact List.prefix_of_prefix_length_le h (List.prefix_append _ _) hlen

/-- A pattern without `c` does not straddle a `c`, so a first part without the pattern is skipped. -/
theorem indexOf_append_cons (pat a s : Str) (c : Char) (hc : c ∉ pat) (ha : ¬ pat <:+: a) :
    indexOf pat (a ++ c :: s) = (indexOf pat s).map (· + (a.length + 1)) := by
  induction a with
  | nil =>
    have hp : ¬ pat <+: c :: s := by
      intro hp
      cases pat with
      | nil => exact ha List.infix_rfl
      | cons x p => exact hc (by simp [(List.cons_prefix_cons.mp hp).1])
    simpa using indexOf_cons_of_not_startsWith pat c s hp
  | cons x a ih =>
    have ha' : ¬ pat <:+: a := fun h => ha (h.trans (List.suffix_cons x a).isInfix)
    have hp : ¬ pat <+: x :: (a ++ c :: s) := by
      intro hp
      rw [← List.cons_append] at hp
      exact ha (isPrefix_of_notMem _ _ _ _ hc hp).isInfix
    rw [List.cons_append, indexOf_cons_of_not_startsWith _ _ _ hp, ih ha', Option.map_map]
    rfl

theorem textFrom_append_cons (pat a s : Str) (c : Char) (hc : c ∉ pat) (ha : ¬ pat <:+: a) :
    textFrom pat (a ++ c :: s) = textFrom pat s := by
  rw [textFrom, indexOf_append_cons pat a s c hc ha, Option.map_map, textFrom]
  congr 1
  funext n
  have hn : n + (a.length + 1) - a.length = n + 1 := by omega
  have ha : a.drop (n + (a.length + 1)) = [] := List.drop_eq_nil_of_le (by omega)
  simp [List.drop_append, hn, ha]

theorem contains_eq_false_of_notMem (pat s : Str) (c : Char) (hc : c ∈ pat) (hs : c ∉ s) :
    contains pat s = false := by
  rw [← Bool.not_eq_true, contains_iff]
  intro h
  exact hs (h.subset hc)

/-- A pattern without `c` is found before the `c` or after it. -/
theorem contains_append_cons (pat a s : Str) (c : Char) (hc : c ∉ pat) :
    contains pat (a ++ c :: s) = (contains pat a || contains pat s) := by
  cases ha : contains pat a with
  | true =>
    rw [Bool.true_or, contains_iff]
    exact ((contains_iff pat a).mp ha).trans (List.prefix_append _ _).isInfix
  | false =>
    rw [← Bool.not_eq_true, contains_iff] at ha
    rw [Bool.false_or, contains, indexOf_append_cons pat a s c hc ha, Option.isSome_map, contains]

/-! ## Items and lines -/

/-- What a `getline` loop with a delimiter reads. A last item without a delimiter counts. -/
def getitems (delim : Char) : Str → List Str
  | [] => []
  | c :: s =>
    if c = delim then [] :: getitems delim s
    else match getitems delim s with
      | [] => [[c]]
      | l :: ls => (c :: l) :: ls

theorem getitems_item (delim : Char) (l s : Str) (h : delim ∉ l) :
    getitems delim (l ++ delim :: s) = l :: getitems delim s := by
  induction l with
  | nil => simp [getitems]
  | cons c l ih =>
    have hc : c ≠ delim := fun hc => h (by simp [hc])
    rw [List.cons_append, getitems, if_neg hc, ih (fun hl => h (by simp [hl]))]

theorem getitems_last (delim : Char) (l : Str) (h : delim ∉ l) (hne : l ≠ []) :
    getitems delim l = [l] := by
  induction l with
  | nil => exact absurd rfl hne
  | cons c l ih =>
    have hc : c ≠ delim := fun hc => h (by simp [hc])
    rw [getitems, if_neg hc]
    cases l with
    | nil => rfl
    | cons d l => rw [ih (fun hl => h (List.mem_cons_of_mem _ hl)) (by simp)]

/-- Items that are joined are read back, when none is empty or holds the delimiter. -/
theorem getitems_intercalate (delim : Char) (ls : List Str) (h : ∀ l ∈ ls, delim ∉ l ∧ l ≠ []) :
    getitems delim ([delim].intercalate ls) = ls := by
  induction ls with
  | nil => rfl
  | cons l ls ih =>
    obtain ⟨hl, hne⟩ := h l (by simp)
    cases ls with
    | nil => simpa using getitems_last delim l hl hne
    | cons m ls =>
      have hjoin : [delim].intercalate (l :: m :: ls) = l ++ delim :: [delim].intercalate (m :: ls) := by
        simp
      rw [hjoin, getitems_item delim l _ hl, ih fun k hk => h k (List.mem_cons_of_mem _ hk)]

/-- The lines a `getline` loop reads. A last line without a line end counts. -/
def getlines : Str → List Str
  | [] => []
  | c :: s =>
    if c = '\n' then [] :: getlines s
    else match getlines s with
      | [] => [[c]]
      | l :: ls => (c :: l) :: ls

theorem getlines_eq_getitems (s : Str) : getlines s = getitems '\n' s := by
  induction s with
  | nil => rfl
  | cons c s ih => rw [getlines, getitems, ih]

def putlines (ls : List Str) : Str := ls.flatMap (· ++ ['\n'])

@[simp] theorem putlines_nil : putlines [] = [] := rfl

@[simp] theorem putlines_cons (l : Str) (ls : List Str) :
    putlines (l :: ls) = l ++ '\n' :: putlines ls := by simp [putlines]

theorem getlines_line (l s : Str) (h : '\n' ∉ l) : getlines (l ++ '\n' :: s) = l :: getlines s := by
  rw [getlines_eq_getitems, getlines_eq_getitems]
  exact getitems_item '\n' l s h

theorem getlines_putlines (ls : List Str) (h : ∀ l ∈ ls, '\n' ∉ l) :
    getlines (putlines ls) = ls := by
  induction ls with
  | nil => rfl
  | cons l ls ih =>
    rw [putlines_cons, getlines_line _ _ (h l (by simp)), ih (fun m hm => h m (by simp [hm]))]

theorem newline_notMem_getlines (s : Str) : ∀ l ∈ getlines s, '\n' ∉ l := by
  induction s with
  | nil => simp [getlines]
  | cons c s ih =>
    intro l hl
    rw [getlines] at hl
    split at hl
    · rcases List.mem_cons.mp hl with rfl | hl
      · simp
      · exact ih l hl
    · rename_i hc
      split at hl
      · simp only [List.mem_singleton] at hl
        subst hl
        simpa using fun h => hc h.symm
      · rename_i m ms hs
        rcases List.mem_cons.mp hl with rfl | hl
        · have := ih m (by simp [hs])
          simpa [this] using fun h => hc h.symm
        · exact ih l (by simp [hs, hl])

/-! ## White space -/

/-- The characters of `isspace` in the C locale. -/
def isspace (c : Char) : Bool :=
  c = ' ' || c = '\t' || c = '\n' || c = '\x0b' || c = '\x0c' || c = '\r'

def ltrim (s : Str) : Str := s.dropWhile isspace

def rtrim (s : Str) : Str := s.rdropWhile isspace

def trim (s : Str) : Str := ltrim (rtrim s)

@[simp] theorem rtrim_nil : rtrim [] = [] := rfl

theorem rtrim_append_spaces (s w : Str) (h : ∀ c ∈ w, isspace c = true) : rtrim (s ++ w) = rtrim s := by
  induction w using List.reverseRecOn with
  | nil => simp
  | append_singleton w c ih =>
    have hc : isspace c = true := h c (by simp)
    rw [← List.append_assoc, rtrim, List.rdropWhile_concat_pos _ _ _ hc]
    exact ih (fun d hd => h d (by simp [hd]))

theorem rtrim_concat (s : Str) (c : Char) (h : isspace c = false) : rtrim (s ++ [c]) = s ++ [c] :=
  List.rdropWhile_concat_neg _ _ _ (by simp [h])

theorem ltrim_cons (c : Char) (s : Str) (h : isspace c = false) : ltrim (c :: s) = c :: s := by
  simp [ltrim, h]

theorem trim_cons_concat (c d : Char) (s : Str) (hc : isspace c = false) (hd : isspace d = false) :
    trim (c :: (s ++ [d])) = c :: (s ++ [d]) := by
  unfold trim
  rw [← List.cons_append, rtrim_concat _ _ hd, List.cons_append, ltrim_cons _ _ hc]

theorem ltrim_of_forall (s : Str) (h : ∀ c ∈ s, isspace c = false) : ltrim s = s := by
  cases s with
  | nil => rfl
  | cons c s => exact ltrim_cons c s (h c (by simp))

theorem trim_of_forall (s : Str) (h : ∀ c ∈ s, isspace c = false) : trim s = s := by
  have hr : rtrim s = s := by
    cases s using List.reverseRecOn with
    | nil => rfl
    | append_singleton s c => exact rtrim_concat s c (h c (by simp))
  rw [trim, hr, ltrim_of_forall s h]

theorem exists_rtrim_append (s : Str) : ∃ w, s = rtrim s ++ w ∧ ∀ c ∈ w, isspace c = true :=
  ⟨s.rtakeWhile isspace, List.rdropWhile_append_rtakeWhile.symm,
    fun _ hc => List.mem_rtakeWhile_imp hc⟩

/-- Text whose last character counts is trimmed only behind what is appended to it. -/
theorem rtrim_append_rtrim (a s : Str) (h : rtrim a = a) : rtrim (a ++ rtrim s) = a ++ rtrim s := by
  rcases List.eq_nil_or_concat' (rtrim s) with hs | ⟨t, d, hs⟩
  · rw [hs, List.append_nil, h]
  · have hd : isspace d = false := by
      have hne : rtrim s ≠ [] := by simp [hs]
      have hlast : ¬ isspace ((rtrim s).getLast hne) = true := List.rdropWhile_last_not isspace s hne
      simpa [hs] using hlast
    rw [hs, ← List.append_assoc, rtrim_concat _ _ hd]

theorem ltrim_spaces_append (w s : Str) (h : ∀ c ∈ w, isspace c = true) : ltrim (w ++ s) = ltrim s := by
  rw [ltrim, List.dropWhile_append_of_pos h]
  rfl

theorem trim_spaces_concat (w : Str) (c : Char) (hw : ∀ d ∈ w, isspace d = true)
    (hc : isspace c = false) : trim (w ++ [c]) = [c] := by
  unfold trim
  rw [rtrim_concat _ _ hc, ltrim_spaces_append _ _ hw, ltrim_cons _ _ hc]

theorem ltrim_prefix_free (s : Str) : ∃ w, s = w ++ ltrim s ∧ ∀ c ∈ w, isspace c = true :=
  ⟨s.takeWhile isspace, (List.takeWhile_append_dropWhile ..).symm,
    fun _ hc => List.mem_takeWhile_imp hc⟩

theorem rtrim_ltrim_rtrim (s : Str) : rtrim (ltrim (rtrim s)) = ltrim (rtrim s) := by
  rw [rtrim, List.rdropWhile_eq_self_iff]
  intro hne
  obtain ⟨w, hw, -⟩ := ltrim_prefix_free (rtrim s)
  have hr : rtrim s ≠ [] := by
    intro h0
    simp [h0, ltrim] at hne
  have hlast : ¬ isspace ((rtrim s).getLast hr) = true := List.rdropWhile_last_not isspace s hr
  have hsame : (rtrim s).getLast hr = (ltrim (rtrim s)).getLast hne := by
    rw [List.getLast_congr hr (by simp [hne]) hw, List.getLast_append_of_right_ne_nil _ _ hne]
  rwa [← hsame]

theorem trim_trim (s : Str) : trim (trim s) = trim s := by
  unfold trim
  rw [rtrim_ltrim_rtrim]
  exact List.dropWhile_idempotent _ _

theorem trim_sublist (s : Str) : List.Sublist (trim s) s :=
  (List.dropWhile_sublist _).trans (List.rdropWhile_prefix _ _).sublist

end IrPitCrew.Text
