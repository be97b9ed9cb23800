import IrPitCrew.Irsdk.YamlParser

/-!
# Documents: what a path finds in a text of fields

A document is an outline of fields, written one field a line. What belongs to a
field is one deeper, and the items of a list are two deeper: a dash counts like a
blank, so all fields of all items of a list are side by side.
-/

open IrPitCrew.Text

namespace IrPitCrew.Yaml

/-! ## Fields -/

/-- What a value may be, so that it is read back. -/
structure IsValue (value : Str) : Prop where
  head : ∀ c ∈ value.head?, c ≠ ' ' ∧ c ≠ ':'
  lineEnd : ∀ c ∈ value, isLineEnd c = false

structure Field where
  key : Str
  value : Str := []
  isList : Bool := false
  isItem : Bool := false
  isKey : IsKey key
  keyLineEnd : ∀ c ∈ key, isLineEnd c = false
  isValue : IsValue value

namespace Field

def indent (f : Field) : Nat := if f.isList then 2 else 1

/-- The first field of an item has the dash of the item. -/
def leading (f : Field) (depth : Nat) : Str :=
  if f.isItem ∧ 2 ≤ depth then List.replicate (depth - 2) ' ' ++ ['-', ' ']
  else List.replicate depth ' '

def text (depth : Nat) (f : Field) : Str :=
  f.leading depth ++ (f.key ++ ':' :: (if f.value = [] then [] else [' ']) ++ f.value)

def line (depth : Nat) (f : Field) : Line where
  depth := depth
  key := f.key ++ [':']
  value := f.value

theorem eq_of_mem_leading {f : Field} {depth : Nat} {c : Char} (hc : c ∈ f.leading depth) :
    c = ' ' ∨ c = '-' := by
  unfold leading at hc
  split at hc
  · simp only [List.mem_append, List.mem_replicate, List.mem_cons, List.not_mem_nil, or_false] at hc
    rcases hc with ⟨_, rfl⟩ | rfl | rfl
    · exact .inl rfl
    · exact .inr rfl
    · exact .inl rfl
  · exact .inl (List.mem_replicate.mp hc).2

theorem isIndent_leading (f : Field) (depth : Nat) : ∀ c ∈ f.leading depth, isIndent c = true := by
  intro c hc
  rcases eq_of_mem_leading hc with rfl | rfl
  · rfl
  · rfl

theorem indentDepth_leading (f : Field) (depth : Nat) : indentDepth (f.leading depth) = depth := by
  unfold leading indentDepth
  split_ifs with hitem
  · rw [List.countP_append, List.countP_replicate, if_pos (by decide)]
    simp only [ne_eq, Char.reduceEq, not_false_eq_true, decide_true, List.countP_cons_of_pos,
      List.countP_nil]
    omega
  · rw [List.countP_replicate, if_pos (by decide)]

theorem readLine_text (depth : Nat) (f : Field) : readLine (f.text depth) = f.line depth := by
  have hblanks : ∀ c ∈ (if f.value = [] then [] else [' '] : Str), c = ' ' := by
    split <;> simp
  have hvalue : valueText f.value = f.value := by
    unfold valueText
    rw [if_neg]
    intro hhead
    exact (f.isValue.head ':' hhead).2 rfl
  have hread := readLine_append (f.isIndent_leading depth) f.isKey _ f.value hblanks
    (fun c hc => (f.isValue.head c hc).1)
  rw [text, List.append_assoc, List.cons_append, hread, f.indentDepth_leading, hvalue]
  rfl

theorem lineEnd_text (depth : Nat) (f : Field) : ∀ c ∈ f.text depth, isLineEnd c = false := by
  intro c hc
  simp only [text, List.mem_append, List.mem_cons] at hc
  rcases hc with hleading | (hkey | rfl | hblank) | hvalue
  · rcases eq_of_mem_leading hleading with rfl | rfl
    · rfl
    · rfl
  · exact f.keyLineEnd c hkey
  · rfl
  · split at hblank
    · contradiction
    · rw [List.mem_singleton.mp hblank]
      rfl
  · exact f.isValue.lineEnd c hvalue

theorem any_ne_colon_text (depth : Nat) (f : Field) : ((f.text depth).any (· ≠ ':')) = true := by
  obtain ⟨c, hc, hne⟩ := f.isKey.any_ne_colon (f.leading depth)
    (':' :: (if f.value = [] then [] else [' ']) ++ f.value)
  refine List.any_eq_true.mpr ⟨c, ?_, by simpa using hne⟩
  rw [text, List.append_assoc]
  exact hc

end Field

/-! ## Documents -/

abbrev Document := Outline Field

namespace Document

def fieldLines (o : Document) : List (Nat × Field) := o.lines Field.indent 0

/-- The text of a document, between its two marks. -/
def text (o : Document) : Str :=
  putlines ("---".toList :: o.fieldLines.map fun line => line.2.text line.1) ++ "...".toList

end Document

theorem closedLines_lineEnd (line l data : Str) (h : ∀ c ∈ l, isLineEnd c = false) :
    closedLines line (l ++ '\n' :: data) = (line ++ l) :: closedLines [] data := by
  induction l generalizing line with
  | nil =>
    rw [List.nil_append, List.append_nil, closedLines]
    rfl
  | cons c l ih =>
    rw [List.cons_append, closedLines, if_neg (by simp [h c (by simp)]),
      ih _ fun d hd => h d (by simp [hd]), List.append_assoc, List.singleton_append]

theorem closedLines_of_lineEnd (line l : Str) (h : ∀ c ∈ l, isLineEnd c = false) :
    closedLines line l = [] := by
  induction l generalizing line with
  | nil => rfl
  | cons c l ih =>
    rw [closedLines, if_neg (by simp [h c (by simp)]), ih _ fun d hd => h d (by simp [hd])]

theorem closedLines_putlines (ls : List Str) (l : Str)
    (hls : ∀ l ∈ ls, ∀ c ∈ l, isLineEnd c = false) (hl : ∀ c ∈ l, isLineEnd c = false) :
    closedLines [] (putlines ls ++ l) = ls := by
  induction ls with
  | nil => exact closedLines_of_lineEnd [] l hl
  | cons k ls ih =>
    rw [putlines_cons, List.append_assoc, List.cons_append,
      closedLines_lineEnd _ _ _ (hls k (by simp)), List.nil_append,
      ih fun m hm => hls m (by simp [hm])]

/-- The mark at the start is a line without a key. -/
theorem readLines_text (o : Document) :
    readLines o.text =
      { depth := 3, key := [], value := [] } :: o.fieldLines.map fun line => line.2.line line.1 := by
  have hclosed : closedLines [] o.text =
      "---".toList :: o.fieldLines.map fun line => line.2.text line.1 := by
    refine closedLines_putlines _ _ ?_ (by decide)
    intro l hl
    rcases List.mem_cons.mp hl with rfl | hl
    · decide
    · obtain ⟨line, _, rfl⟩ := List.mem_map.mp hl
      exact line.2.lineEnd_text line.1
  have hcounts : ∀ l ∈ "---".toList :: o.fieldLines.map fun line => line.2.text line.1,
      (l.any (· ≠ ':')) = true := by
    intro l hl
    rcases List.mem_cons.mp hl with rfl | hl
    · decide
    · obtain ⟨line, _, rfl⟩ := List.mem_map.mp hl
      exact line.2.any_ne_colon_text line.1
  rw [readLines, hclosed, List.filter_eq_self.mpr hcounts, List.map_cons, List.map_map]
  congr 1
  refine List.map_congr_left ?_
  intro line _
  exact line.2.readLine_text line.1

/-! ## Paths -/

/-- A key of a path, with the value that the path asks for. -/
structure PathKey where
  key : Str
  value : Option Str := none
  colon : ':' ∉ key
  brace : ∀ c ∈ key.head?, c ≠ '{'
  closing : ∀ v ∈ value, '}' ∉ v

namespace PathKey

def valueText (k : PathKey) : Str :=
  match k.value with
  | none => []
  | some v => '{' :: (v ++ ['}'])

def text (k : PathKey) : Str := k.key ++ ':' :: k.valueText

def test (k : PathKey) (f : Field) : Bool := f.key = k.key ∧ ∀ v ∈ k.value, f.value = v

end PathKey

def pathText (path : List PathKey) : Str := path.flatMap PathKey.text

theorem pathText_cons (k : PathKey) (path : List PathKey) :
    pathText (k :: path) = k.key ++ ':' :: (k.valueText ++ pathText path) := by
  simp [pathText, PathKey.text]

theorem head_pathText (path : List PathKey) : ∀ c ∈ (pathText path).head?, c ≠ '{' := by
  cases path with
  | nil => simp [pathText]
  | cons k path =>
    rw [pathText_cons]
    intro c hc
    rw [List.head?_append] at hc
    cases hkey : k.key.head? with
    | none =>
      rw [hkey] at hc
      cases hc
      decide
    | some d =>
      rw [hkey] at hc
      cases hc
      exact k.brace c hkey

theorem pathText_eq_nil_iff (path : List PathKey) : pathText path = [] ↔ path = [] := by
  cases path with
  | nil => simp [pathText]
  | cons k path => simp [pathText_cons]

/-- The line of a field takes a key off the path when the field is what the key asks for. -/
theorem advance_pathText (depth : Nat) (f : Field) (k : PathKey) (path : List PathKey) :
    (f.line depth).advance (pathText (k :: path)) =
      if k.test f then some (pathText path) else none := by
  unfold Line.advance Field.line
  dsimp only
  by_cases hkey : f.key = k.key
  · have hstarts : f.key ++ [':'] ≠ [] ∧ f.key ++ [':'] <+: pathText (k :: path) := by
      refine ⟨by simp, k.valueText ++ pathText path, ?_⟩
      rw [pathText_cons, hkey, List.append_assoc, List.singleton_append]
    have hdrop : (pathText (k :: path)).drop (f.key ++ [':']).length = k.valueText ++ pathText path := by
      rw [pathText_cons, hkey, List.length_append, List.drop_append]
      simp
    rw [if_pos hstarts, hdrop]
    cases hvalue : k.value with
    | none =>
      have hrest : k.valueText = [] := by simp [PathKey.valueText, hvalue]
      rw [if_pos (by simp [PathKey.test, hkey, hvalue]), hrest, List.nil_append]
      split
      · rename_i pathvalue hpath
        exact absurd rfl (head_pathText path '{' (by simp [hpath]))
      · rfl
    | some v =>
      have hrest : k.valueText = '{' :: (v ++ ['}']) := by simp [PathKey.valueText, hvalue]
      have hclosing : ∀ c ∈ v, decide (c ≠ '}') = true := by
        intro c hc
        refine decide_eq_true ?_
        rintro rfl
        exact k.closing v hvalue hc
      have hwhile : (v ++ '}' :: pathText path).takeWhile (· ≠ '}') = v := by
        rw [List.takeWhile_append_of_pos hclosing]
        simp
      simp only [hrest, List.cons_append, List.append_assoc, List.nil_append, hwhile]
      by_cases hv : f.value = v
      · rw [if_pos hv, if_pos (by simp [PathKey.test, hkey, hvalue, hv]), hv]
        simp [List.drop_append]
      · rw [if_neg hv, if_neg (by simp [PathKey.test, hvalue, hv])]
  · rw [if_neg, if_neg (by simp [PathKey.test, hkey])]
    rintro ⟨_, hstarts⟩
    rw [pathText_cons] at hstarts
    exact hkey (eq_of_append_sep_startsWith ':' _ _ _ f.isKey.colon k.colon hstarts)

/-! ## What a path finds -/

theorem searchLines_no_path (depth : Nat) (lines : List Line) : searchLines [] depth lines = none := by
  induction lines with
  | nil => rfl
  | cons line lines ih =>
    have hnone : line.advance [] = none := by
      unfold Line.advance
      rw [if_neg]
      rintro ⟨hkey, hstarts⟩
      exact hkey (List.prefix_nil.mp hstarts)
    rw [searchLines, hnone, ih]
    split <;> rfl

theorem searchLines_pathText (path : List PathKey) (depth : Nat) (lines : List (Nat × Field)) :
    searchLines (pathText path) depth (lines.map fun line => line.2.line line.1) =
      (Outline.search (path.map PathKey.test) depth lines).map Field.value := by
  induction lines generalizing path depth with
  | nil =>
    rw [Outline.search_no_lines]
    rfl
  | cons line lines ih =>
    obtain ⟨d, f⟩ := line
    cases path with
    | nil =>
      rw [List.map_nil, Outline.search_no_tests]
      exact searchLines_no_path depth _
    | cons k path =>
      rw [List.map_cons, List.map_cons, searchLines, advance_pathText, Outline.search_cons]
      cases htest : k.test f with
      | false =>
        have hnext := ih (k :: path) depth
        rw [List.map_cons] at hnext
        simp only [Bool.false_eq_true, if_false, hnext]
        by_cases hdepth : d < depth
        · rw [if_pos hdepth, if_pos (by exact hdepth), Option.map_none]
        · rw [if_neg hdepth, if_neg (by exact hdepth)]
      | true =>
        by_cases hdepth : d < depth
        · rw [if_pos hdepth, if_pos (by exact hdepth), Option.map_none]
        · rw [if_neg hdepth, if_neg (by exact hdepth)]
          simp only [if_true, List.map_eq_nil_iff]
          by_cases hpath : path = []
          · subst hpath
            rfl
          · rw [if_neg hpath, ← ih]
            have hne : pathText path ≠ [] := fun h => hpath ((pathText_eq_nil_iff path).mp h)
            obtain ⟨c, rest, hrest⟩ := List.exists_cons_of_ne_nil hne
            rw [hrest]
            rfl

theorem searchLines_text (o : Document) (path : List PathKey) :
    searchLines (pathText path) 0 (readLines o.text) =
      (Outline.lookup (path.map PathKey.test) .nil o).map Field.value := by
  have hindent : ∀ f : Field, 0 < f.indent := by
    intro f
    unfold Field.indent
    split <;> omega
  have hmark : Line.advance { depth := 3, key := [], value := [] } (pathText path) = none := by
    simp [Line.advance]
  rw [readLines_text, searchLines, if_neg (Nat.not_lt_zero 3), hmark, searchLines_pathText,
    Document.fieldLines, Outline.search_lines hindent]

/-- **Round trip.** In the text of a document, a path finds what it finds in the tree. -/
theorem parseYaml_text (o : Document) (path : List PathKey) :
    parseYaml o.text (pathText path) =
      (Outline.lookup (path.map PathKey.test) .nil o).map Field.value :=
  (run_eq_searchLines o.text [] _ (reads_start o.text _)).trans (searchLines_text o path)

end IrPitCrew.Yaml
