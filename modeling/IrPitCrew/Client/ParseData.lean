import IrPitCrew.Server.WebServer

/-!
# The client's parser of the data portion

`parseDataPortion` looks a tag up by searching for its text. The server prints
one `name;value` line for each entry, so the search finds the entry's own line
and no other.
-/

open IrPitCrew.Text IrPitCrew.WebServer

namespace IrPitCrew.ParseData

def dataNotSetString : Str := "<not set>".toList

def searchString (dataTag : Str) : Str := '\n' :: dataTag ++ [';']

def parseDataPortion (dataPortion dataTag : Str) : Str :=
  if dataPortion.length > 0 ∧ dataTag.length > 0 then
    match indexOf (searchString dataTag) dataPortion with
    | none => dataNotSetString
    | some pos =>
      match indexOfFrom [';'] dataPortion pos with
      | none => dataNotSetString -- The match holds a `;`.
      | some pos1 =>
        match indexOfFrom ['\n'] dataPortion pos1 with
        | some pos2 => if pos2 > pos1 + 1 then slice dataPortion (pos1 + 1) pos2 else []
        | none => []
  else dataNotSetString

/-- `UpdateData_UpdateServerData`: the value of a tag in a message. -/
def messageValue (message tag : Str) : Str :=
  match indexOf dataTag message with
  | some dataPos => parseDataPortion (message.drop dataPos) tag
  | none => dataNotSetString

/-! ## What the parser reads at a match -/

/-- The value that starts after the first `;` of the text and ends with the line. -/
def valueAt (s : Str) : Str :=
  match indexOf [';'] s with
  | none => dataNotSetString
  | some i =>
    match indexOfFrom ['\n'] s i with
    | some j => if j > i + 1 then slice s (i + 1) j else []
    | none => []

theorem parseDataPortion_eq (dataPortion tag : Str) (hd : dataPortion ≠ []) (ht : tag ≠ []) :
    parseDataPortion dataPortion tag =
      ((textFrom (searchString tag) dataPortion).map valueAt).getD dataNotSetString := by
  have hpos : dataPortion.length > 0 ∧ tag.length > 0 :=
    ⟨List.length_pos_of_ne_nil hd, List.length_pos_of_ne_nil ht⟩
  rw [parseDataPortion, if_pos hpos, textFrom]
  cases indexOf (searchString tag) dataPortion with
  | none => rfl
  | some pos =>
    simp only [Option.map_some, Option.getD_some, valueAt, indexOfFrom, List.drop_drop]
    cases indexOf [';'] (dataPortion.drop pos) with
    | none => rfl
    | some i =>
      simp only [Option.map_some, Nat.add_comm i pos]
      cases indexOf ['\n'] (dataPortion.drop (pos + i)) with
      | none => rfl
      | some j =>
        have hcmp : j + (pos + i) > pos + i + 1 ↔ j + i > i + 1 := by omega
        have hslice : slice dataPortion (pos + i + 1) (j + (pos + i)) =
            slice (dataPortion.drop pos) (i + 1) (j + i) := by
          rw [slice, slice, List.drop_drop]
          congr 1
          omega
        simp only [Option.map_some, hcmp, hslice]

theorem valueAt_line (name value rest : Str) (hn : ';' ∉ name) (hv : '\n' ∉ value) :
    valueAt ('\n' :: name ++ ';' :: value ++ '\n' :: rest) = value := by
  have hsemi : indexOf [';'] ('\n' :: name ++ (';' :: value ++ '\n' :: rest)) =
      some (name.length + 1) := by
    rw [indexOf_append_of_notMem _ _ _ _ (by simpa using hn),
      indexOf_of_startsWith _ _ (by simp)]
    simp
  have hdrop : ('\n' :: name ++ (';' :: value ++ '\n' :: rest)).drop (name.length + 1) =
      ';' :: value ++ '\n' :: rest := by simp
  have hnl : indexOf ['\n'] (';' :: value ++ '\n' :: rest) = some (value.length + 1) := by
    rw [indexOf_append_of_notMem _ _ _ _ (by simpa using hv), indexOf_of_startsWith _ _ (by simp)]
    simp
  have hsplit : '\n' :: name ++ ';' :: value ++ '\n' :: rest =
      '\n' :: name ++ (';' :: value ++ '\n' :: rest) := by simp
  rw [hsplit, valueAt, hsemi]
  simp only [indexOfFrom, hdrop, hnl, Option.map_some]
  by_cases h0 : value = []
  · rw [if_neg (by simp [h0]; omega), h0]
  · have hlen := List.length_pos_of_ne_nil h0
    rw [if_pos (by omega), slice, ← List.drop_drop, hdrop]
    have : value.length + 1 + (name.length + 1) - (name.length + 1 + 1) = value.length := by omega
    simp [this]

/-! ## Parsing what the server prints -/

/-- A name that the printed format can carry. -/
def NameOk (name : Str) : Prop := name ≠ [] ∧ isAscii name ∧ ';' ∉ name ∧ '\n' ∉ name

instance (name : Str) : Decidable (NameOk name) :=
  inferInstanceAs (Decidable (name ≠ [] ∧ isAscii name ∧ ';' ∉ name ∧ '\n' ∉ name))

/-- The data lines after their first line end, searched for one tag. -/
theorem textFrom_dataLines (tag : Str) (es : List (Str × Str)) (ht : NameOk tag)
    (hes : ∀ p ∈ es, NameOk p.1 ∧ '\n' ∉ p.2) :
    (textFrom (searchString tag) ('\n' :: es.flatMap dataLine)).map valueAt = es.lookup tag := by
  obtain ⟨htne, -, hsemi, hnl⟩ := ht
  induction es with
  | nil =>
    have hno : ¬ searchString tag <+: ['\n'] := by
      intro h
      have := h.length_le
      simp [searchString] at this
    rw [List.flatMap_nil, textFrom_cons_of_not_startsWith _ _ _ hno]
    rfl
  | cons p es ih =>
    obtain ⟨name, value⟩ := p
    obtain ⟨⟨-, -, hnsemi, hnnl⟩, hv⟩ := hes (name, value) (by simp)
    have hline : '\n' :: ((name, value) :: es).flatMap dataLine =
        '\n' :: name ++ ';' :: value ++ '\n' :: es.flatMap dataLine := by simp [dataLine]
    rw [hline]
    by_cases hname : tag = name
    · subst hname
      rw [textFrom_of_startsWith _ _ ⟨value ++ '\n' :: es.flatMap dataLine, by simp [searchString]⟩,
        Option.map_some, valueAt_line _ _ _ hsemi hv]
      simp
    · have hno : ¬ searchString tag <+: '\n' :: (name ++ ';' :: value ++ '\n' :: es.flatMap dataLine) := by
        intro h
        have hrest := (List.cons_prefix_cons.mp h).2
        rw [List.append_assoc, List.cons_append] at hrest
        exact hname (eq_of_append_sep_startsWith ';' _ _ _ hsemi hnsemi hrest)
      have hbeq : (tag == name) = false := by simpa using hname
      rw [List.cons_append, List.cons_append, textFrom_cons_of_not_startsWith _ _ _ hno, searchString,
        List.cons_append, textFrom_append_of_notMem '\n' _ (name ++ ';' :: value) _ (by simp [hnnl, hv]),
        List.lookup_cons, hbeq]
      exact ih (fun q hq => hes q (by simp [hq]))

theorem newline_notMem_dataTag : '\n' ∉ dataTag := by decide

def dataPortion (es : List (Str × Str)) : Str := dataTag ++ '\n' :: '\n' :: es.flatMap dataLine

/-- **Parse of print.** The parser gives the value of the tag's entry, or not set when there is none. -/
theorem parseDataPortion_dataPortion (tag : Str) (es : List (Str × Str)) (ht : NameOk tag)
    (hes : ∀ p ∈ es, NameOk p.1 ∧ '\n' ∉ p.2) :
    parseDataPortion (dataPortion es) tag = (es.lookup tag).getD dataNotSetString := by
  have hno : ¬ searchString tag <+: '\n' :: '\n' :: es.flatMap dataLine := by
    intro h
    have hrest := (List.cons_prefix_cons.mp h).2
    cases tag with
    | nil => exact ht.1 rfl
    | cons c t => exact ht.2.2.2 (by simp [(List.cons_prefix_cons.mp hrest).1])
  rw [parseDataPortion_eq _ _ (by simp [dataPortion]) ht.1,
    ← textFrom_dataLines tag es ht hes, dataPortion]
  congr 2
  have hskip := textFrom_append_of_notMem '\n' (tag ++ [';']) dataTag
    ('\n' :: '\n' :: es.flatMap dataLine) newline_notMem_dataTag
  exact hskip.trans (textFrom_cons_of_not_startsWith _ _ _ hno)

/-- The session info in front of the data does not matter when the data tag is not in it. -/
theorem messageValue_session (session tag : Str) (es : List (Str × Str))
    (hs : ¬ dataTag <:+: session) :
    messageValue (session ++ '\n' :: dataPortion es) tag = parseDataPortion (dataPortion es) tag := by
  have hfrom : textFrom dataTag (session ++ '\n' :: dataPortion es) = some (dataPortion es) := by
    rw [textFrom_append_cons _ _ _ _ newline_notMem_dataTag hs]
    exact textFrom_of_startsWith _ _ (List.prefix_append _ _)
  unfold messageValue
  unfold textFrom at hfrom
  cases hpos : indexOf dataTag (session ++ '\n' :: dataPortion es) with
  | none => simp [hpos] at hfrom
  | some pos =>
    rw [hpos, Option.map_some, Option.some.injEq] at hfrom
    simp only [hfrom]

theorem messageValue_dataPortion (tag : Str) (es : List (Str × Str)) :
    messageValue (dataPortion es) tag = parseDataPortion (dataPortion es) tag := by
  have hpos : indexOf dataTag (dataPortion es) = some 0 :=
    indexOf_of_startsWith _ _ (List.prefix_append _ _)
  rw [messageValue, hpos]
  rfl

end IrPitCrew.ParseData
