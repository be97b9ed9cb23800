import IrPitCrew.Lib.Outline
import IrPitCrew.Lib.Text

/-!
# parseYaml: a value of the session info by its path

The parser reads the text once, character by character. At each line end it
compares the key of the line with what is left of the path.
-/

open IrPitCrew.Text

namespace IrPitCrew.Yaml

/-! ## The state machine -/

/-- The values of `yaml_state`. -/
inductive YamlState where
  | space | key | keysep | value | newline
  deriving DecidableEq

/-- What the loop keeps. A pointer is the text from there on, and a null pointer is the empty text. -/
structure Parser where
  depth : Nat := 0
  state : YamlState := .space
  keystr : Str := []
  keylen : Nat := 0
  valuestr : Str := []
  valuelen : Nat := 0
  pathptr : Str
  pathdepth : Nat := 0

def isLineEnd (c : Char) : Bool := c = '\n' || c = '\r'

namespace Parser

def leaveNewline (p : Parser) : Parser :=
  if p.state = .newline then { p with state := .space } else p

def onSpace (p : Parser) : Parser :=
  let p := p.leaveNewline
  match p.state with
  | .space => { p with depth := p.depth + 1 }
  | .key => { p with keylen := p.keylen + 1 }
  | .value => { p with valuelen := p.valuelen + 1 }
  | _ => p

def onDash (data : Str) (p : Parser) : Parser :=
  let p := p.leaveNewline
  match p.state with
  | .space => { p with depth := p.depth + 1 }
  | .key => { p with keylen := p.keylen + 1 }
  | .value => { p with valuelen := p.valuelen + 1 }
  | .keysep => { p with state := .value, valuestr := data, valuelen := 1 }
  | .newline => p

/-- A value that starts with the colon does not count it. -/
def onColon (data : Str) (p : Parser) : Parser :=
  match p.state with
  | .key => { p with state := .keysep, keylen := p.keylen + 1 }
  | .keysep => { p with state := .value, valuestr := data }
  | .value => { p with valuelen := p.valuelen + 1 }
  | _ => p

def onOther (data : Str) (p : Parser) : Parser :=
  match p.state with
  | .space | .newline => { p with state := .key, keystr := data, keylen := 1 }
  | .keysep => { p with state := .value, valuestr := data, valuelen := 1 }
  | .key => { p with keylen := p.keylen + 1 }
  | .value => { p with valuelen := p.valuelen + 1 }

/-- The path after the key of the line and the value that the path may ask for. -/
def matchLine (p : Parser) : Option Str :=
  if p.keylen ≠ 0 ∧ p.keystr.take p.keylen = p.pathptr.take p.keylen then
    match p.pathptr.drop p.keylen with
    | '{' :: pathvalue =>
      if p.valuelen = (pathvalue.takeWhile (· ≠ '}')).length ∧
          p.valuestr.take p.valuelen = pathvalue.take p.valuelen then
        some (p.pathptr.drop (p.keylen + p.valuelen + 2))
      else none
    | pathptr => some pathptr
  else none

def nextLine (p : Parser) : Parser :=
  { p with depth := 0, keylen := 0, valuelen := 0, state := .newline }

/-- An error is a `return`, with the value when the path is found. -/
def onLineEnd (p : Parser) : Except (Option Str) Parser :=
  if p.state = .newline then .ok p
  else if p.depth < p.pathdepth then .error none
  else match p.matchLine with
    | none => .ok p.nextLine
    | some [] => .error (some (p.valuestr.take p.valuelen))
    | some pathptr => .ok { p with pathptr, pathdepth := p.depth }.nextLine

/-- The body of the loop, at a character of the data. -/
def step (c : Char) (data : Str) (p : Parser) : Except (Option Str) Parser :=
  if c = ' ' then .ok p.onSpace
  else if c = '-' then .ok (p.onDash (c :: data))
  else if c = ':' then .ok (p.onColon (c :: data))
  else if isLineEnd c then p.onLineEnd
  else .ok (p.onOther (c :: data))

def run : Str → Parser → Option Str
  | [], _ => none
  | c :: data, p =>
    match p.step c data with
    | .error result => result
    | .ok p => run data p

end Parser

/-- The value at the path. -/
def parseYaml (data path : Str) : Option Str := Parser.run data { pathptr := path }

/-! ## Lines -/

/-- What counts of a line. The key ends with its colon. -/
structure Line where
  depth : Nat
  key : Str
  value : Str
  deriving DecidableEq

/-- A dash counts as a blank in front of a key. -/
def isIndent (c : Char) : Bool := c = ' ' || c = '-' || c = ':'

def indentDepth (indent : Str) : Nat := indent.countP (· ≠ ':')

/-- A value that starts with a colon loses its last character. -/
def valueText (value : Str) : Str := if value.head? = some ':' then value.dropLast else value

def readLine (line : Str) : Line :=
  let keytext := line.dropWhile isIndent
  let valuetext := keytext.dropWhile (· ≠ ':')
  { depth := indentDepth (line.takeWhile isIndent)
    key := keytext.takeWhile (· ≠ ':') ++ valuetext.take 1
    value := valueText ((valuetext.drop 1).dropWhile (· = ' ')) }

/-- The lines that a line end closes, when the text before the data is the start of a line. -/
def closedLines : Str → Str → List Str
  | _, [] => []
  | line, c :: data =>
    if isLineEnd c then line :: closedLines [] data else closedLines (line ++ [c]) data

/-- A line of colons only does not count. -/
def readLines (data : Str) : List Line :=
  ((closedLines [] data).filter fun line => line.any (· ≠ ':')).map readLine

/-- The path after a line that matches. -/
def Line.advance (line : Line) (path : Str) : Option Str :=
  if line.key ≠ [] ∧ line.key <+: path then
    match path.drop line.key.length with
    | '{' :: pathvalue =>
      if line.value = pathvalue.takeWhile (· ≠ '}') then some (pathvalue.drop (line.value.length + 1))
      else none
    | path => some path
  else none

def searchLines : Str → Nat → List Line → Option Str
  | _, _, [] => none
  | path, depth, line :: lines =>
    if line.depth < depth then none
    else match line.advance path with
      | none => searchLines path depth lines
      | some [] => some line.value
      | some path => searchLines path line.depth lines

/-! ## What the parser has read of a line -/

/-- Decided for the one character there may be, and not by trying every one. -/
instance decidableForallMemHead (p : Char → Prop) [DecidablePred p] :
    ∀ o : Option Char, Decidable (∀ c ∈ o, p c)
  | none => isTrue (by simp)
  | some c => decidable_of_iff (p c) (by simp)

structure IsKey (key : Str) : Prop where
  head : ∀ c ∈ key.head?, isIndent c = false
  colon : ':' ∉ key
  ne_nil : key ≠ []

/-- The parser has read the line, and the data follow. -/
inductive Reads (data : Str) (p : Parser) : Str → Prop where
  | newline {line : Str} (hstate : p.state = .newline) (hline : ∀ c ∈ line, c = ':')
      (hdepth : p.depth = 0) (hkeylen : p.keylen = 0) (hvaluelen : p.valuelen = 0) : Reads data p line
  | space {line : Str} (hstate : p.state = .space) (hline : ∀ c ∈ line, isIndent c = true)
      (hdepth : p.depth = indentDepth line) (hkeylen : p.keylen = 0) (hvaluelen : p.valuelen = 0)
      (hfirst : (∃ c ∈ line, c ≠ ':') ∨ p.pathdepth = 0) : Reads data p line
  | key {indent key : Str} (hstate : p.state = .key) (hindent : ∀ c ∈ indent, isIndent c = true)
      (hkey : IsKey key) (hdepth : p.depth = indentDepth indent) (hkeylen : p.keylen = key.length)
      (hkeystr : p.keystr = key ++ data) (hvaluelen : p.valuelen = 0) : Reads data p (indent ++ key)
  | keysep {indent key blanks : Str} (hstate : p.state = .keysep)
      (hindent : ∀ c ∈ indent, isIndent c = true) (hkey : IsKey key)
      (hblanks : ∀ c ∈ blanks, c = ' ') (hdepth : p.depth = indentDepth indent)
      (hkeylen : p.keylen = key.length + 1) (hkeystr : p.keystr.take p.keylen = key ++ [':'])
      (hvaluelen : p.valuelen = 0) : Reads data p (indent ++ (key ++ ':' :: blanks))
  | value {indent key blanks value : Str} (hstate : p.state = .value)
      (hindent : ∀ c ∈ indent, isIndent c = true) (hkey : IsKey key)
      (hblanks : ∀ c ∈ blanks, c = ' ') (hvalue : ∃ c ∈ value.head?, c ≠ ' ')
      (hdepth : p.depth = indentDepth indent) (hkeylen : p.keylen = key.length + 1)
      (hkeystr : p.keystr.take p.keylen = key ++ [':']) (hvaluestr : p.valuestr = value ++ data)
      (hvaluelen : p.valuelen = (valueText value).length) :
      Reads data p (indent ++ (key ++ ':' :: (blanks ++ value)))

theorem IsKey.any_ne_colon {key : Str} (hkey : IsKey key) (indent rest : Str) :
    ∃ c ∈ indent ++ (key ++ rest), c ≠ ':' := by
  obtain ⟨c, key, rfl⟩ := List.exists_cons_of_ne_nil hkey.ne_nil
  exact ⟨c, by simp, fun hc => hkey.colon (by simp [hc])⟩

theorem indentDepth_concat (indent : Str) (c : Char) :
    indentDepth (indent ++ [c]) = indentDepth indent + if c = ':' then 0 else 1 := by
  by_cases hc : c = ':'
  · simp [indentDepth, hc]
  · simp [indentDepth, hc]

theorem valueText_concat (value : Str) (c : Char) (hvalue : value ≠ []) :
    (valueText (value ++ [c])).length = (valueText value).length + 1 := by
  obtain ⟨d, value, rfl⟩ := List.exists_cons_of_ne_nil hvalue
  by_cases hd : d = ':'
  · simp [valueText, hd]
  · simp [valueText, hd]

/-! ## A character inside a line -/

namespace Parser

variable {p : Parser} {c : Char} (hc : isLineEnd c = false) (data : Str)

include hc

theorem step_newline (hstate : p.state = .newline) :
    p.step c data = .ok (
      if c = ':' then p
      else if isIndent c then { p with state := .space, depth := p.depth + 1 }
      else { p with state := .key, keystr := c :: data, keylen := 1 }) := by
  unfold step isIndent
  split_ifs <;> simp_all [onSpace, onDash, onColon, onOther, leaveNewline]

theorem step_space (hstate : p.state = .space) :
    p.step c data = .ok (
      if c = ':' then p
      else if isIndent c then { p with depth := p.depth + 1 }
      else { p with state := .key, keystr := c :: data, keylen := 1 }) := by
  unfold step isIndent
  split_ifs <;> simp_all [onSpace, onDash, onColon, onOther, leaveNewline]

theorem step_key (hstate : p.state = .key) :
    p.step c data = .ok (
      if c = ':' then { p with state := .keysep, keylen := p.keylen + 1 }
      else { p with keylen := p.keylen + 1 }) := by
  unfold step
  split_ifs <;> simp_all [onSpace, onDash, onColon, onOther, leaveNewline]

theorem step_keysep (hstate : p.state = .keysep) (hvaluelen : p.valuelen = 0) :
    p.step c data = .ok (
      if c = ' ' then p
      else { p with
        state := .value, valuestr := c :: data, valuelen := if c = ':' then 0 else 1 }) := by
  unfold step
  split_ifs <;> simp_all [onSpace, onDash, onColon, onOther, leaveNewline]

theorem step_value (hstate : p.state = .value) :
    p.step c data = .ok { p with valuelen := p.valuelen + 1 } := by
  unfold step
  split_ifs <;> simp_all [onSpace, onDash, onColon, onOther, leaveNewline]

end Parser

theorem isKey_singleton {c : Char} (hc : isIndent c = false) : IsKey [c] := by
  refine ⟨by simpa using hc, ?_, by simp⟩
  intro hmem
  rw [← List.mem_singleton.mp hmem] at hc
  contradiction

theorem IsKey.concat {key : Str} (hkey : IsKey key) {c : Char} (hc : c ≠ ':') : IsKey (key ++ [c]) := by
  obtain ⟨d, key, rfl⟩ := List.exists_cons_of_ne_nil hkey.ne_nil
  exact ⟨by simpa using hkey.head, by simpa [Ne.symm hc] using hkey.colon, by simp⟩

theorem forall_indent_concat {indent : Str} {c : Char} (hindent : ∀ c ∈ indent, isIndent c = true)
    (hc : isIndent c = true) : ∀ d ∈ indent ++ [c], isIndent d = true := by
  intro d hd
  rcases List.mem_append.mp hd with hd | hd
  · exact hindent d hd
  · rw [List.mem_singleton.mp hd, hc]

theorem indentDepth_eq_zero {indent : Str} (h : ∀ c ∈ indent, c = ':') : indentDepth indent = 0 := by
  rw [indentDepth, List.countP_eq_zero]
  intro c hc
  simpa using h c hc

/-- The parser takes a character inside a line, and keeps what is left of the path. -/
def StepsInLine (c : Char) (data : Str) (p : Parser) (line : Str) : Prop :=
  ∃ p', p.step c data = .ok p' ∧ Reads data p' (line ++ [c]) ∧ p'.pathptr = p.pathptr ∧
    p'.pathdepth = p.pathdepth

section

variable {c : Char} {data : Str} {p : Parser} (hc : isLineEnd c = false)

include hc

theorem stepsInLine_newline {line : Str} (hstate : p.state = .newline) (hline : ∀ c ∈ line, c = ':')
    (hdepth : p.depth = 0) (hkeylen : p.keylen = 0) (hvaluelen : p.valuelen = 0) :
    StepsInLine c data p line := by
  refine ⟨_, Parser.step_newline hc data hstate, ?_⟩
  have hindent : ∀ d ∈ line, isIndent d = true := by
    intro d hd
    rw [hline d hd]
    rfl
  have hcolons := indentDepth_eq_zero hline
  split_ifs with hcolon hdash
  · refine ⟨.newline hstate ?_ hdepth hkeylen hvaluelen, rfl, rfl⟩
    intro d hd
    rcases List.mem_append.mp hd with hd | hd
    · exact hline d hd
    · rw [List.mem_singleton.mp hd, hcolon]
  · refine ⟨.space rfl (forall_indent_concat hindent hdash) ?_ hkeylen hvaluelen
      (.inl ⟨c, by simp, hcolon⟩), rfl, rfl⟩
    rw [indentDepth_concat, if_neg hcolon, hcolons, hdepth]
  · refine ⟨.key rfl hindent (isKey_singleton (by simpa using hdash)) ?_ rfl rfl hvaluelen, rfl, rfl⟩
    rw [hcolons, hdepth]

theorem stepsInLine_space {line : Str} (hstate : p.state = .space) (hline : ∀ c ∈ line, isIndent c = true)
    (hdepth : p.depth = indentDepth line) (hkeylen : p.keylen = 0) (hvaluelen : p.valuelen = 0)
    (hfirst : (∃ c ∈ line, c ≠ ':') ∨ p.pathdepth = 0) : StepsInLine c data p line := by
  refine ⟨_, Parser.step_space hc data hstate, ?_⟩
  have hfirst' : (∃ d ∈ line ++ [c], d ≠ ':') ∨ p.pathdepth = 0 := by
    refine hfirst.imp_left ?_
    rintro ⟨d, hd, hne⟩
    exact ⟨d, by simp [hd], hne⟩
  split_ifs with hcolon hdash
  · refine ⟨.space hstate (forall_indent_concat hline (by rw [hcolon]; rfl)) ?_ hkeylen hvaluelen
      hfirst', rfl, rfl⟩
    rw [indentDepth_concat, if_pos hcolon, hdepth, Nat.add_zero]
  · refine ⟨.space hstate (forall_indent_concat hline hdash) ?_ hkeylen hvaluelen hfirst', rfl, rfl⟩
    rw [indentDepth_concat, if_neg hcolon, hdepth]
  · exact ⟨.key rfl hline (isKey_singleton (by simpa using hdash)) hdepth rfl rfl hvaluelen, rfl, rfl⟩

theorem stepsInLine_key {indent key : Str} (hstate : p.state = .key)
    (hindent : ∀ c ∈ indent, isIndent c = true) (hkey : IsKey key) (hdepth : p.depth = indentDepth indent)
    (hkeylen : p.keylen = key.length) (hkeystr : p.keystr = key ++ c :: data)
    (hvaluelen : p.valuelen = 0) : StepsInLine c data p (indent ++ key) := by
  refine ⟨_, Parser.step_key hc data hstate, ?_⟩
  rw [List.append_assoc]
  split_ifs with hcolon
  · refine ⟨?_, rfl, rfl⟩
    subst hcolon
    refine .keysep rfl hindent hkey (by simp) hdepth (by rw [hkeylen]) ?_ hvaluelen
    rw [hkeylen, hkeystr, List.take_append]
    simp
  · refine ⟨.key hstate hindent (hkey.concat hcolon) hdepth ?_ ?_ hvaluelen, rfl, rfl⟩
    · rw [hkeylen, List.length_append, List.length_singleton]
    · rw [hkeystr, List.append_assoc, List.singleton_append]

theorem stepsInLine_keysep {indent key blanks : Str} (hstate : p.state = .keysep)
    (hindent : ∀ c ∈ indent, isIndent c = true) (hkey : IsKey key) (hblanks : ∀ c ∈ blanks, c = ' ')
    (hdepth : p.depth = indentDepth indent) (hkeylen : p.keylen = key.length + 1)
    (hkeystr : p.keystr.take p.keylen = key ++ [':']) (hvaluelen : p.valuelen = 0) :
    StepsInLine c data p (indent ++ (key ++ ':' :: blanks)) := by
  refine ⟨_, Parser.step_keysep hc data hstate hvaluelen, ?_⟩
  rw [List.append_assoc, List.append_assoc, List.cons_append]
  by_cases hblank : c = ' '
  · rw [if_pos hblank]
    refine ⟨.keysep hstate hindent hkey ?_ hdepth hkeylen hkeystr hvaluelen, rfl, rfl⟩
    intro d hd
    rcases List.mem_append.mp hd with hd | hd
    · exact hblanks d hd
    · rw [List.mem_singleton.mp hd, hblank]
  · rw [if_neg hblank]
    refine ⟨.value rfl hindent hkey hblanks ⟨c, rfl, hblank⟩ hdepth hkeylen hkeystr rfl ?_, rfl, rfl⟩
    by_cases hcolon : c = ':'
    · simp [valueText, hcolon]
    · simp [valueText, hcolon]

theorem stepsInLine_value {indent key blanks value : Str} (hstate : p.state = .value)
    (hindent : ∀ c ∈ indent, isIndent c = true) (hkey : IsKey key) (hblanks : ∀ c ∈ blanks, c = ' ')
    (hvalue : ∃ c ∈ value.head?, c ≠ ' ') (hdepth : p.depth = indentDepth indent)
    (hkeylen : p.keylen = key.length + 1) (hkeystr : p.keystr.take p.keylen = key ++ [':'])
    (hvaluestr : p.valuestr = value ++ c :: data) (hvaluelen : p.valuelen = (valueText value).length) :
    StepsInLine c data p (indent ++ (key ++ ':' :: (blanks ++ value))) := by
  refine ⟨_, Parser.step_value hc data hstate, ?_⟩
  rw [List.append_assoc, List.append_assoc, List.cons_append, List.append_assoc]
  obtain ⟨d, hd, hne⟩ := hvalue
  have hvalue : value ≠ [] := by
    rintro rfl
    contradiction
  refine ⟨.value hstate hindent hkey hblanks ⟨d, ?_, hne⟩ hdepth hkeylen hkeystr ?_ ?_, rfl, rfl⟩
  · rw [List.head?_append, Option.mem_def.mp hd]
    rfl
  · rw [hvaluestr, List.append_assoc, List.singleton_append]
  · rw [valueText_concat value c hvalue, hvaluelen]

theorem Reads.step {line : Str} (h : Reads (c :: data) p line) : StepsInLine c data p line := by
  cases h with
  | newline hstate hline hdepth hkeylen hvaluelen =>
    exact stepsInLine_newline hc hstate hline hdepth hkeylen hvaluelen
  | space hstate hline hdepth hkeylen hvaluelen hfirst =>
    exact stepsInLine_space hc hstate hline hdepth hkeylen hvaluelen hfirst
  | key hstate hindent hkey hdepth hkeylen hkeystr hvaluelen =>
    exact stepsInLine_key hc hstate hindent hkey hdepth hkeylen hkeystr hvaluelen
  | keysep hstate hindent hkey hblanks hdepth hkeylen hkeystr hvaluelen =>
    exact stepsInLine_keysep hc hstate hindent hkey hblanks hdepth hkeylen hkeystr hvaluelen
  | value hstate hindent hkey hblanks hvalue hdepth hkeylen hkeystr hvaluestr hvaluelen =>
    exact stepsInLine_value hc hstate hindent hkey hblanks hvalue hdepth hkeylen hkeystr hvaluestr hvaluelen

end

/-! ## The end of a line -/

theorem dropWhile_indent {indent text : Str} (hindent : ∀ c ∈ indent, isIndent c = true)
    (htext : ∀ c ∈ text.head?, isIndent c = false) : (indent ++ text).dropWhile isIndent = text := by
  rw [List.dropWhile_append_of_pos hindent]
  cases text with
  | nil => rfl
  | cons c text => rw [List.dropWhile_cons_of_neg (by simpa using htext c rfl)]

theorem takeWhile_indent {indent text : Str} (hindent : ∀ c ∈ indent, isIndent c = true)
    (htext : ∀ c ∈ text.head?, isIndent c = false) : (indent ++ text).takeWhile isIndent = indent := by
  rw [List.takeWhile_append_of_pos hindent]
  cases text with
  | nil => simp
  | cons c text => rw [List.takeWhile_cons_of_neg (by simpa using htext c rfl), List.append_nil]

theorem IsKey.forall_ne_colon {key : Str} (hkey : IsKey key) : ∀ c ∈ key, decide (c ≠ ':') = true := by
  intro c hc
  refine decide_eq_true ?_
  rintro rfl
  exact hkey.colon hc

/-- A line is read from its parts. -/
theorem readLine_append {indent key : Str} (hindent : ∀ c ∈ indent, isIndent c = true)
    (hkey : IsKey key) (blanks value : Str) (hblanks : ∀ c ∈ blanks, c = ' ')
    (hvalue : ∀ c ∈ value.head?, c ≠ ' ') :
    readLine (indent ++ (key ++ ':' :: (blanks ++ value))) =
      { depth := indentDepth indent, key := key ++ [':'], value := valueText value } := by
  have hhead : ∀ c ∈ (key ++ ':' :: (blanks ++ value)).head?, isIndent c = false := by
    obtain ⟨c, key, rfl⟩ := List.exists_cons_of_ne_nil hkey.ne_nil
    simpa using hkey.head
  have hblankChars : ∀ c ∈ blanks, (decide (c = ' ')) = true := by
    intro c hc
    simpa using hblanks c hc
  have hvalueChars : value.dropWhile (· = ' ') = value := by
    cases value with
    | nil => rfl
    | cons c value => rw [List.dropWhile_cons_of_neg (by simpa using hvalue c rfl)]
  unfold readLine
  dsimp only
  rw [dropWhile_indent hindent hhead, takeWhile_indent hindent hhead,
    List.dropWhile_append_of_pos hkey.forall_ne_colon,
    List.takeWhile_append_of_pos hkey.forall_ne_colon]
  simp [List.dropWhile_append_of_pos hblankChars, hvalueChars]

theorem readLine_key {indent key : Str} (hindent : ∀ c ∈ indent, isIndent c = true)
    (hkey : IsKey key) :
    readLine (indent ++ key) = { depth := indentDepth indent, key := key, value := [] } := by
  unfold readLine
  dsimp only
  rw [dropWhile_indent hindent hkey.head, takeWhile_indent hindent hkey.head,
    List.dropWhile_eq_nil_iff.mpr hkey.forall_ne_colon,
    List.takeWhile_eq_self_iff.mpr hkey.forall_ne_colon]
  simp [valueText]

theorem readLine_indent {indent : Str} (hindent : ∀ c ∈ indent, isIndent c = true) :
    readLine indent = { depth := indentDepth indent, key := [], value := [] } := by
  unfold readLine
  dsimp only
  rw [List.dropWhile_eq_nil_iff.mpr hindent, List.takeWhile_eq_self_iff.mpr hindent]
  simp [valueText]

/-- What the parser holds at the end of a line. -/
structure Holds (p : Parser) (line : Line) : Prop where
  depth : p.depth = line.depth
  keylen : p.keylen = line.key.length
  keystr : p.keystr.take p.keylen = line.key
  valuelen : p.valuelen = line.value.length
  valuestr : p.valuestr.take p.valuelen = line.value

theorem Reads.holds {data line : Str} {p : Parser} (h : Reads data p line)
    (hstate : p.state ≠ .newline) : Holds p (readLine line) := by
  cases h with
  | newline hnewline => exact absurd hnewline hstate
  | space _ hline hdepth hkeylen hvaluelen _ =>
    rw [readLine_indent hline]
    exact ⟨hdepth, hkeylen, by rw [hkeylen]; rfl, hvaluelen, by rw [hvaluelen]; rfl⟩
  | key _ hindent hkey hdepth hkeylen hkeystr hvaluelen =>
    rw [readLine_key hindent hkey]
    exact ⟨hdepth, hkeylen, by simp [hkeylen, hkeystr], hvaluelen, by rw [hvaluelen]; rfl⟩
  | @keysep _ _ blanks _ hindent hkey hblanks hdepth hkeylen hkeystr hvaluelen =>
    have hread := readLine_append hindent hkey blanks [] hblanks (by simp)
    rw [List.append_nil] at hread
    rw [hread]
    exact ⟨hdepth, by simp [hkeylen], hkeystr, hvaluelen, by rw [hvaluelen]; rfl⟩
  | @value _ _ blanks value _ hindent hkey hblanks hvalue hdepth hkeylen hkeystr hvaluestr hvaluelen =>
    obtain ⟨c, hhead, hc⟩ := hvalue
    rw [readLine_append hindent hkey blanks value hblanks (by simp [Option.mem_def.mp hhead, hc])]
    refine ⟨hdepth, by simp [hkeylen], hkeystr, hvaluelen, ?_⟩
    -- The text from the value on holds its counted part, even when the last character is lost.
    have hcounted : valueText value <+: value := by
      unfold valueText
      split
      · exact List.dropLast_prefix value
      · exact List.prefix_rfl
    rw [hvaluelen, hvaluestr, List.take_append_of_le_length hcounted.length_le]
    exact (List.prefix_iff_eq_take.mp hcounted).symm

theorem Holds.matchLine {p : Parser} {line : Line} (h : Holds p line) :
    p.matchLine = line.advance p.pathptr := by
  have hkey : (p.keylen ≠ 0 ∧ p.keystr.take p.keylen = p.pathptr.take p.keylen) ↔
      (line.key ≠ [] ∧ line.key <+: p.pathptr) := by
    rw [h.keystr, h.keylen, List.prefix_iff_eq_take, Ne, Ne, List.length_eq_zero_iff]
  unfold Parser.matchLine Line.advance
  rw [if_congr hkey rfl rfl, h.keylen, h.valuelen]
  split_ifs with hstarts
  · split
    · rename_i pathvalue hpath
      have hvalue : (line.value.length = (pathvalue.takeWhile (· ≠ '}')).length ∧
          p.valuestr.take line.value.length = pathvalue.take line.value.length) ↔
          line.value = pathvalue.takeWhile (· ≠ '}') := by
        rw [← h.valuelen, h.valuestr, h.valuelen]
        have hwhile :=
          List.prefix_iff_eq_take.mp (List.takeWhile_prefix (· ≠ '}') (l := pathvalue))
        constructor
        · rintro ⟨hlength, htake⟩
          rw [hwhile, ← hlength, ← htake]
        · intro hvalue
          exact ⟨by rw [hvalue], by rw [hvalue]; exact hwhile⟩
      have hdrop : p.pathptr.drop (line.key.length + line.value.length + 2) =
          pathvalue.drop (line.value.length + 1) := by
        rw [Nat.add_assoc, ← List.drop_drop, hpath]
        rfl
      rw [if_congr hvalue rfl rfl, hdrop]
    · rfl
  · rfl

/-! ## Lines -/

theorem Holds.onLineEnd {p : Parser} {line : Line} (h : Holds p line) (hstate : p.state ≠ .newline) :
    p.onLineEnd =
      if line.depth < p.pathdepth then .error none
      else match line.advance p.pathptr with
        | none => .ok p.nextLine
        | some [] => .error (some line.value)
        | some pathptr => .ok { p with pathptr, pathdepth := line.depth }.nextLine := by
  unfold Parser.onLineEnd
  rw [if_neg hstate, h.matchLine, h.depth, h.valuestr]

theorem reads_nextLine (data : Str) (p : Parser) : Reads data p.nextLine [] :=
  .newline rfl (by simp) rfl rfl rfl

theorem Reads.colons_of_newline {data line : Str} {p : Parser} (h : Reads data p line)
    (hstate : p.state = .newline) (data' : Str) : (∀ c ∈ line, c = ':') ∧ Reads data' p [] := by
  cases h with
  | newline _ hline hdepth hkeylen hvaluelen =>
    exact ⟨hline, .newline hstate (by simp) hdepth hkeylen hvaluelen⟩
  | space hspace | key hspace | keysep hspace | value hspace =>
    rw [hstate] at hspace
    contradiction

/-- Only the first line of the text is a line of colons that counts. -/
theorem Reads.pathdepth_of_colons {data line : Str} {p : Parser} (h : Reads data p line)
    (hstate : p.state ≠ .newline) (hline : ∀ c ∈ line, c = ':') : p.pathdepth = 0 := by
  cases h with
  | newline hnewline => exact absurd hnewline hstate
  | space _ _ _ _ _ hfirst =>
    refine hfirst.resolve_left ?_
    rintro ⟨c, hc, hne⟩
    exact hne (hline c hc)
  | key _ _ hkey =>
    obtain ⟨c, hc, hne⟩ := hkey.any_ne_colon _ []
    rw [List.append_nil] at hc
    exact absurd (hline c hc) hne
  | keysep _ _ hkey | value _ _ hkey =>
    obtain ⟨c, hc, hne⟩ := hkey.any_ne_colon _ _
    exact absurd (hline c hc) hne

theorem readLine_colons {line : Str} (hline : ∀ c ∈ line, c = ':') :
    readLine line = { depth := 0, key := [], value := [] } := by
  have hindent : ∀ c ∈ line, isIndent c = true := by
    intro c hc
    rw [hline c hc]
    rfl
  rw [readLine_indent hindent, indentDepth_eq_zero hline]

theorem step_lineEnd {c : Char} (hc : isLineEnd c = true) (data : Str) (p : Parser) :
    p.step c data = p.onLineEnd := by
  unfold isLineEnd at hc
  unfold Parser.step isLineEnd
  split_ifs <;> simp_all

theorem run_eq_searchLines (data line : Str) (p : Parser) (h : Reads data p line) :
    p.run data = searchLines p.pathptr p.pathdepth
      (((closedLines line data).filter fun line => line.any (· ≠ ':')).map readLine) := by
  induction data generalizing line p with
  | nil => rfl
  | cons c data ih =>
    rw [Parser.run, closedLines]
    cases hc : isLineEnd c with
    | false =>
      obtain ⟨p', hstep, hreads, hpathptr, hpathdepth⟩ := h.step hc
      rw [hstep, if_neg (by decide), ← hpathptr, ← hpathdepth]
      exact ih _ _ hreads
    | true =>
      rw [step_lineEnd hc, if_pos rfl, List.filter_cons]
      by_cases hstate : p.state = .newline
      · obtain ⟨hline, hreads⟩ := h.colons_of_newline hstate data
        rw [if_neg (by simpa using hline), Parser.onLineEnd, if_pos hstate]
        exact ih _ _ hreads
      · have hholds := h.holds hstate
        rw [hholds.onLineEnd hstate]
        by_cases hline : ∀ d ∈ line, d = ':'
        · have hdepth := h.pathdepth_of_colons hstate hline
          have hskip : ¬ (line.any (· ≠ ':')) = true := by simpa using hline
          rw [if_neg hskip, readLine_colons hline, hdepth, if_neg (by decide)]
          -- A line without a key does not match.
          have hnone : Line.advance { depth := 0, key := [], value := [] } p.pathptr = none := by
            simp [Line.advance]
          rw [hnone, ← hdepth]
          exact ih _ _ (reads_nextLine data p)
        · have hcounts : (line.any (· ≠ ':')) = true := by simpa using hline
          rw [if_pos hcounts, List.map_cons, searchLines]
          split_ifs with hdepth
          · rfl
          · cases (readLine line).advance p.pathptr with
            | none => exact ih _ _ (reads_nextLine data p)
            | some path =>
              cases path with
              | nil => rfl
              | cons d path => exact ih _ _ (reads_nextLine data _)

theorem reads_start (data path : Str) : Reads data { pathptr := path } [] :=
  .space rfl (by simp) rfl rfl rfl (.inr rfl)

/-- **Lines.** The parser finds what a search in the lines of the text finds. -/
theorem parseYaml_eq_searchLines (data path : Str) :
    parseYaml data path = searchLines path 0 (readLines data) :=
  run_eq_searchLines data [] _ (reads_start data path)

/-! ## A value that the path asks for is in the text -/

theorem colon_notMem_dropLast_key (line : Str) : ':' ∉ (readLine line).key.dropLast := by
  unfold readLine
  dsimp only
  generalize line.dropWhile isIndent = keytext
  have hwhile : ':' ∉ keytext.takeWhile (· ≠ ':') := by
    intro hmem
    simpa using List.mem_takeWhile_imp hmem
  intro hmem
  cases hrest : keytext.dropWhile (· ≠ ':') with
  | nil =>
    rw [hrest, List.take_nil, List.append_nil] at hmem
    exact hwhile (List.mem_of_mem_dropLast hmem)
  | cons c rest =>
    rw [hrest, List.take_succ_cons, List.take_zero, List.dropLast_concat] at hmem
    exact hwhile hmem

theorem colon_notMem_readLines {data : Str} {line : Line} (h : line ∈ readLines data) :
    ':' ∉ line.key.dropLast := by
  obtain ⟨text, _, rfl⟩ := List.mem_map.mp h
  exact colon_notMem_dropLast_key text

/-- A path with a value in braces, after text without a brace. -/
def askPath (text value rest : Str) : Str := text ++ ':' :: '{' :: (value ++ '}' :: rest)

theorem advance_askPath {line : Line} {text value rest path : Str} (hline : ':' ∉ line.key.dropLast)
    (htext : '{' ∉ text) (hvalue : '}' ∉ value)
    (h : line.advance (askPath text value rest) = some path) :
    (∃ text', '{' ∉ text' ∧ path = askPath text' value rest) ∨ (path = rest ∧ line.value = value) := by
  have hwhile : (value ++ '}' :: rest).takeWhile (· ≠ '}') = value := by
    have hclosing : ∀ c ∈ value, decide (c ≠ '}') = true := by
      intro c hc
      refine decide_eq_true ?_
      rintro rfl
      exact hvalue hc
    rw [List.takeWhile_append_of_pos hclosing]
    simp
  unfold Line.advance at h
  split at h
  · rename_i hkey
    obtain ⟨tail, htail⟩ := hkey.2
    have hdrop : (askPath text value rest).drop line.key.length = tail := by
      rw [← htail, List.drop_left]
    rw [hdrop] at h
    rcases List.append_eq_append_iff.mp htail with ⟨text', rfl, rfl⟩ | ⟨key', hkey', htail'⟩
    · -- The key ends in front of the colon.
      left
      refine ⟨text', fun hbrace => htext (by simp [hbrace]), ?_⟩
      split at h
      · rename_i pathvalue hpath
        cases text' with
        | nil => cases hpath
        | cons c text' =>
          cases hpath
          exact absurd (by simp) htext
      · exact (Option.some.inj h).symm
    · cases key' with
      | nil =>
        rw [List.nil_append] at htail'
        subst htail'
        exact .inl ⟨[], by simp, (Option.some.inj h).symm⟩
      | cons c key' =>
        rw [List.cons_append] at htail'
        obtain ⟨rfl, hbrace⟩ := List.cons.inj htail'
        -- The colon is the last character of the key.
        have hlast : key' = [] := by
          by_contra hne
          refine hline ?_
          rw [hkey', List.dropLast_append_of_ne_nil (by simp), List.dropLast_cons_of_ne_nil hne]
          simp
        subst hlast
        rw [List.nil_append] at hbrace
        subst hbrace
        simp only [hwhile] at h
        split at h
        · rename_i hmatch
          have hdropValue : (value ++ '}' :: rest).drop (value.length + 1) = rest := by
            rw [List.drop_append, List.drop_eq_nil_of_le (Nat.le_succ _)]
            simp
          rw [hmatch, hdropValue] at h
          exact .inr ⟨(Option.some.inj h).symm, hmatch⟩
        · contradiction
  · contradiction

/-- A path in braces is found only when a line has the value, and what is left of the path is searched
for from there. -/
theorem searchLines_askPath {lines : List Line} (hlines : ∀ line ∈ lines, ':' ∉ line.key.dropLast)
    {text value rest : Str} (htext : '{' ∉ text) (hvalue : '}' ∉ value) (hrest : rest ≠ [])
    {depth : Nat} {found : Str} (h : searchLines (askPath text value rest) depth lines = some found) :
    (∃ line ∈ lines, line.value = value) ∧
      ∃ depth' lines', lines' ⊆ lines ∧ searchLines rest depth' lines' = some found := by
  induction lines generalizing text depth with
  | nil => contradiction
  | cons line lines ih =>
    have hnext {text' : Str} {depth' : Nat} (htext' : '{' ∉ text')
        (h' : searchLines (askPath text' value rest) depth' lines = some found) :
        (∃ line' ∈ line :: lines, line'.value = value) ∧
          ∃ depth' lines', lines' ⊆ line :: lines ∧ searchLines rest depth' lines' = some found := by
      obtain ⟨⟨line', hline', hfound⟩, depth', lines', hsubset, hsearch⟩ :=
        ih (fun l hl => hlines l (by simp [hl])) htext' h'
      exact ⟨⟨line', by simp [hline'], hfound⟩, depth', lines',
        List.subset_cons_of_subset line hsubset, hsearch⟩
    rw [searchLines] at h
    split at h
    · contradiction
    · split at h
      · exact hnext htext h
      · rename_i hadvance
        rcases advance_askPath (hlines line (by simp)) htext hvalue hadvance with
          ⟨text', _, hpath⟩ | ⟨hpath, _⟩
        · cases text' <;> contradiction
        · exact absurd hpath.symm hrest
      · rename_i path hne hadvance
        rcases advance_askPath (hlines line (by simp)) htext hvalue hadvance with
          ⟨text', htext', hpath⟩ | ⟨hpath, hfound⟩
        · rw [hpath] at h
          exact hnext htext' h
        · rw [hpath] at h
          exact ⟨⟨line, by simp, hfound⟩, line.depth, lines, List.subset_cons_self line lines, h⟩

end IrPitCrew.Yaml
