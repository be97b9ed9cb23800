import IrPitCrew.Irsdk.Document
import IrPitCrew.Lib.Decimal

/-!
# The session info: its drivers and the results of its sessions

The path to a row of a session does not end with the session: after the last row
the search goes on in the sessions that follow.
-/

open IrPitCrew.Text IrPitCrew.Decimal

namespace IrPitCrew.Yaml

/-! ## Keys -/

/-- A key that may stand in a document and in a path. -/
structure Key where
  text : Str
  isKey : IsKey text
  lineEnd : ∀ c ∈ text, isLineEnd c = false
  brace : ∀ c ∈ text.head?, c ≠ '{'

theorem isValue_nil : IsValue [] := ⟨by simp, by simp⟩

theorem isValue_printInt (n : ℤ) : IsValue (printInt n) := by
  constructor
  · intro c hc
    have hnumber := printInt_chars n c (List.mem_of_mem_head? hc)
    constructor
    · rintro rfl
      exact absurd hnumber (by decide)
    · rintro rfl
      exact absurd hnumber (by decide)
  · intro c hc
    have hnumber := printInt_chars n c hc
    have hspace := isspace_eq_false_of_numberChar c hnumber
    unfold isspace at hspace
    unfold isLineEnd
    simp_all

namespace Key

def map (k : Key) : Field where
  key := k.text
  isKey := k.isKey
  keyLineEnd := k.lineEnd
  isValue := isValue_nil

def list (k : Key) : Field := { k.map with isList := true }

def int (k : Key) (n : ℤ) : Field where
  key := k.text
  value := printInt n
  isKey := k.isKey
  keyLineEnd := k.lineEnd
  isValue := isValue_printInt n

def item (k : Key) (n : ℤ) : Field := { k.int n with isItem := true }

def path (k : Key) : PathKey where
  key := k.text
  colon := k.isKey.colon
  brace := k.brace
  closing := by simp

def pathInt (k : Key) (n : ℤ) : PathKey where
  key := k.text
  value := some (printInt n)
  colon := k.isKey.colon
  brace := k.brace
  closing := by
    intro v hv hbrace
    cases hv
    exact absurd (printInt_chars n _ hbrace) (by decide)

end Key

theorem printInt_inj {n m : ℤ} (h : printInt n = printInt m) : n = m := by
  rw [← atoi_printInt n, h, atoi_printInt]

def sessionInfoKey : Key :=
  ⟨"SessionInfo".toList, ⟨by decide, by decide, by decide⟩, by decide, by decide⟩

def sessionsKey : Key :=
  ⟨"Sessions".toList, ⟨by decide, by decide, by decide⟩, by decide, by decide⟩

def sessionNumKey : Key :=
  ⟨"SessionNum".toList, ⟨by decide, by decide, by decide⟩, by decide, by decide⟩

def resultsKey : Key :=
  ⟨"ResultsPositions".toList, ⟨by decide, by decide, by decide⟩, by decide, by decide⟩

def positionKey : Key :=
  ⟨"Position".toList, ⟨by decide, by decide, by decide⟩, by decide, by decide⟩

def classPositionKey : Key :=
  ⟨"ClassPosition".toList, ⟨by decide, by decide, by decide⟩, by decide, by decide⟩

def carIdxKey : Key :=
  ⟨"CarIdx".toList, ⟨by decide, by decide, by decide⟩, by decide, by decide⟩

def driverInfoKey : Key :=
  ⟨"DriverInfo".toList, ⟨by decide, by decide, by decide⟩, by decide, by decide⟩

def driversKey : Key :=
  ⟨"Drivers".toList, ⟨by decide, by decide, by decide⟩, by decide, by decide⟩

/-! ## Fields that a path passes -/

def Lacks (o : Document) (k : Key) : Prop := o.firstMatch (fun f => f.key = k.text) = none

theorem lacks_nil (k : Key) : Lacks .nil k := rfl

theorem lacks_node_iff (f : Field) (children siblings : Document) (k : Key) :
    Lacks (.node f children siblings) k ↔ f.key ≠ k.text ∧ Lacks children k ∧ Lacks siblings k := by
  unfold Lacks
  rw [Outline.firstMatch]
  by_cases hkey : f.key = k.text
  · simp [hkey]
  · simp [hkey, Option.or_eq_none_iff]

theorem Lacks.append {o p : Document} {k : Key} (ho : Lacks o k) (hp : Lacks p k) :
    Lacks (o.append p) k := by
  unfold Lacks
  rw [Outline.firstMatch_append_of_none ho]
  exact hp

theorem Lacks.path {o : Document} {k : Key} (h : Lacks o k) : o.firstMatch k.path.test = none := by
  refine Outline.firstMatch_eq_none_of_imp ?_ h
  intro f hf
  simpa [PathKey.test, Key.path] using hf

theorem Lacks.pathInt {o : Document} {k : Key} (h : Lacks o k) (n : ℤ) :
    o.firstMatch (k.pathInt n).test = none := by
  refine Outline.firstMatch_eq_none_of_imp ?_ h
  intro f hf
  exact decide_eq_true (of_decide_eq_true hf).1

theorem path_test (k : Key) (f : Field) : k.path.test f = decide (f.key = k.text) := by
  simp [PathKey.test, Key.path]

theorem pathInt_test_int (k : Key) (n m : ℤ) : (k.pathInt n).test (k.int m) = decide (m = n) := by
  refine decide_eq_decide.mpr ?_
  constructor
  · rintro ⟨_, hvalue⟩
    exact printInt_inj (hvalue _ rfl)
  · rintro rfl
    refine ⟨rfl, ?_⟩
    intro v hv
    cases hv
    rfl

theorem pathInt_test_of_key {k : Key} {f : Field} (h : f.key ≠ k.text) (n : ℤ) :
    (k.pathInt n).test f = false := by
  refine decide_eq_false ?_
  rintro ⟨hkey, _⟩
  exact h hkey

/-! ## The results of the sessions -/

/-- A row of the results, with its other fields. -/
structure Row where
  carIdx : ℤ
  classPosition : ℤ
  more : Document := .nil
  lacksPosition : Lacks more positionKey
  lacksNum : Lacks more sessionNumKey

/-- The rows from a position on. -/
def rowsDocument : ℤ → List Row → Document
  | _, [] => .nil
  | position, row :: rows =>
    .node (positionKey.item position) .nil
      (.node (classPositionKey.int row.classPosition) .nil
        (.node (carIdxKey.int row.carIdx) .nil
          (row.more.append (rowsDocument (position + 1) rows))))

structure SessionEntry where
  sessionNum : ℤ
  fields : Document := .nil
  rows : List Row
  more : Document := .nil
  fieldsLackNum : Lacks fields sessionNumKey
  fieldsLackResults : Lacks fields resultsKey
  fieldsLackPosition : Lacks fields positionKey
  moreLacksNum : Lacks more sessionNumKey
  moreLacksPosition : Lacks more positionKey

namespace SessionEntry

/-- What is next to the number of a session. -/
def tail (s : SessionEntry) (sessions : Document) : Document :=
  s.fields.append (.node resultsKey.list (rowsDocument 1 s.rows) (s.more.append sessions))

end SessionEntry

def sessionsDocument : List SessionEntry → Document
  | [] => .nil
  | s :: sessions => .node (sessionNumKey.item s.sessionNum) .nil (s.tail (sessionsDocument sessions))

/-- The document has these sessions. -/
def HasSessions (o : Document) (sessions : List SessionEntry) : Prop :=
  ∃ before fields after : Document, Lacks before sessionInfoKey ∧ Lacks fields sessionsKey ∧
    o = before.append (.node sessionInfoKey.map
      (fields.append (.node sessionsKey.list (sessionsDocument sessions) .nil)) after)

/-- The row of the first session that has one with this index. -/
def rowAt (sessions : List SessionEntry) (i : Nat) : Option Row :=
  sessions.findSome? fun s => s.rows[i]?

theorem lacks_rowsDocument (position : ℤ) (rows : List Row) :
    Lacks (rowsDocument position rows) sessionNumKey := by
  induction rows generalizing position with
  | nil => exact lacks_nil _
  | cons row rows ih =>
    rw [rowsDocument, lacks_node_iff, lacks_node_iff, lacks_node_iff]
    have hposition : positionKey.text ≠ sessionNumKey.text := by decide
    have hclassPosition : classPositionKey.text ≠ sessionNumKey.text := by decide
    have hcarIdx : carIdxKey.text ≠ sessionNumKey.text := by decide
    exact ⟨hposition, lacks_nil _, hclassPosition, lacks_nil _, hcarIdx, lacks_nil _,
      row.lacksNum.append (ih _)⟩

/-- The first field with the position is that of the row. -/
def FindsRow (o : Document) (position : ℤ) : Option Row → Prop
  | none => o.firstMatch (positionKey.pathInt position).test = none
  | some row => ∃ rest, o.firstMatch (positionKey.pathInt position).test =
      some (positionKey.item position, .nil,
        .node (classPositionKey.int row.classPosition) .nil
          (.node (carIdxKey.int row.carIdx) .nil rest))

theorem Lacks.findsRow {o : Document} (h : Lacks o positionKey) (position : ℤ) :
    FindsRow o position none := h.pathInt position

theorem FindsRow.append_of_lacks {o p : Document} {position : ℤ} {row : Option Row}
    (ho : Lacks o positionKey) (hp : FindsRow p position row) :
    FindsRow (o.append p) position row := by
  unfold FindsRow at hp ⊢
  rwa [Outline.firstMatch_append_of_none (ho.pathInt position)]

theorem FindsRow.node {f : Field} {children siblings : Document} {position : ℤ} {row row' : Option Row}
    (hf : f.key ≠ positionKey.text) (hchildren : FindsRow children position row)
    (hsiblings : FindsRow siblings position row') :
    FindsRow (.node f children siblings) position (row.or row') := by
  have htest := pathInt_test_of_key hf position
  cases row with
  | none =>
    rw [Option.none_or]
    unfold FindsRow at hchildren hsiblings ⊢
    rwa [Outline.firstMatch_node_of_false htest, hchildren, Option.none_or]
  | some row =>
    obtain ⟨rest, hchildren⟩ := hchildren
    refine ⟨rest, ?_⟩
    rw [Outline.firstMatch_node_of_false htest, hchildren]
    rfl

theorem FindsRow.next {f : Field} {siblings : Document} {position : ℤ} {row : Option Row}
    (hf : f.key ≠ positionKey.text) (h : FindsRow siblings position row) :
    FindsRow (.node f .nil siblings) position row := by
  have hnode := FindsRow.node hf ((lacks_nil positionKey).findsRow position) h
  rwa [Option.none_or] at hnode

theorem findsRow_rowsDocument (start : ℤ) (rows : List Row) (i : Nat) :
    FindsRow (rowsDocument start rows) (start + i) rows[i]? := by
  induction rows generalizing start i with
  | nil => rfl
  | cons row rows ih =>
    rw [rowsDocument]
    cases i with
    | zero =>
      have htest : (positionKey.pathInt (start + (0 : ℕ))).test (positionKey.item start) = true :=
        (pathInt_test_int positionKey _ start).trans (by simp)
      refine ⟨row.more.append (rowsDocument (start + 1) rows), ?_⟩
      rw [Outline.firstMatch_node_of_true htest]
      simp
    | succ i =>
      have htest : (positionKey.pathInt (start + (i + 1 : ℕ))).test (positionKey.item start) = false := by
        refine (pathInt_test_int positionKey _ start).trans (decide_eq_false ?_)
        omega
      have hclassPosition : classPositionKey.text ≠ positionKey.text := by decide
      have hcarIdx : carIdxKey.text ≠ positionKey.text := by decide
      have hnext : start + 1 + (i : ℤ) = start + ((i + 1 : ℕ) : ℤ) := by push_cast; ring
      have hrows := ih (start + 1) i
      rw [hnext] at hrows
      have hrow := FindsRow.next (f := classPositionKey.int row.classPosition) hclassPosition
        (.next (f := carIdxKey.int row.carIdx) hcarIdx (.append_of_lacks row.lacksPosition hrows))
      rw [List.getElem?_cons_succ]
      unfold FindsRow at hrow ⊢
      rw [Outline.firstMatch_node_of_false htest]
      exact hrow

theorem rowAt_cons (s : SessionEntry) (sessions : List SessionEntry) (i : Nat) :
    rowAt (s :: sessions) i = s.rows[i]?.or (rowAt sessions i) := by
  rw [rowAt, List.findSome?_cons]
  cases s.rows[i]? with
  | none => rfl
  | some row => rfl

/-- The results of a session are followed by those of the later ones. -/
theorem findsRow_results (s : SessionEntry) {sessions : List SessionEntry} {later : Document} {i : Nat}
    (h : FindsRow later (1 + i) (rowAt sessions i)) :
    FindsRow (.node resultsKey.list (rowsDocument 1 s.rows) (s.more.append later)) (1 + i)
      (rowAt (s :: sessions) i) := by
  have hresults : resultsKey.text ≠ positionKey.text := by decide
  rw [rowAt_cons]
  exact .node hresults (findsRow_rowsDocument 1 s.rows i) (.append_of_lacks s.moreLacksPosition h)

theorem findsRow_sessionsDocument (sessions : List SessionEntry) (i : Nat) :
    FindsRow (sessionsDocument sessions) (1 + i) (rowAt sessions i) := by
  induction sessions with
  | nil => rfl
  | cons s sessions ih =>
    have hnum : sessionNumKey.text ≠ positionKey.text := by decide
    exact .next hnum (.append_of_lacks s.fieldsLackPosition (findsRow_results s ih))

/-! ## The path to a session -/

theorem firstMatch_tail (s : SessionEntry) (later : Document) (sessionNum : ℤ) :
    (s.tail later).firstMatch (sessionNumKey.pathInt sessionNum).test =
      later.firstMatch (sessionNumKey.pathInt sessionNum).test := by
  have hresults : resultsKey.list.key ≠ sessionNumKey.text := by decide
  unfold SessionEntry.tail
  rw [Outline.firstMatch_append_of_none (s.fieldsLackNum.pathInt sessionNum),
    Outline.firstMatch_node_of_false (pathInt_test_of_key hresults sessionNum),
    (lacks_rowsDocument 1 s.rows).pathInt sessionNum, Option.none_or,
    Outline.firstMatch_append_of_none (s.moreLacksNum.pathInt sessionNum)]

theorem firstMatch_sessionsDocument (sessionNum : ℤ) (sessions : List SessionEntry) :
    (sessionsDocument sessions).firstMatch (sessionNumKey.pathInt sessionNum).test =
      match sessions.dropWhile (·.sessionNum ≠ sessionNum) with
      | [] => none
      | s :: later => some (sessionNumKey.item s.sessionNum, .nil, s.tail (sessionsDocument later)) := by
  induction sessions with
  | nil => rfl
  | cons s sessions ih =>
    have htest : (sessionNumKey.pathInt sessionNum).test (sessionNumKey.item s.sessionNum) =
        decide (s.sessionNum = sessionNum) := pathInt_test_int sessionNumKey sessionNum s.sessionNum
    rw [sessionsDocument]
    by_cases hnum : s.sessionNum = sessionNum
    · rw [Outline.firstMatch_node_of_true (htest.trans (decide_eq_true hnum)),
        List.dropWhile_cons_of_neg (by simpa using hnum)]
    · rw [Outline.firstMatch_node_of_false (htest.trans (decide_eq_false hnum)),
        List.dropWhile_cons_of_pos (by simpa using hnum), ← ih, firstMatch_tail]
      rfl

def resultPath (sessionNum position : ℤ) (k : Key) : List PathKey :=
  [sessionInfoKey.path, sessionsKey.path, sessionNumKey.pathInt sessionNum, resultsKey.path,
    positionKey.pathInt position, k.path]

/-- What a path finds from its first key on. -/
theorem lookup_section {o : Document} {before fields after : Document} {section' list : Key}
    {items : Document} (hbefore : Lacks before section') (hfields : Lacks fields list)
    (ho : o = before.append (.node section'.map (fields.append (.node list.list items .nil)) after))
    (test : Field → Bool) (tests : List (Field → Bool)) :
    Outline.lookup (section'.path.test :: list.path.test :: test :: tests) .nil o =
      Outline.lookup (test :: tests) items .nil := by
  have hsection : section'.path.test section'.map = true := by
    rw [path_test]
    exact decide_eq_true rfl
  have hlist : list.path.test list.list = true := by
    rw [path_test]
    exact decide_eq_true rfl
  have hfirst : ((Outline.nil : Document).firstMatch section'.path.test).or
      (o.firstMatch section'.path.test) =
      some (section'.map, fields.append (.node list.list items .nil), after) := by
    rw [ho, Outline.firstMatch_append_of_none hbefore.path, Outline.firstMatch_node_of_true hsection]
    rfl
  have hsecond : ((fields.append (.node list.list items .nil)).firstMatch list.path.test).or
      (after.firstMatch list.path.test) = some (list.list, items, .nil) := by
    rw [Outline.firstMatch_append_of_none hfields.path, Outline.firstMatch_node_of_true hlist]
    rfl
  rw [Outline.lookup_cons_of_match hfirst, if_neg (by simp),
    Outline.lookup_cons_of_match hsecond, if_neg (by simp)]

theorem exists_lookup_resultPath {o : Document} {sessions : List SessionEntry}
    (h : HasSessions o sessions) (sessionNum : ℤ) (i : Nat) (k : Key) :
    ∃ rest, Outline.lookup ((resultPath sessionNum (1 + i) k).map PathKey.test) .nil o =
      (rowAt (sessions.dropWhile (·.sessionNum ≠ sessionNum)) i).bind fun row =>
        Outline.lookup [k.path.test] .nil (.node (classPositionKey.int row.classPosition) .nil
          (.node (carIdxKey.int row.carIdx) .nil rest)) := by
  obtain ⟨before, fields, after, hbefore, hfields, ho⟩ := h
  have hsection := lookup_section hbefore hfields ho (sessionNumKey.pathInt sessionNum).test
    [resultsKey.path.test, (positionKey.pathInt (1 + i)).test, k.path.test]
  have hsession := firstMatch_sessionsDocument sessionNum sessions
  simp only [resultPath, List.map_cons, List.map_nil, hsection]
  cases hfound : sessions.dropWhile (·.sessionNum ≠ sessionNum) with
  | nil =>
    rw [hfound] at hsession
    rw [Outline.lookup_cons_of_none hsession rfl]
    exact ⟨.nil, rfl⟩
  | cons s later =>
    rw [hfound] at hsession
    have hresults : resultsKey.path.test resultsKey.list = true := by decide
    have htail : ((Outline.nil : Document).firstMatch resultsKey.path.test).or
        ((s.tail (sessionsDocument later)).firstMatch resultsKey.path.test) =
        some (resultsKey.list, rowsDocument 1 s.rows, s.more.append (sessionsDocument later)) := by
      unfold SessionEntry.tail
      rw [Outline.firstMatch_append_of_none s.fieldsLackResults.path,
        Outline.firstMatch_node_of_true hresults]
      rfl
    rw [Outline.lookup_cons_of_match (by rw [hsession]; rfl), if_neg (by simp),
      Outline.lookup_cons_of_match htail, if_neg (by simp)]
    have hposition : resultsKey.list.key ≠ positionKey.text := by decide
    have hrow := findsRow_results s (findsRow_sessionsDocument later i)
    cases hat : rowAt (s :: later) i with
    | none =>
      rw [hat] at hrow
      unfold FindsRow at hrow
      rw [Outline.firstMatch_node_of_false (pathInt_test_of_key hposition _)] at hrow
      obtain ⟨hrows, hlater⟩ := Option.or_eq_none_iff.mp hrow
      rw [Outline.lookup_cons_of_none hrows hlater]
      exact ⟨.nil, rfl⟩
    | some row =>
      rw [hat] at hrow
      obtain ⟨rest, hrow⟩ := hrow
      rw [Outline.firstMatch_node_of_false (pathInt_test_of_key hposition _)] at hrow
      rw [Outline.lookup_cons_of_match hrow, if_neg (by simp)]
      exact ⟨rest, rfl⟩

theorem parseYaml_of_lookup {o : Document} {path : List PathKey} {found : Option Field}
    (h : Outline.lookup (path.map PathKey.test) .nil o = found) :
    parseYaml o.text (pathText path) = found.map Field.value := by
  rw [← h]
  exact (run_eq_searchLines o.text [] _ (reads_start o.text _)).trans (searchLines_text o path)

/-- **Results.** The path to a row finds it in the first session from the one asked for on that has so
many rows. -/
theorem parseYaml_resultPath {o : Document} {sessions : List SessionEntry} (h : HasSessions o sessions)
    (sessionNum : ℤ) (i : Nat) :
    parseYaml o.text (pathText (resultPath sessionNum (1 + i) carIdxKey)) =
        (rowAt (sessions.dropWhile (·.sessionNum ≠ sessionNum)) i).map
          (fun row => printInt row.carIdx) ∧
      parseYaml o.text (pathText (resultPath sessionNum (1 + i) classPositionKey)) =
        (rowAt (sessions.dropWhile (·.sessionNum ≠ sessionNum)) i).map
          (fun row => printInt row.classPosition) := by
  constructor
  · obtain ⟨rest, hlookup⟩ := exists_lookup_resultPath h sessionNum i carIdxKey
    rw [parseYaml_of_lookup hlookup]
    cases rowAt (sessions.dropWhile (·.sessionNum ≠ sessionNum)) i with
    | none => rfl
    | some row => rfl
  · obtain ⟨rest, hlookup⟩ := exists_lookup_resultPath h sessionNum i classPositionKey
    rw [parseYaml_of_lookup hlookup]
    cases rowAt (sessions.dropWhile (·.sessionNum ≠ sessionNum)) i with
    | none => rfl
    | some row => rfl

/-! ## The drivers -/

structure Driver where
  carIdx : ℤ
  fields : Document
  lacksCarIdx : Lacks fields carIdxKey

def driversDocument : List Driver → Document
  | [] => .nil
  | d :: drivers =>
    .node (carIdxKey.item d.carIdx) .nil (d.fields.append (driversDocument drivers))

/-- The document has these drivers. -/
def HasDrivers (o : Document) (drivers : List Driver) : Prop :=
  ∃ before fields after : Document, Lacks before driverInfoKey ∧ Lacks fields driversKey ∧
    o = before.append (.node driverInfoKey.map
      (fields.append (.node driversKey.list (driversDocument drivers) .nil)) after)

def Driver.value (d : Driver) (k : Key) : Option Str :=
  (d.fields.firstMatch k.path.test).map fun m => m.1.value

def driverPath (carIdx : ℤ) (k : Key) : List PathKey :=
  [driverInfoKey.path, driversKey.path, carIdxKey.pathInt carIdx, k.path]

theorem firstMatch_driversDocument (carIdx : ℤ) (drivers : List Driver) :
    (driversDocument drivers).firstMatch (carIdxKey.pathInt carIdx).test =
      match drivers.dropWhile (·.carIdx ≠ carIdx) with
      | [] => none
      | d :: later =>
        some (carIdxKey.item d.carIdx, .nil, d.fields.append (driversDocument later)) := by
  induction drivers with
  | nil => rfl
  | cons d drivers ih =>
    have htest : (carIdxKey.pathInt carIdx).test (carIdxKey.item d.carIdx) =
        decide (d.carIdx = carIdx) := pathInt_test_int carIdxKey carIdx d.carIdx
    rw [driversDocument]
    by_cases hcar : d.carIdx = carIdx
    · rw [Outline.firstMatch_node_of_true (htest.trans (decide_eq_true hcar)),
        List.dropWhile_cons_of_neg (by simpa using hcar)]
    · rw [Outline.firstMatch_node_of_false (htest.trans (decide_eq_false hcar)),
        List.dropWhile_cons_of_pos (by simpa using hcar), ← ih,
        Outline.firstMatch_append_of_none (d.lacksCarIdx.pathInt carIdx)]
      rfl

theorem path_test_item {k : Key} (hk : k.text ≠ carIdxKey.text) (carIdx : ℤ) :
    k.path.test (carIdxKey.item carIdx) = false := by
  rw [path_test]
  exact decide_eq_false (Ne.symm hk)

theorem value_driversDocument {k : Key} (hk : k.text ≠ carIdxKey.text) (drivers : List Driver) :
    ((driversDocument drivers).firstMatch k.path.test).map (fun m => m.1.value) =
      drivers.findSome? fun d => d.value k := by
  induction drivers with
  | nil => rfl
  | cons d drivers ih =>
    have hfirst :=
      Outline.map_firstMatch_append Field.value k.path.test d.fields (driversDocument drivers)
    rw [driversDocument, Outline.firstMatch_node_of_false (path_test_item hk d.carIdx),
      List.findSome?_cons, ← ih, Outline.firstMatch, Option.none_or, hfirst]
    unfold Driver.value
    cases d.fields.firstMatch k.path.test with
    | none => rfl
    | some m => rfl

/-- **Drivers.** The path to a field of a driver finds it at the first driver from the one asked for on
that has it. -/
theorem parseYaml_driverPath {o : Document} {drivers : List Driver} (h : HasDrivers o drivers)
    (carIdx : ℤ) {k : Key} (hk : k.text ≠ carIdxKey.text) :
    parseYaml o.text (pathText (driverPath carIdx k)) =
      (drivers.dropWhile (·.carIdx ≠ carIdx)).findSome? fun d => d.value k := by
  obtain ⟨before, fields, after, hbefore, hfields, ho⟩ := h
  have hsection : Outline.lookup ((driverPath carIdx k).map PathKey.test) .nil o = _ :=
    lookup_section hbefore hfields ho (carIdxKey.pathInt carIdx).test [k.path.test]
  have hdriver := firstMatch_driversDocument carIdx drivers
  rw [parseYaml_of_lookup hsection]
  cases hfound : drivers.dropWhile (·.carIdx ≠ carIdx) with
  | nil =>
    rw [hfound] at hdriver
    rw [Outline.lookup_cons_of_none hdriver rfl]
    rfl
  | cons d later =>
    rw [hfound] at hdriver
    have hvalue := value_driversDocument hk (d :: later)
    rw [driversDocument, Outline.firstMatch_node_of_false (path_test_item hk d.carIdx),
      Outline.firstMatch, Option.none_or] at hvalue
    rw [Outline.lookup_cons_of_match (by rw [hdriver]; rfl), if_neg (by simp),
      Outline.lookup_singleton, Option.map_map, ← hvalue]
    rfl

/-! ## Two drivers -/

def carNumberRawKey : Key :=
  ⟨"CarNumberRaw".toList, ⟨by decide, by decide, by decide⟩, by decide, by decide⟩

def numberedDriver (carIdx number : ℤ) : Driver where
  carIdx := carIdx
  fields := .node (carNumberRawKey.int number) .nil .nil
  lacksCarIdx := by
    have hkey : carNumberRawKey.text ≠ carIdxKey.text := by decide
    exact (lacks_node_iff _ _ _ _).mpr ⟨hkey, lacks_nil _, lacks_nil _⟩

def pair : List Driver := [numberedDriver 3 17, numberedDriver 8 5]

def pairDocument : Document :=
  .node driverInfoKey.map (.node driversKey.list (driversDocument pair) .nil) .nil

theorem hasDrivers_pair : HasDrivers pairDocument pair :=
  ⟨.nil, .nil, .nil, lacks_nil _, lacks_nil _, rfl⟩

theorem parseYaml_pair :
    parseYaml pairDocument.text (pathText (driverPath 8 carNumberRawKey)) = some ['5'] := by
  rw [parseYaml_driverPath hasDrivers_pair 8 (by decide)]
  decide +kernel

end IrPitCrew.Yaml
