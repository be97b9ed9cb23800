import IrPitCrew.Irsdk.SessionInfo
import IrPitCrew.Plugin.NearestCars

/-!
# The results that are read of a session info

A session without a row at a position takes the one of the next session that has
it, so the loop over the positions goes on into the sessions that follow.
-/

open IrPitCrew.Text IrPitCrew.Decimal IrPitCrew.Yaml

namespace IrPitCrew.Plugin

/-! ## Paths -/

theorem pathText_path (k : Key) (path : List PathKey) :
    pathText (k.path :: path) = (k.text ++ [':']) ++ pathText path := by
  rw [pathText_cons]
  simp [Key.path, PathKey.valueText]

theorem pathText_pathInt (k : Key) (n : ℤ) (path : List PathKey) :
    pathText (k.pathInt n :: path) =
      (k.text ++ [':']) ++ '{' :: (printInt n ++ '}' :: pathText path) := by
  rw [pathText_cons]
  simp [Key.pathInt, PathKey.valueText]

theorem sessionNum_path : "SessionInfo:Sessions:SessionNum:".toList =
    (sessionInfoKey.text ++ [':']) ++ ((sessionsKey.text ++ [':']) ++ (sessionNumKey.text ++ [':'])) := by
  decide

theorem position_path : "ResultsPositions:Position:".toList =
    (resultsKey.text ++ [':']) ++ (positionKey.text ++ [':']) := by
  decide

namespace Frame

/-- The frame looks its values up in the text. -/
def Reads (f : Frame) (data : Str) : Prop := ∀ path, f.parseYaml path = Yaml.parseYaml data path

variable {f : Frame}

theorem result_eq {data : Str} (hf : f.Reads data) (sessionNum position : ℤ) {field : String} {k : Key}
    (hfield : field.toList = k.text ++ [':']) :
    f.result sessionNum position field =
      Yaml.parseYaml data (pathText (resultPath sessionNum position k)) := by
  have hend : pathText [k.path] = k.text ++ [':'] := by
    rw [pathText_path]
    exact List.append_nil _
  rw [result, hf, resultPath, pathText_path, pathText_path, pathText_pathInt, pathText_path,
    pathText_pathInt, hend, hfield, sessionNum_path, position_path]
  simp only [List.append_assoc, List.cons_append, List.nil_append]

end Frame

/-! ## The rows that are read -/

/-- The rows of a session, and those of the later sessions that are past its last one. -/
def shownRows : List SessionEntry → List Row
  | [] => []
  | s :: sessions => s.rows ++ (shownRows sessions).drop s.rows.length

theorem getElem?_shownRows (sessions : List SessionEntry) (i : Nat) :
    (shownRows sessions)[i]? = rowAt sessions i := by
  induction sessions with
  | nil => rfl
  | cons s sessions ih =>
    rw [shownRows, rowAt_cons]
    rcases Nat.lt_or_ge i s.rows.length with hlt | hge
    · rw [List.getElem?_append_left hlt, List.getElem?_eq_getElem hlt, Option.some_or]
    · rw [List.getElem?_append_right hge, List.getElem?_drop, Nat.add_sub_cancel' hge, ih,
        List.getElem?_eq_none hge, Option.none_or]

def rowResult (row : Row) : Result := ⟨row.carIdx, row.classPosition⟩

section

variable {f : Frame} {o : Document} {sessions : List SessionEntry} (hf : f.Reads o.text)
  (h : HasSessions o sessions) (sessionNum : ℤ)

include hf h

/-- What the loop over the positions reads at a position. -/
theorem result_carIdx (i : Nat) :
    f.result sessionNum (i + 1) "CarIdx:" =
      (shownRows (sessions.dropWhile (·.sessionNum ≠ sessionNum)))[i]?.map
        fun row => printInt row.carIdx := by
  have hfield : "CarIdx:".toList = carIdxKey.text ++ [':'] := by decide
  rw [Frame.result_eq hf _ _ hfield, add_comm, (parseYaml_resultPath h sessionNum i).1,
    getElem?_shownRows]

theorem result_classPosition (i : Nat) :
    f.result sessionNum (i + 1) "ClassPosition:" =
      (shownRows (sessions.dropWhile (·.sessionNum ≠ sessionNum)))[i]?.map
        fun row => printInt row.classPosition := by
  have hfield : "ClassPosition:".toList = classPositionKey.text ++ [':'] := by decide
  rw [Frame.result_eq hf _ _ hfield, add_comm, (parseYaml_resultPath h sessionNum i).2,
    getElem?_shownRows]

/-- **Table.** The results of a session are its rows and those of the later sessions past its last
one, and no others. -/
theorem hasResults_iff (results : List Result) :
    HasResults f sessionNum results ↔
      results = (shownRows (sessions.dropWhile (·.sessionNum ≠ sessionNum))).map rowResult ∧
        (results.map Result.carIdx).Nodup := by
  have hcarIdx := result_carIdx hf h sessionNum
  have hclassPosition := result_classPosition hf h sessionNum
  generalize shownRows (sessions.dropWhile (·.sessionNum ≠ sessionNum)) = rows
    at hcarIdx hclassPosition ⊢
  constructor
  · intro hresults
    refine ⟨List.ext_getElem? fun i => ?_, hresults.distinct⟩
    rw [List.getElem?_map]
    cases hr : results[i]? with
    | none =>
      have hlast := hresults.last
      rw [hcarIdx, Option.map_eq_none_iff, List.getElem?_eq_none_iff] at hlast
      have hlength := List.getElem?_eq_none_iff.mp hr
      rw [List.getElem?_eq_none (hlast.trans hlength)]
      rfl
    | some r =>
      have hcar := hresults.carIdx i r hr
      have hclass := hresults.classPosition i r hr
      rw [hcarIdx] at hcar
      rw [hclassPosition] at hclass
      cases hrow : rows[i]? with
      | none => simp [hrow] at hcar
      | some row =>
        simp only [hrow, Option.map_some, atoi_printInt, Option.some.injEq] at hcar hclass
        rw [Option.map_some, rowResult, hcar, hclass]
  · rintro ⟨rfl, hdistinct⟩
    refine ⟨?_, ?_, ?_, hdistinct⟩
    · intro i r hr
      rw [List.getElem?_map] at hr
      obtain ⟨row, hrow, rfl⟩ := Option.map_eq_some_iff.mp hr
      rw [hcarIdx, hrow]
      simp [rowResult, atoi_printInt]
    · intro i r hr
      rw [List.getElem?_map] at hr
      obtain ⟨row, hrow, rfl⟩ := Option.map_eq_some_iff.mp hr
      rw [hclassPosition, hrow]
      simp [rowResult, atoi_printInt]
    · rw [List.length_map, hcarIdx, List.getElem?_eq_none (Nat.le_refl _)]
      rfl

end

theorem length_shownRows_le_iff (sessions : List SessionEntry) (n : Nat) :
    (shownRows sessions).length ≤ n ↔ ∀ s ∈ sessions, s.rows.length ≤ n := by
  induction sessions with
  | nil => simp [shownRows]
  | cons s sessions ih =>
    rw [shownRows, List.length_append, List.length_drop, List.forall_mem_cons, ← ih]
    omega

/-- **Own rows.** The results of a session are its own rows when its cars are different and no later
session has more rows, and only then. -/
theorem hasResults_rows_iff {f : Frame} {o : Document} {sessions later : List SessionEntry}
    {s : SessionEntry} {sessionNum : ℤ} (hf : f.Reads o.text) (h : HasSessions o sessions)
    (hsession : sessions.dropWhile (·.sessionNum ≠ sessionNum) = s :: later) :
    HasResults f sessionNum (s.rows.map rowResult) ↔
      (∀ l ∈ later, l.rows.length ≤ s.rows.length) ∧ (s.rows.map Row.carIdx).Nodup := by
  have hrows : (s.rows.map rowResult).map Result.carIdx = s.rows.map Row.carIdx := by
    rw [List.map_map]
    rfl
  rw [hasResults_iff hf h, hsession, hrows, ← length_shownRows_le_iff]
  refine and_congr_left fun _ => ?_
  constructor
  · intro heq
    have hlength := congrArg List.length heq
    rw [shownRows, List.length_map, List.length_map, List.length_append, List.length_drop] at hlength
    omega
  · intro hlength
    rw [shownRows, List.drop_eq_nil_of_le hlength, List.append_nil]

/-! ## The loop over the positions ends -/

section

variable {f : Frame} {data : Str} (hf : f.Reads data)

include hf

/-- A position that is found is a value of the text. -/
theorem exists_line_of_result {sessionNum position : ℤ} {field : String} (hfield : field.toList ≠ [])
    {value : Str} (h : f.result sessionNum position field = some value) :
    ∃ line ∈ readLines data, line.value = printInt position := by
  have hbrace (n : ℤ) : '}' ∉ printInt n := fun hmem => absurd (printInt_chars n _ hmem) (by decide)
  have hpath : "SessionInfo:Sessions:SessionNum:".toList ++ '{' :: printInt sessionNum ++ '}' ::
      "ResultsPositions:Position:".toList ++ '{' :: printInt position ++ '}' :: field.toList =
      askPath "SessionInfo:Sessions:SessionNum".toList (printInt sessionNum)
        (askPath "ResultsPositions:Position".toList (printInt position) field.toList) := by
    have hsession : "SessionInfo:Sessions:SessionNum:".toList =
        "SessionInfo:Sessions:SessionNum".toList ++ [':'] := by decide
    have hresults : "ResultsPositions:Position:".toList =
        "ResultsPositions:Position".toList ++ [':'] := by decide
    rw [hsession, hresults]
    unfold askPath
    simp only [List.append_assoc, List.cons_append, List.nil_append]
  have hcolons : ∀ line ∈ readLines data, ':' ∉ line.key.dropLast :=
    fun line hline => colon_notMem_readLines hline
  rw [Frame.result, hf, parseYaml, run_eq_searchLines data [] _ (reads_start data _)] at h
  change searchLines _ 0 (readLines data) = _ at h
  rw [hpath] at h
  -- First the session, then the position in what follows it.
  obtain ⟨-, depth, lines, hsubset, hsearch⟩ := searchLines_askPath hcolons (by decide)
    (hbrace sessionNum) (by simp [askPath]) h
  obtain ⟨⟨line, hline, hvalue⟩, -⟩ := searchLines_askPath
    (fun line hline => hcolons line (hsubset hline)) (by decide) (hbrace position) hfield hsearch
  exact ⟨line, hsubset hline, hvalue⟩

theorem forall_exists_line_of_scanPositions (sessionNum : ℤ) (fuel : Nat) (position : ℤ)
    (scan : ClassScan) (h : scanPositions f sessionNum fuel position scan = none)
    (i : Nat) (hi : i < fuel) :
    ∃ line ∈ readLines data, line.value = printInt (position + i) := by
  induction fuel generalizing position scan i with
  | zero => omega
  | succ fuel ih =>
    unfold scanPositions at h
    split at h
    · contradiction
    · rename_i value hvalue
      cases i with
      | zero =>
        rw [Nat.cast_zero, add_zero]
        exact exists_line_of_result hf (by decide) hvalue
      | succ i =>
        have hnext : position + ((i + 1 : ℕ) : ℤ) = position + 1 + i := by push_cast; ring
        rw [hnext]
        dsimp only at h
        split at h
        · split at h
          · contradiction
          · exact ih _ _ h i (by omega)
        · exact ih _ _ h i (by omega)

/-- **End.** Whatever the text, the loop ends after at most one turn for each of its lines. -/
theorem scanPositions_isSome (sessionNum : ℤ) (fuel : Nat) (hfuel : (readLines data).length < fuel)
    (position : ℤ) (scan : ClassScan) :
    (scanPositions f sessionNum fuel position scan).isSome = true := by
  by_contra hnone
  rw [Bool.not_eq_true, Option.isSome_eq_false_iff, Option.isNone_iff_eq_none] at hnone
  -- Each turn finds a position that is a value of its own line.
  have hlines := forall_exists_line_of_scanPositions hf sessionNum fuel position scan hnone
  have hsubset : (List.range fuel).map (fun i : Nat => printInt (position + i)) ⊆
      (readLines data).map Line.value := by
    intro value hvalue
    obtain ⟨i, hi, rfl⟩ := List.mem_map.mp hvalue
    obtain ⟨line, hline, heq⟩ := hlines i (List.mem_range.mp hi)
    exact List.mem_map.mpr ⟨line, hline, heq⟩
  have hnodup : ((List.range fuel).map fun i : Nat => printInt (position + i)).Nodup := by
    refine List.nodup_range.map ?_
    intro i j hij
    have := printInt_inj hij
    omega
  have hlength := hnodup.length_le_of_subset hsubset
  rw [List.length_map, List.length_map, List.length_range] at hlength
  omega

end

/-! ## Two sessions -/

def raceRow (carIdx classPosition : ℤ) : Row where
  carIdx := carIdx
  classPosition := classPosition
  lacksPosition := lacks_nil _
  lacksNum := lacks_nil _

def raceEntry (sessionNum : ℤ) (rows : List Row) : SessionEntry where
  sessionNum := sessionNum
  rows := rows
  fieldsLackNum := lacks_nil _
  fieldsLackResults := lacks_nil _
  fieldsLackPosition := lacks_nil _
  moreLacksNum := lacks_nil _
  moreLacksPosition := lacks_nil _

def weekend : List SessionEntry := [raceEntry 0 [raceRow 4 0, raceRow 7 1], raceEntry 1 [raceRow 7 0]]

def weekendDocument : Document :=
  .node sessionInfoKey.map (.node sessionsKey.list (sessionsDocument weekend) .nil) .nil

theorem hasSessions_weekend : HasSessions weekendDocument weekend :=
  ⟨.nil, .nil, .nil, lacks_nil _, lacks_nil _, rfl⟩

def textFrame (data : Str) : Frame where
  bufLen := 1
  parseYaml := Yaml.parseYaml data
  dataMap := .empty
  fuelMessage := []
  status := {}

theorem reads_textFrame (data : Str) : (textFrame data).Reads data := fun _ => rfl

/-- The first session has more rows than the second one. -/
theorem hasResults_weekend : HasResults (textFrame weekendDocument.text) 0 [⟨4, 0⟩, ⟨7, 1⟩] := by
  have hsession : weekend.dropWhile (·.sessionNum ≠ 0) = weekend := rfl
  exact (hasResults_rows_iff (reads_textFrame _) hasSessions_weekend hsession).mpr
    ⟨by decide, by decide⟩

theorem scanPositions_weekend :
    (scanPositions (textFrame weekendDocument.text) 0 20 1 {}).isSome = true :=
  scanPositions_isSome (reads_textFrame _) 0 20 (by decide +kernel) 1 {}

end IrPitCrew.Plugin
