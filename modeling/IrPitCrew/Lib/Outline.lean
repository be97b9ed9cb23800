import Mathlib.Tactic.Common

/-!
# Outlines: trees as lines with a depth

An outline is written line by line, each line deeper than the one it belongs to.
A search takes its tests one after another. It never goes back, and ends at the
first line that is less deep than the last match.
-/

namespace IrPitCrew

/-- A first node with what belongs to it, and the nodes beside it. -/
inductive Outline (α : Type*) where
  | nil
  | node (label : α) (children siblings : Outline α)

namespace Outline

variable {α : Type*}

/-! ## Lines -/

/-- The lines of an outline whose first node is at the depth. -/
def lines (indent : α → Nat) (depth : Nat) : Outline α → List (Nat × α)
  | nil => []
  | node label children siblings =>
    (depth, label) :: (children.lines indent (depth + indent label) ++ siblings.lines indent depth)

def append : Outline α → Outline α → Outline α
  | nil, o => o
  | node label children siblings, o => node label children (siblings.append o)

@[simp] theorem nil_append (o : Outline α) : append nil o = o := rfl

theorem node_append (label : α) (children siblings o : Outline α) :
    (node label children siblings).append o = node label children (siblings.append o) := rfl

@[simp] theorem append_nil (o : Outline α) : o.append nil = o := by
  induction o with
  | nil => rfl
  | node label children siblings _ ih => rw [node_append, ih]

/-! ## Searching -/

/-- The depth is that of the last match. -/
def search : List (α → Bool) → Nat → List (Nat × α) → Option α
  | [], _, _ => none
  | _ :: _, _, [] => none
  | test :: tests, depth, (d, label) :: rest =>
    if d < depth then none
    else if test label then if tests = [] then some label else search tests d rest
    else search (test :: tests) depth rest

theorem search_no_tests (depth : Nat) (rest : List (Nat × α)) : search [] depth rest = none := by
  cases rest with
  | nil => rfl
  | cons line rest => rfl

theorem search_no_lines (tests : List (α → Bool)) (depth : Nat) :
    search tests depth ([] : List (Nat × α)) = none := by
  cases tests with
  | nil => rfl
  | cons test tests => rfl

theorem search_cons (test : α → Bool) (tests : List (α → Bool)) (depth d : Nat) (label : α)
    (rest : List (Nat × α)) :
    search (test :: tests) depth ((d, label) :: rest) =
      if d < depth then none
      else if test label then if tests = [] then some label else search tests d rest
      else search (test :: tests) depth rest := rfl

/-- The first node in the order of the lines, with what belongs to it and what is beside it. -/
def firstMatch (test : α → Bool) : Outline α → Option (α × Outline α × Outline α)
  | nil => none
  | node label children siblings =>
    if test label then some (label, children, siblings)
    else (children.firstMatch test).or (siblings.firstMatch test)

theorem firstMatch_node (test : α → Bool) (label : α) (children siblings : Outline α) :
    (node label children siblings).firstMatch test =
      if test label then some (label, children, siblings)
      else (children.firstMatch test).or (siblings.firstMatch test) := rfl

/-- Each test is searched for in what belongs to the last match, then beside it. -/
def lookup : List (α → Bool) → Outline α → Outline α → Option α
  | [], _, _ => none
  | test :: tests, children, siblings =>
    match (children.firstMatch test).or (siblings.firstMatch test) with
    | none => none
    | some (label, children, siblings) =>
      if tests = [] then some label else lookup tests children siblings

theorem lookup_cons (test : α → Bool) (tests : List (α → Bool)) (children siblings : Outline α) :
    lookup (test :: tests) children siblings =
      match (children.firstMatch test).or (siblings.firstMatch test) with
      | none => none
      | some (label, children, siblings) =>
        if tests = [] then some label else lookup tests children siblings := rfl

/-- What follows the outline is less deep. -/
def EndsBefore (depth : Nat) (rest : List (Nat × α)) : Prop := ∀ line ∈ rest.head?, line.1 < depth

theorem endsBefore_nil (depth : Nat) : EndsBefore depth ([] : List (Nat × α)) := by simp [EndsBefore]

theorem endsBefore_lines_append {indent : α → Nat} {depth depth' : Nat} (hdepth : depth < depth')
    (o : Outline α) {rest : List (Nat × α)} (hrest : EndsBefore depth rest) :
    EndsBefore depth' (o.lines indent depth ++ rest) := by
  cases o with
  | nil =>
    intro line hline
    exact Nat.lt_trans (hrest line hline) hdepth
  | node label children siblings =>
    intro line hline
    simp only [lines, List.cons_append, List.head?_cons, Option.mem_some_iff] at hline
    subst hline
    exact hdepth

theorem search_of_endsBefore {tests : List (α → Bool)} {depth : Nat} {rest : List (Nat × α)}
    (h : EndsBefore depth rest) : search tests depth rest = none := by
  cases rest with
  | nil => exact search_no_lines tests depth
  | cons line rest =>
    obtain ⟨d, label⟩ := line
    cases tests with
    | nil => exact search_no_tests depth _
    | cons test tests => rw [search_cons, if_pos (h (d, label) rfl)]

section

variable {indent : α → Nat} (hindent : ∀ label, 0 < indent label)

include hindent

/-- The search in the lines of one outline, given what it does after its first match. -/
theorem search_lines_append {test : α → Bool} {tests : List (α → Bool)}
    (hnext : ∀ (label : α) (children siblings : Outline α) (depth : Nat) (rest : List (Nat × α)),
      EndsBefore depth rest →
      search tests depth
          (children.lines indent (depth + indent label) ++ (siblings.lines indent depth ++ rest)) =
        lookup tests children siblings)
    (o : Outline α) (depth depth' : Nat) (hdepth : depth ≤ depth') (rest : List (Nat × α))
    (hrest : EndsBefore depth' rest) :
    search (test :: tests) depth (o.lines indent depth' ++ rest) =
      match o.firstMatch test with
      | none => search (test :: tests) depth rest
      | some (label, children, siblings) =>
        if tests = [] then some label else lookup tests children siblings := by
  induction o generalizing depth' rest with
  | nil => rfl
  | node label children siblings ihchildren ihsiblings =>
    rw [lines, List.cons_append, List.append_assoc, search_cons, if_neg (by omega),
      firstMatch_node]
    cases hlabel : test label with
    | true =>
      rw [if_pos rfl, if_pos rfl]
      rw [hnext label children siblings depth' rest hrest]
    | false =>
      rw [if_neg (by decide), if_neg (by decide)]
      have hdeeper : depth' < depth' + indent label := Nat.lt_add_of_pos_right (hindent label)
      rw [ihchildren _ (by omega) _ (endsBefore_lines_append hdeeper siblings hrest),
        ihsiblings _ hdepth _ hrest]
      cases children.firstMatch test with
      | none => rfl
      | some m => rfl

theorem search_lines_lines (tests : List (α → Bool)) (label : α) (children siblings : Outline α)
    (depth : Nat) (rest : List (Nat × α)) (hrest : EndsBefore depth rest) :
    search tests depth
        (children.lines indent (depth + indent label) ++ (siblings.lines indent depth ++ rest)) =
      lookup tests children siblings := by
  induction tests generalizing label children siblings depth rest with
  | nil => exact search_no_tests depth _
  | cons test tests ih =>
    have hdeeper : depth < depth + indent label := Nat.lt_add_of_pos_right (hindent label)
    rw [search_lines_append hindent ih children _ _ (by omega) _
        (endsBefore_lines_append hdeeper siblings hrest),
      search_lines_append hindent ih siblings _ _ (Nat.le_refl depth) _ hrest,
      search_of_endsBefore hrest, lookup_cons]
    cases children.firstMatch test with
    | none => rfl
    | some m => rfl

/-- **Lines and trees.** The search in the lines is the search in the tree. -/
theorem search_lines (tests : List (α → Bool)) (o : Outline α) (depth : Nat) :
    search tests 0 (o.lines indent depth) = lookup tests nil o := by
  cases tests with
  | nil => exact search_no_tests 0 _
  | cons test tests =>
    have h : search (test :: tests) 0 (o.lines indent depth ++ []) = _ :=
      search_lines_append hindent (search_lines_lines hindent tests) o 0 depth (Nat.zero_le depth) []
        (endsBefore_nil depth)
    rw [List.append_nil] at h
    rw [h, lookup_cons]
    rfl

end

/-! ## Steps of a lookup -/

theorem lookup_cons_of_match {test : α → Bool} {tests : List (α → Bool)} {children siblings : Outline α}
    {label : α} {children' siblings' : Outline α}
    (h : (children.firstMatch test).or (siblings.firstMatch test) = some (label, children', siblings')) :
    lookup (test :: tests) children siblings =
      if tests = [] then some label else lookup tests children' siblings' := by
  rw [lookup_cons, h]

theorem lookup_cons_of_none {test : α → Bool} {tests : List (α → Bool)} {children siblings : Outline α}
    (hchildren : children.firstMatch test = none) (hsiblings : siblings.firstMatch test = none) :
    lookup (test :: tests) children siblings = none := by
  rw [lookup_cons, hchildren, hsiblings]
  rfl

theorem lookup_singleton (test : α → Bool) (siblings : Outline α) :
    lookup [test] nil siblings = (siblings.firstMatch test).map Prod.fst := by
  rw [lookup_cons, firstMatch, Option.none_or]
  cases siblings.firstMatch test with
  | none => rfl
  | some m => rfl

theorem firstMatch_node_of_true {test : α → Bool} {label : α} (h : test label = true)
    (children siblings : Outline α) :
    (node label children siblings).firstMatch test = some (label, children, siblings) := by
  rw [firstMatch_node, if_pos h]

theorem firstMatch_node_of_false {test : α → Bool} {label : α} (h : test label = false)
    (children siblings : Outline α) :
    (node label children siblings).firstMatch test =
      (children.firstMatch test).or (siblings.firstMatch test) := by
  rw [firstMatch_node, if_neg (by simp [h])]

theorem firstMatch_append_of_none {test : α → Bool} {o : Outline α} (h : o.firstMatch test = none)
    (p : Outline α) : (o.append p).firstMatch test = p.firstMatch test := by
  induction o with
  | nil => rfl
  | node label children siblings _ ih =>
    rw [firstMatch_node] at h
    split at h
    · contradiction
    · rename_i hlabel
      obtain ⟨hchildren, hsiblings⟩ := Option.or_eq_none_iff.mp h
      rw [node_append, firstMatch_node, if_neg hlabel, hchildren, Option.none_or, ih hsiblings]

/-- What is read of the first match, in outlines side by side. -/
theorem map_firstMatch_append {β : Type*} (read : α → β) (test : α → Bool) (o p : Outline α) :
    ((o.append p).firstMatch test).map (fun m => read m.1) =
      ((o.firstMatch test).map fun m => read m.1).or ((p.firstMatch test).map fun m => read m.1) := by
  induction o with
  | nil => rfl
  | node label children siblings _ ih =>
    cases hlabel : test label with
    | true =>
      rw [node_append, firstMatch_node_of_true hlabel, firstMatch_node_of_true hlabel]
      rfl
    | false =>
      rw [node_append, firstMatch_node_of_false hlabel, firstMatch_node_of_false hlabel]
      cases children.firstMatch test with
      | none => exact ih
      | some m => rfl

theorem firstMatch_eq_none_of_imp {test test' : α → Bool} (himp : ∀ label, test' label → test label)
    {o : Outline α} (h : o.firstMatch test = none) : o.firstMatch test' = none := by
  induction o with
  | nil => rfl
  | node label children siblings ihchildren ihsiblings =>
    rw [firstMatch_node] at h
    split at h
    · contradiction
    · rename_i hlabel
      obtain ⟨hchildren, hsiblings⟩ := Option.or_eq_none_iff.mp h
      rw [firstMatch_node, if_neg fun h' => hlabel (himp label h'), ihchildren hchildren,
        ihsiblings hsiblings]
      rfl

end Outline

end IrPitCrew
