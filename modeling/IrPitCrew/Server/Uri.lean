import IrPitCrew.Lib.Text

/-!
# The URI of a request

`libwebsocket_parse` reads the URI of a request line a character at a time. It
decodes `%xx` and folds `//`, `/./` and `/..` as it goes, and stops at a space, at
the end of the line or at a `?`, each of which may have been escaped as well.
-/

open IrPitCrew.Text

namespace IrPitCrew.WebServer

/-! ## The parser -/

/-- `enum uri_path_states`, up to the arguments. -/
inductive PathState
  | idle
  | seenSlash
  | seenSlashDot
  | seenSlashDotDot
  deriving DecidableEq

/-- `enum uri_esc_states`, with the first digit (`esc_stash`) while it is pending. -/
inductive EscState
  | idle
  | seenPercent
  | seenPercentH1 (escStash : Char)
  deriving DecidableEq

/-- The URI's part of the header data, and its length without NUL characters. -/
structure UriParser where
  data : Str := []
  len : ℕ := 0
  ups : PathState := .idle
  ues : EscState := .idle
  deriving DecidableEq

/-- `overrun` is the seal of the URI written past the end of the header data. -/
inductive Parsed
  | more (s : UriParser)
  | ended (s : UriParser)
  | failed
  | overrun
  deriving DecidableEq

/-- `LWS_MAX_HEADER_LEN` -/
def maxHeaderLen : ℕ := 10240

def charToHex (c : Char) : Option ℕ :=
  if '0' ≤ c ∧ c ≤ '9' then some (c.toNat - '0'.toNat)
  else if 'a' ≤ c ∧ c ≤ 'f' then some (c.toNat - 'a'.toNat + 10)
  else if 'A' ≤ c ∧ c ≤ 'F' then some (c.toNat - 'A'.toNat + 10)
  else none

def nul : Char := '\x00'

def issueChar (s : UriParser) (c : Char) : Option UriParser :=
  if s.data.length = maxHeaderLen then none
  else some { s with data := s.data ++ [c], len := if c = nul then s.len else s.len + 1 }

/-- A character issued again, where a failure is not looked at. -/
def regurgitate (s : UriParser) (c : Char) : UriParser := (issueChar s c).getD s

/-- The loop that takes off one name. It looks at the character just taken off. -/
def dropName (data : Str) : ℕ → Str × ℕ
  | 0 => (data, 0)
  | len + 1 =>
    if len > 1 ∧ data.getLast? ≠ some '/' then dropName data.dropLast len else (data.dropLast, len)

/-- Back up one directory level if possible. -/
def backUp (s : UriParser) : UriParser :=
  if s.len > 2 then
    let (data, len) := dropName s.data.dropLast (s.len - 1)
    { s with data := data, len := len }
  else s

/-- The path states: the parser after `c`, and whether `c` is issued. -/
def pathStep (s : UriParser) (c : Char) : UriParser × Bool :=
  match s.ups with
  | .idle => (if c = '/' then { s with ups := .seenSlash } else s, true)
  | .seenSlash =>
    if c = '/' then (s, false)
    else if c = '.' then ({ s with ups := .seenSlashDot }, false)
    else ({ s with ups := .idle }, true)
  | .seenSlashDot =>
    if c = '.' then ({ backUp s with ups := .seenSlashDotDot }, false)
    else if c = '/' then ({ s with ups := .seenSlash }, false)
    else (regurgitate { s with ups := .idle } '.', true)
  | .seenSlashDotDot =>
    if c = '.' ∨ c = '/' then (s, false) else ({ s with ups := .seenSlash }, true)

/-- The URI is closed by a NUL character. -/
def close (s : UriParser) : Parsed := (issueChar s nul).elim .failed fun _ => .ended s

/-- What happens to a character once escapes are out of the way. -/
def assess (s : UriParser) (c : Char) : Parsed :=
  let (s, issued) := pathStep s c
  if !issued then .more s
  else if c = '\r' then close s
  else if c = '?' then (if s.data.length < maxHeaderLen then .ended s else .overrun)
  else (issueChar s c).elim .failed .more

/-- `libwebsocket_parse` in the state `WSI_TOKEN_GET_URI`. -/
def parse (s : UriParser) (c : Char) : Parsed :=
  if s.len = 0 ∧ c = ' ' then .more s
  else if c = ' ' then close s
  else
    match s.ues with
    | .idle => if c = '%' then .more { s with ues := .seenPercent } else assess s c
    | .seenPercent =>
      if charToHex c = none then
        (issueChar s '%').elim .failed fun s => assess { s with ues := .idle } c
      else .more { s with ues := .seenPercentH1 c }
    | .seenPercentH1 escStash =>
      match charToHex c with
      | none =>
        match assess { regurgitate s '%' with ues := .idle } escStash with
        | .more s => assess s c
        | parsed => parsed
      | some low =>
        let high := (charToHex escStash).getD 0
        assess { s with ues := .idle } (Char.ofNat (16 * high + low))

def parseTarget (s : UriParser) : Str → Parsed
  | [] => .more s
  | c :: cs =>
    match parse s c with
    | .more s => parseTarget s cs
    | parsed => parsed

/-- The text that `lws_handshake_server` hands to the callback. A URI with no
character but NUL is missing. That what follows a `?` may overflow the header data
is not followed. -/
def requestUri (target : Str) : Option Str :=
  match parseTarget {} target with
  | .ended s => if s.len = 0 then none else some (s.data.takeWhile (· ≠ nul))
  | _ => none

example : requestUri "/a%20b/./c//d.js?x=1 HTTP/1.1".toList = some "/a b/c/d.js".toList := by decide

/-! ## What each step does to the data -/

theorem issueChar_eq_some {s s' : UriParser} {c : Char} (h : issueChar s c = some s') :
    s.data.length ≠ maxHeaderLen ∧ s'.data = s.data ++ [c] ∧ s'.ups = s.ups ∧
      s.len ≤ s'.len ∧ s'.len ≤ s.len + 1 := by
  unfold issueChar at h
  split at h
  · simp at h
  · rename_i hlen
    obtain rfl := Option.some.inj h
    refine ⟨hlen, rfl, rfl, ?_⟩
    dsimp only
    split <;> simp

theorem regurgitate_cases (s : UriParser) (c : Char) :
    regurgitate s c = s ∧ s.data.length = maxHeaderLen ∨
      ∃ s', issueChar s c = some s' ∧ regurgitate s c = s' := by
  unfold regurgitate
  cases h : issueChar s c with
  | none =>
    left
    refine ⟨rfl, ?_⟩
    unfold issueChar at h
    split at h
    · assumption
    · simp at h
  | some s' => exact Or.inr ⟨s', rfl, rfl⟩

theorem dropName_isPrefix (data : Str) (len : ℕ) : (dropName data len).1 <+: data := by
  induction len generalizing data with
  | zero => exact List.prefix_rfl
  | succ len ih =>
    unfold dropName
    split
    · exact (ih data.dropLast).trans (List.dropLast_prefix data)
    · exact List.dropLast_prefix data

theorem dropName_len (data : Str) (len : ℕ) (hle : len ≤ data.length) (hpos : 2 ≤ len) :
    1 ≤ (dropName data len).2 ∧ (dropName data len).2 ≤ (dropName data len).1.length := by
  induction len generalizing data with
  | zero => omega
  | succ len ih =>
    unfold dropName
    split
    · rename_i h
      exact ih data.dropLast (by simp; omega) h.1
    · exact ⟨by dsimp only; omega, by simp; omega⟩

theorem backUp_isPrefix (s : UriParser) : (backUp s).data <+: s.data := by
  unfold backUp
  split
  · exact (dropName_isPrefix _ _).trans (List.dropLast_prefix s.data)
  · exact List.prefix_rfl

theorem backUp_len (s : UriParser) (h : s.len ≤ s.data.length) :
    (backUp s).len ≤ (backUp s).data.length ∧ (1 ≤ s.len → 1 ≤ (backUp s).len) := by
  unfold backUp
  split
  · rename_i hlen
    have hdrop := dropName_len s.data.dropLast (s.len - 1) (by simp; omega) (by omega)
    exact ⟨hdrop.2, fun _ => hdrop.1⟩
  · exact ⟨h, id⟩

/-! ## The data is folded -/

/-- No empty part, no `.` and no `..` after a slash, and no character that ends the URI. -/
structure Folded (data : Str) : Prop where
  noSlashes : ¬ ['/', '/'] <:+: data
  noDot : ¬ ['/', '.', '/'] <:+: data
  noDots : ¬ ['/', '.', '.'] <:+: data
  noQuestion : '?' ∉ data
  noReturn : '\r' ∉ data

theorem Folded.of_isPrefix {a b : Str} (h : Folded b) (hab : a <+: b) : Folded a where
  noSlashes hin := h.noSlashes (hin.trans hab.isInfix)
  noDot hin := h.noDot (hin.trans hab.isInfix)
  noDots hin := h.noDots (hin.trans hab.isInfix)
  noQuestion hin := h.noQuestion (hab.subset hin)
  noReturn hin := h.noReturn (hab.subset hin)

theorem concat_suffix_concat (p data : Str) (b c : Char) :
    p ++ [b] <:+ data ++ [c] ↔ b = c ∧ p <:+ data := by
  rw [List.suffix_concat_iff]
  constructor
  · rintro (h | ⟨t, ht, hsuf⟩)
    · simp at h
    · obtain ⟨rfl, hbc⟩ := List.append_inj' ht rfl
      exact ⟨by simpa using hbc, hsuf⟩
  · rintro ⟨rfl, h⟩
    exact Or.inr ⟨p, rfl, h⟩

theorem concat_infix_concat (p data : Str) (b c : Char) (h : p ++ [b] <:+: data ++ [c]) :
    p ++ [b] <:+: data ∨ b = c ∧ p <:+ data := by
  rw [List.infix_concat_iff] at h
  rcases h with h | h
  · exact Or.inr ((concat_suffix_concat p data b c).1 h)
  · exact Or.inl h

theorem Folded.concat {data : Str} {c : Char} (h : Folded data)
    (hslash : c = '/' → ¬ ['/'] <:+ data ∧ ¬ ['/', '.'] <:+ data)
    (hdot : c = '.' → ¬ ['/', '.'] <:+ data) (hq : c ≠ '?') (hr : c ≠ '\r') :
    Folded (data ++ [c]) where
  noSlashes hin := by
    rcases concat_infix_concat ['/'] data '/' c hin with hin | ⟨rfl, hsuf⟩
    · exact h.noSlashes hin
    · exact (hslash rfl).1 hsuf
  noDot hin := by
    rcases concat_infix_concat ['/', '.'] data '/' c hin with hin | ⟨rfl, hsuf⟩
    · exact h.noDot hin
    · exact (hslash rfl).2 hsuf
  noDots hin := by
    rcases concat_infix_concat ['/', '.'] data '.' c hin with hin | ⟨rfl, hsuf⟩
    · exact h.noDots hin
    · exact hdot rfl hsuf
  noQuestion hin := by
    rcases List.mem_append.1 hin with hin | hin
    · exact h.noQuestion hin
    · exact hq (List.mem_singleton.1 hin).symm
  noReturn hin := by
    rcases List.mem_append.1 hin with hin | hin
    · exact h.noReturn hin
    · exact hr (List.mem_singleton.1 hin).symm

/-! ## The invariant of the parser -/

variable {root : Str}

/-- A slash has just been issued only in a state that will not issue another one, and
a `.` after it only where all that follows is swallowed. -/
structure Clean (root : Str) (s : UriParser) : Prop where
  rooted : root <+: s.data
  root_le : root.length ≤ 1 ∧ root.length ≤ s.len
  within : s.data.length ≤ maxHeaderLen
  len_le : s.len ≤ s.data.length
  folded : Folded s.data
  slash : ['/'] <:+ s.data → s.ups ≠ .idle
  slashDot : ['/', '.'] <:+ s.data → s.ups = .seenSlashDotDot

/-- The parser may issue `c`. -/
structure Ready (root : Str) (s : UriParser) (c : Char) : Prop where
  rooted : root <+: s.data
  root_le : root.length ≤ 1 ∧ root.length ≤ s.len
  within : s.data.length ≤ maxHeaderLen
  len_le : s.len ≤ s.data.length
  folded : Folded s.data
  slash : c = '/' → ¬ ['/'] <:+ s.data ∧ ¬ ['/', '.'] <:+ s.data ∧ s.ups ≠ .idle
  dot : c = '.' → ¬ ['/'] <:+ s.data ∧ ¬ ['/', '.'] <:+ s.data

theorem Clean.ues {s : UriParser} (h : Clean root s) (ues : EscState) :
    Clean root { s with ues := ues } :=
  ⟨h.rooted, h.root_le, h.within, h.len_le, h.folded, h.slash, h.slashDot⟩

theorem clean_initial : Clean [] {} where
  rooted := List.nil_prefix
  root_le := ⟨Nat.zero_le _, Nat.zero_le _⟩
  within := Nat.zero_le _
  len_le := Nat.le_refl 0
  folded := ⟨by simp, by simp, by simp, by simp, by simp⟩
  slash h := by simp at h
  slashDot h := by simp at h

theorem issueChar_fits {s s' : UriParser} {c : Char} (hissue : issueChar s c = some s')
    (hrooted : root <+: s.data) (hwithin : s.data.length ≤ maxHeaderLen)
    (hlen : s.len ≤ s.data.length) :
    root <+: s'.data ∧ s'.data.length ≤ maxHeaderLen ∧ s'.len ≤ s'.data.length := by
  obtain ⟨hroom, hdata, -, hle, hle'⟩ := issueChar_eq_some hissue
  rw [hdata, List.length_append, List.length_singleton]
  refine ⟨hrooted.trans (List.prefix_append _ _), ?_, ?_⟩ <;> omega

theorem Ready.issueChar {s s' : UriParser} {c : Char} (h : Ready root s c) (hq : c ≠ '?')
    (hr : c ≠ '\r') (hissue : issueChar s c = some s') : Clean root s' := by
  obtain ⟨-, hdata, hups, hle, -⟩ := issueChar_eq_some hissue
  obtain ⟨hrooted, hwithin, hlen⟩ := issueChar_fits hissue h.rooted h.within h.len_le
  refine ⟨hrooted, ⟨h.root_le.1, h.root_le.2.trans hle⟩, hwithin, hlen, ?_, ?_, ?_⟩
  · rw [hdata]
    exact h.folded.concat (fun hc => ⟨(h.slash hc).1, (h.slash hc).2.1⟩) (fun hc => (h.dot hc).2)
      hq hr
  · rw [hdata, hups]
    intro hsuf
    exact (h.slash ((concat_suffix_concat [] s.data '/' c).1 hsuf).1.symm).2.2
  · rw [hdata]
    intro hsuf
    obtain ⟨hc, hsuf⟩ := (concat_suffix_concat ['/'] s.data '.' c).1 hsuf
    exact absurd hsuf (h.dot hc.symm).1

theorem Clean.setUps {s : UriParser} {ups : PathState} (h : Clean root s) (hups : ups ≠ .idle)
    (hdot : ¬ ['/', '.'] <:+ s.data) : Clean root { s with ups := ups } :=
  ⟨h.rooted, h.root_le, h.within, h.len_le, h.folded, fun _ => hups, fun hsuf => absurd hsuf hdot⟩

theorem Clean.ready {s : UriParser} {c : Char} (h : Clean root s) (ups : PathState)
    (hslash : c = '/' → ¬ ['/'] <:+ s.data ∧ ¬ ['/', '.'] <:+ s.data ∧ ups ≠ .idle)
    (hdot : c = '.' → ¬ ['/'] <:+ s.data ∧ ¬ ['/', '.'] <:+ s.data) :
    Ready root { s with ups := ups } c :=
  ⟨h.rooted, h.root_le, h.within, h.len_le, h.folded, hslash, hdot⟩

/-- A character that is neither a slash nor a `.` may be issued at any time. -/
theorem Clean.ready_of_ne {s : UriParser} {c : Char} (h : Clean root s) (ups : PathState)
    (hslash : c ≠ '/') (hdot : c ≠ '.') : Ready root { s with ups := ups } c :=
  h.ready ups (fun hc => absurd hc hslash) (fun hc => absurd hc hdot)

theorem Clean.root_le_backUp {s : UriParser} (h : Clean root s) :
    root.length ≤ (backUp s).len ∧ (backUp s).len ≤ (backUp s).data.length := by
  have hlen := backUp_len s h.len_le
  have hroot := h.root_le
  refine ⟨?_, hlen.1⟩
  by_cases hpos : 1 ≤ s.len
  · have := hlen.2 hpos
    omega
  · omega

theorem Clean.backUp {s : UriParser} (h : Clean root s) :
    Clean root { backUp s with ups := .seenSlashDotDot } where
  rooted := List.prefix_of_prefix_length_le h.rooted (backUp_isPrefix s)
    (h.root_le_backUp.1.trans h.root_le_backUp.2)
  root_le := ⟨h.root_le.1, h.root_le_backUp.1⟩
  within := (backUp_isPrefix s).length_le.trans h.within
  len_le := (backUp_len s h.len_le).1
  folded := h.folded.of_isPrefix (backUp_isPrefix s)
  slash _ := by simp
  slashDot _ := rfl

theorem Clean.not_slashDot {s : UriParser} (h : Clean root s) (hups : s.ups ≠ .seenSlashDotDot) :
    ¬ ['/', '.'] <:+ s.data :=
  fun hsuf => hups (h.slashDot hsuf)

/-- The `.` after a slash that a name begins with is issued late. -/
theorem Clean.regurgitate {s : UriParser} {c : Char} (h : Clean root s) (hups : s.ups = .seenSlashDot)
    (hslash : c ≠ '/') (hdot : c ≠ '.') : Ready root (regurgitate { s with ups := .idle } '.') c := by
  rcases regurgitate_cases { s with ups := .idle } '.' with ⟨heq, -⟩ | ⟨s', hissue, heq⟩
  · rw [heq]
    exact h.ready_of_ne .idle hslash hdot
  · rw [heq]
    obtain ⟨-, hdata, -, hle, -⟩ := issueChar_eq_some hissue
    obtain ⟨hrooted, hwithin, hlen⟩ := issueChar_fits hissue h.rooted h.within h.len_le
    dsimp only at hdata hle
    have hfolded : Folded s'.data := by
      rw [hdata]
      exact h.folded.concat (by simp) (fun _ => h.not_slashDot (by simp [hups])) (by decide)
        (by decide)
    exact ⟨hrooted, ⟨h.root_le.1, h.root_le.2.trans hle⟩, hwithin, hlen, hfolded,
      fun hc => absurd hc hslash, fun hc => absurd hc hdot⟩

theorem pathStep_clean {s : UriParser} (c : Char) (h : Clean root s) :
    ((pathStep s c).2 = false → Clean root (pathStep s c).1) ∧
      ((pathStep s c).2 = true → Ready root (pathStep s c).1 c) := by
  unfold pathStep
  split
  · rename_i hups
    refine ⟨by simp, fun _ => ?_⟩
    -- idle: the data ends with neither a slash nor `/.`
    have hslash : ¬ ['/'] <:+ s.data := fun hsuf => h.slash hsuf hups
    have hdot := h.not_slashDot (by simp [hups])
    dsimp only
    split
    · exact h.ready .seenSlash (fun _ => ⟨hslash, hdot, by simp⟩) (fun _ => ⟨hslash, hdot⟩)
    · rename_i hc
      exact h.ready s.ups (fun heq => absurd heq hc) (fun _ => ⟨hslash, hdot⟩)
  · rename_i hups
    have hdot := h.not_slashDot (by simp [hups])
    split
    · exact ⟨fun _ => h, by simp⟩
    · rename_i hcs
      split
      · exact ⟨fun _ => h.setUps (by simp) hdot, by simp⟩
      · rename_i hcd
        exact ⟨by simp, fun _ => h.ready_of_ne .idle hcs hcd⟩
  · rename_i hups
    have hdot := h.not_slashDot (by simp [hups])
    split
    · exact ⟨fun _ => h.backUp, by simp⟩
    · rename_i hcd
      split
      · exact ⟨fun _ => h.setUps (by simp) hdot, by simp⟩
      · rename_i hcs
        exact ⟨by simp, fun _ => h.regurgitate hups hcs hcd⟩
  · split
    · exact ⟨fun _ => h, by simp⟩
    · rename_i hc
      rw [not_or] at hc
      exact ⟨by simp, fun _ => h.ready_of_ne .seenSlash hc.2 hc.1⟩

/-- What holds of the parser after a character: the invariant, or a folded URI. -/
def Parsed.Good (root : Str) : Parsed → Prop
  | .more s => Clean root s
  | .ended s => root <+: s.data ∧ Folded s.data ∧ s.data.length < maxHeaderLen
  | .failed => True
  | .overrun => True

theorem close_good {s : UriParser} (hroot : root <+: s.data)
    (hwithin : s.data.length ≤ maxHeaderLen) (hfolded : Folded s.data) : (close s).Good root := by
  unfold close
  cases hissue : issueChar s nul with
  | none => exact trivial
  | some s' =>
    obtain ⟨hlen, -⟩ := issueChar_eq_some hissue
    exact ⟨hroot, hfolded, by omega⟩

theorem assess_good {s : UriParser} (c : Char) (h : Clean root s) : (assess s c).Good root := by
  obtain ⟨hswallow, hissued⟩ := pathStep_clean c h
  unfold assess
  cases hstep : pathStep s c with
  | mk s' issued =>
    rw [hstep] at hswallow hissued
    cases issued with
    | false => exact hswallow rfl
    | true =>
      have hready := hissued rfl
      simp only [Bool.not_true, Bool.false_eq_true, if_false]
      split
      · exact close_good hready.rooted hready.within hready.folded
      · rename_i hr
        split
        · split
          · rename_i hlt
            exact ⟨hready.rooted, hready.folded, hlt⟩
          · exact trivial
        · rename_i hq
          cases hissue : issueChar s' c with
          | none => exact trivial
          | some s'' => exact hready.issueChar hq hr hissue

theorem parse_good {s : UriParser} (c : Char) (h : Clean root s) : (parse s c).Good root := by
  unfold parse
  split
  · exact h
  · split
    · exact close_good h.rooted h.within h.folded
    · split
      · split
        · exact h.ues _
        · exact assess_good c h
      · split
        · cases hissue : issueChar s '%' with
          | none => exact trivial
          | some s' =>
            have hready := h.ready_of_ne s.ups (c := '%') (by decide) (by decide)
            have hclean := hready.issueChar (by decide) (by decide) hissue
            exact assess_good c (hclean.ues _)
        · exact h.ues _
      · rename_i escStash hues
        split
        · have hclean : Clean root (regurgitate s '%') := by
            rcases regurgitate_cases s '%' with ⟨heq, -⟩ | ⟨s', hissue, heq⟩
            · rw [heq]
              exact h
            · rw [heq]
              have hready := h.ready_of_ne s.ups (c := '%') (by decide) (by decide)
              exact hready.issueChar (by decide) (by decide) hissue
          have hstash := assess_good escStash (hclean.ues .idle)
          generalize assess { regurgitate s '%' with ues := .idle } escStash = parsed at hstash ⊢
          cases parsed with
          | more s' => exact assess_good c hstash
          | ended s' => exact hstash
          | failed => exact trivial
          | overrun => exact trivial
        · exact assess_good _ (h.ues _)

theorem parseTarget_good (s : UriParser) (target : Str) (h : Clean root s) :
    (parseTarget s target).Good root := by
  induction target generalizing s with
  | nil => exact h
  | cons c cs ih =>
    have hc := parse_good c h
    unfold parseTarget
    cases hparse : parse s c with
    | more s' =>
      rw [hparse] at hc
      exact ih s' hc
    | ended s' =>
      rw [hparse] at hc
      exact hc
    | failed => exact trivial
    | overrun => exact trivial

theorem requestUri_eq_some {target uri : Str} (h : requestUri target = some uri) :
    ∃ s, parseTarget {} target = .ended s ∧ uri = s.data.takeWhile (· ≠ nul) := by
  unfold requestUri at h
  generalize parseTarget {} target = parsed at h
  cases parsed with
  | ended s =>
    dsimp only at h
    split at h
    · simp at h
    · exact ⟨s, rfl, (Option.some.inj h).symm⟩
  | more s => simp at h
  | failed => simp at h
  | overrun => simp at h

theorem requestUri_folded {target uri : Str} (h : requestUri target = some uri) :
    Folded uri ∧ nul ∉ uri ∧ uri.length < maxHeaderLen := by
  obtain ⟨s, hrun, rfl⟩ := requestUri_eq_some h
  have hgood := parseTarget_good {} target clean_initial
  rw [hrun] at hgood
  obtain ⟨-, hfolded, hlen⟩ := hgood
  have hpre := List.takeWhile_prefix (l := s.data) fun c => decide (c ≠ nul)
  refine ⟨hfolded.of_isPrefix hpre, ?_, hpre.length_le.trans_lt hlen⟩
  intro hmem
  simpa using List.mem_takeWhile_imp hmem

theorem clean_slash : Clean ['/'] { data := ['/'], len := 1, ups := .seenSlash } where
  rooted := List.prefix_rfl
  root_le := ⟨Nat.le_refl 1, Nat.le_refl 1⟩
  within := by decide
  len_le := Nat.le_refl 1
  folded := ⟨by decide, by decide, by decide, by decide, by decide⟩
  slash _ := by simp
  slashDot h := absurd h (by decide)

/-- A target that begins with a slash keeps it, after any number of spaces. -/
theorem requestUri_rooted {n : ℕ} {rest uri : Str}
    (h : requestUri (List.replicate n ' ' ++ '/' :: rest) = some uri) : uri.head? = some '/' := by
  obtain ⟨s, hrun, rfl⟩ := requestUri_eq_some h
  have hstart : parseTarget {} (List.replicate n ' ' ++ '/' :: rest) =
      parseTarget { data := ['/'], len := 1, ups := .seenSlash } rest := by
    clear h hrun
    induction n with
    | zero => rfl
    | succ n ih => exact ih
  have hgood := parseTarget_good _ rest clean_slash
  rw [← hstart, hrun] at hgood
  obtain ⟨b, hb⟩ := hgood.1
  rw [← hb]
  rfl

/-! ## A folded path is delivered as it is -/

/-- `text` is a way to write `path`: each character itself, or its escape. -/
inductive Spells : Str → Str → Prop
  | nil : Spells [] []
  | plain {c : Char} {text path : Str} : c ≠ ' ' → c ≠ '%' → Spells text path →
      Spells (c :: text) (c :: path)
  | escaped {a b : Char} {high low : ℕ} {text path : Str} : charToHex a = some high →
      charToHex b = some low → Spells text path →
      Spells ('%' :: a :: b :: text) (Char.ofNat (16 * high + low) :: path)

/-- The parser once it has read the path `a`. A `.` after a slash is still held back. -/
def stateOf (a : Str) : UriParser :=
  if ['/', '.'] <:+ a then { data := a.dropLast, len := a.length - 1, ups := .seenSlashDot }
  else { data := a, len := a.length, ups := if ['/'] <:+ a then .seenSlash else .idle }

theorem stateOf_of_slashDot (b : Str) :
    stateOf (b ++ ['/', '.']) = { data := b ++ ['/'], len := b.length + 1, ups := .seenSlashDot } := by
  unfold stateOf
  rw [if_pos (List.suffix_append b _)]
  simp

theorem stateOf_of_not {a : Str} (h : ¬ ['/', '.'] <:+ a) :
    stateOf a = { data := a, len := a.length, ups := if ['/'] <:+ a then .seenSlash else .idle } := by
  unfold stateOf
  rw [if_neg h]

/-- A character that is not a `.` after a slash has been issued. -/
theorem stateOf_concat {a : Str} {c : Char} (h : ¬ (c = '.' ∧ ['/'] <:+ a)) :
    stateOf (a ++ [c]) =
      { data := a ++ [c], len := a.length + 1, ups := if c = '/' then .seenSlash else .idle } := by
  have hdot : ¬ ['/', '.'] <:+ a ++ [c] := fun hsuf =>
    h (((concat_suffix_concat ['/'] a '.' c).1 hsuf).imp_left Eq.symm)
  have hslash : ['/'] <:+ a ++ [c] ↔ c = '/' := by
    rw [show ['/'] = [] ++ ['/'] from rfl, concat_suffix_concat]
    simp [eq_comm]
  rw [stateOf_of_not hdot, if_congr hslash rfl rfl, List.length_append, List.length_singleton]

theorem stateOf_ues (a : Str) : (stateOf a).ues = .idle := by
  unfold stateOf
  split <;> rfl

theorem issueChar_of_lt {s : UriParser} {c : Char} (h : s.data.length < maxHeaderLen) (hc : c ≠ nul) :
    issueChar s c = some { s with data := s.data ++ [c], len := s.len + 1 } := by
  unfold issueChar
  rw [if_neg (Nat.ne_of_lt h), if_neg hc]

theorem assess_issued {s s' s'' : UriParser} {c : Char} (hstep : pathStep s c = (s', true))
    (hr : c ≠ '\r') (hq : c ≠ '?') (hissue : issueChar s' c = some s'') : assess s c = .more s'' := by
  unfold assess
  rw [hstep]
  simp only [Bool.not_true, Bool.false_eq_true, if_false, if_neg hr, if_neg hq, hissue, Option.elim_some]

theorem assess_stateOf {a : Str} {c : Char} (h : Folded (a ++ [c])) (hc : c ≠ nul)
    (hlen : a.length < maxHeaderLen) : assess (stateOf a) c = .more (stateOf (a ++ [c])) := by
  have hq : c ≠ '?' := fun hc => h.noQuestion (by simp [hc])
  have hr : c ≠ '\r' := fun hc => h.noReturn (by simp [hc])
  by_cases hdot : ['/', '.'] <:+ a
  · obtain ⟨b, rfl⟩ := hdot
    have hcd : c ≠ '.' := by
      rintro rfl
      exact h.noDots ⟨b, [], by simp⟩
    have hcs : c ≠ '/' := by
      rintro rfl
      exact h.noDot ⟨b, [], by simp⟩
    rw [List.length_append, List.length_cons, List.length_singleton] at hlen
    have hstep : pathStep (stateOf (b ++ ['/', '.'])) c =
        ({ data := b ++ ['/', '.'], len := b.length + 2 }, true) := by
      rw [stateOf_of_slashDot]
      simp only [pathStep, if_neg hcd, if_neg hcs, regurgitate]
      rw [issueChar_of_lt (by simp; omega) (by decide)]
      simp
    rw [assess_issued hstep hr hq (issueChar_of_lt (by simp; omega) hc),
      stateOf_concat (fun hand => hcd hand.1), if_neg hcs]
    simp
  · by_cases hslash : ['/'] <:+ a
    · have hcs : c ≠ '/' := by
        rintro rfl
        obtain ⟨b, rfl⟩ := hslash
        exact h.noSlashes ⟨b, [], by simp⟩
      have hups : stateOf a = { data := a, len := a.length, ups := .seenSlash } := by
        rw [stateOf_of_not hdot, if_pos hslash]
      by_cases hcd : c = '.'
      · obtain ⟨b, rfl⟩ := hslash
        rw [hups, hcd, List.append_assoc, List.singleton_append, stateOf_of_slashDot]
        simp [assess, pathStep]
      · have hstep : pathStep (stateOf a) c = ({ data := a, len := a.length }, true) := by
          rw [hups]
          simp only [pathStep, if_neg hcd, if_neg hcs]
        rw [assess_issued hstep hr hq (issueChar_of_lt hlen hc), stateOf_concat (fun hand => hcd hand.1),
          if_neg hcs]
    · have hups : stateOf a = { data := a, len := a.length } := by
        rw [stateOf_of_not hdot, if_neg hslash]
      have hstep : pathStep (stateOf a) c =
          ({ data := a, len := a.length, ups := if c = '/' then .seenSlash else .idle }, true) := by
        rw [hups]
        simp only [pathStep]
        split <;> rfl
      rw [assess_issued hstep hr hq (issueChar_of_lt hlen hc), stateOf_concat (fun hand => hslash hand.2)]

theorem parse_plain {a : Str} {c : Char} (hspace : c ≠ ' ') (hpercent : c ≠ '%') :
    parse (stateOf a) c = assess (stateOf a) c := by
  unfold parse
  rw [if_neg (fun hand => hspace hand.2), if_neg hspace, stateOf_ues]
  simp only [if_neg hpercent]

theorem charToHex_space : charToHex ' ' = none := by decide

theorem ne_space_of_charToHex {c : Char} {n : ℕ} (h : charToHex c = some n) : c ≠ ' ' := by
  rintro rfl
  rw [charToHex_space] at h
  simp at h

theorem parseTarget_escaped {s : UriParser} {a b : Char} {high low : ℕ} (text : Str)
    (hues : s.ues = .idle) (ha : charToHex a = some high) (hb : charToHex b = some low) :
    parseTarget s ('%' :: a :: b :: text) =
      match assess s (Char.ofNat (16 * high + low)) with
      | .more s => parseTarget s text
      | parsed => parsed := by
  have h0 : parse s '%' = .more { s with ues := .seenPercent } := by
    unfold parse
    rw [if_neg (by simp), if_neg (by decide), hues]
    rfl
  have h1 : parse { s with ues := .seenPercent } a = .more { s with ues := .seenPercentH1 a } := by
    unfold parse
    rw [if_neg (fun hand => ne_space_of_charToHex ha hand.2), if_neg (ne_space_of_charToHex ha)]
    simp [ha]
  have h2 : parse { s with ues := .seenPercentH1 a } b = assess s (Char.ofNat (16 * high + low)) := by
    unfold parse
    rw [if_neg (fun hand => ne_space_of_charToHex hb hand.2), if_neg (ne_space_of_charToHex hb)]
    simp only [hb, ha, Option.getD_some]
    rw [← hues]
  rw [parseTarget, h0]
  simp only [parseTarget, h1, h2]

theorem parseTarget_spells {text path : Str} (hspell : Spells text path) (a rest : Str)
    (hfolded : Folded (a ++ path)) (hnul : nul ∉ path) (hlen : (a ++ path).length < maxHeaderLen) :
    parseTarget (stateOf a) (text ++ rest) = parseTarget (stateOf (a ++ path)) rest := by
  induction hspell generalizing a with
  | nil => rw [List.nil_append, List.append_nil]
  | @plain c text path hspace hpercent hspell ih =>
    rw [List.append_cons] at hfolded hlen ⊢
    have hassess := assess_stateOf (hfolded.of_isPrefix (List.prefix_append _ path))
      (fun hc => hnul (by simp [hc])) (by simp at hlen; omega)
    rw [List.cons_append, parseTarget, parse_plain hspace hpercent, hassess]
    exact ih (a ++ [c]) hfolded (fun hmem => hnul (List.mem_cons_of_mem c hmem)) hlen
  | @escaped b d high low text path hb hd hspell ih =>
    generalize heq : Char.ofNat (16 * high + low) = c at *
    rw [List.append_cons] at hfolded hlen ⊢
    have hassess := assess_stateOf (hfolded.of_isPrefix (List.prefix_append _ path))
      (fun hc => hnul (by simp [hc])) (by simp at hlen; omega)
    rw [List.cons_append, List.cons_append, List.cons_append,
      parseTarget_escaped (text ++ rest) (stateOf_ues a) hb hd]
    simp only [heq, hassess]
    exact ih (a ++ [c]) hfolded (fun hmem => hnul (List.mem_cons_of_mem c hmem)) hlen

/-- A `?` closes the URI, with the `.` that is held back. -/
theorem assess_question {a : Str} (hlen : a.length < maxHeaderLen) :
    ∃ s, assess (stateOf a) '?' = .ended s ∧ s.data = a ∧ s.len = a.length := by
  by_cases hdot : ['/', '.'] <:+ a
  · obtain ⟨b, rfl⟩ := hdot
    rw [List.length_append, List.length_cons, List.length_singleton] at hlen
    refine ⟨{ data := b ++ ['/', '.'], len := b.length + 2 }, ?_, rfl, by simp⟩
    have hstep : pathStep (stateOf (b ++ ['/', '.'])) '?' =
        ({ data := b ++ ['/', '.'], len := b.length + 2 }, true) := by
      rw [stateOf_of_slashDot]
      simp only [pathStep, regurgitate]
      rw [issueChar_of_lt (by simp; omega) (by decide)]
      simp
    unfold assess
    rw [hstep]
    simp [hlen]
  · refine ⟨{ data := a, len := a.length }, ?_, rfl, rfl⟩
    rw [stateOf_of_not hdot]
    unfold assess pathStep
    by_cases hslash : ['/'] <:+ a
    · simp [hslash, hlen]
    · simp [hslash, hlen]

theorem requestUri_question {text path : Str} (hspell : Spells text path) (rest : Str) (hne : path ≠ [])
    (hfolded : Folded path) (hnul : nul ∉ path) (hlen : path.length < maxHeaderLen) :
    requestUri (text ++ '?' :: rest) = some path := by
  have hrun := parseTarget_spells hspell [] ('?' :: rest) hfolded hnul hlen
  obtain ⟨s, hassess, hdata, hslen⟩ := assess_question hlen
  have hend : parseTarget (stateOf path) ('?' :: rest) = .ended s := by
    rw [parseTarget, parse_plain (by decide) (by decide), hassess]
  have hnil : stateOf [] = {} := by simp [stateOf]
  rw [List.nil_append, hend, hnil] at hrun
  unfold requestUri
  rw [hrun]
  have hpos : s.len ≠ 0 := by
    rw [hslen]
    exact (List.length_pos_iff.2 hne).ne'
  simp only [if_neg hpos, hdata]
  congr 1
  exact List.takeWhile_eq_self_iff.2 (fun c hc => by simpa using fun heq : c = nul => hnul (heq ▸ hc))

theorem requestUri_space {text path : Str} (hspell : Spells text path) (rest : Str) (hne : path ≠ [])
    (hfolded : Folded path) (hnul : nul ∉ path) (hlen : path.length < maxHeaderLen)
    (hdot : ¬ ['/', '.'] <:+ path) : requestUri (text ++ ' ' :: rest) = some path := by
  have hrun := parseTarget_spells hspell [] (' ' :: rest) hfolded hnul hlen
  have hpos : path.length ≠ 0 := (List.length_pos_iff.2 hne).ne'
  have hend : parseTarget (stateOf path) (' ' :: rest) = .ended (stateOf path) := by
    rw [stateOf_of_not hdot, parseTarget, parse, if_neg (fun hand => hpos hand.1), if_pos rfl, close]
    unfold issueChar
    rw [if_neg (Nat.ne_of_lt hlen)]
    rfl
  have hnil : stateOf [] = {} := by simp [stateOf]
  rw [List.nil_append, hend, hnil] at hrun
  unfold requestUri
  rw [hrun, stateOf_of_not hdot]
  simp only [if_neg hpos]
  congr 1
  exact List.takeWhile_eq_self_iff.2 (fun c hc => by simpa using fun heq : c = nul => hnul (heq ▸ hc))

/-- A folded path reaches the callback as it is, however its characters are escaped. -/
theorem requestUri_spells {text path : Str} (hspell : Spells text path) (hne : path ≠ [])
    (hfolded : Folded path) (hnul : nul ∉ path) (hlen : path.length < maxHeaderLen) (rest : Str) :
    requestUri (text ++ '?' :: rest) = some path ∧
      (¬ ['/', '.'] <:+ path → requestUri (text ++ ' ' :: rest) = some path) :=
  ⟨requestUri_question hspell rest hne hfolded hnul hlen,
    requestUri_space hspell rest hne hfolded hnul hlen⟩

theorem requestUri_spells_space :
    requestUri "/%61%20b.j%73 HTTP/1.1".toList = some "/a b.js".toList := by
  have hname : Spells "b.j%73".toList "b.js".toList :=
    .plain (by decide) (by decide) <| .plain (by decide) (by decide) <|
      .plain (by decide) (by decide) <| .escaped (a := '7') (b := '3') rfl rfl .nil
  have hspell : Spells "/%61%20b.j%73".toList "/a b.js".toList :=
    .plain (by decide) (by decide) <| .escaped (a := '6') (b := '1') rfl rfl <|
      .escaped (a := '2') (b := '0') rfl rfl hname
  have hfolded : Folded "/a b.js".toList :=
    ⟨by decide, by decide, by decide, by decide, by decide⟩
  exact (requestUri_spells hspell (by decide) hfolded (by decide) (by decide)
    "HTTP/1.1".toList).2 (by decide)

theorem exists_spells (path : Str) : ∃ text, Spells text path := by
  induction path with
  | nil => exact ⟨[], .nil⟩
  | cons c path ih =>
    obtain ⟨text, hspell⟩ := ih
    by_cases hspace : c = ' '
    · subst hspace
      exact ⟨'%' :: '2' :: '0' :: text, .escaped (a := '2') (b := '0') rfl rfl hspell⟩
    · by_cases hpercent : c = '%'
      · subst hpercent
        exact ⟨'%' :: '2' :: '5' :: text, .escaped (a := '2') (b := '5') rfl rfl hspell⟩
      · exact ⟨c :: text, .plain hspace hpercent hspell⟩

/-- The URIs that requests can have are the folded ones that fit. -/
theorem requestUri_range (uri : Str) :
    (∃ target, requestUri target = some uri) ↔
      Folded uri ∧ nul ∉ uri ∧ uri.length < maxHeaderLen := by
  constructor
  · rintro ⟨target, h⟩
    exact requestUri_folded h
  · rintro ⟨hfolded, hnul, hlen⟩
    by_cases hne : uri = []
    · -- an escaped NUL character hides what follows it
      exact ⟨"%00x ".toList, by rw [hne]; decide⟩
    · obtain ⟨text, hspell⟩ := exists_spells uri
      exact ⟨text ++ ['?'], requestUri_question hspell [] hne hfolded hnul hlen⟩

end IrPitCrew.WebServer
