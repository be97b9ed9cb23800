import IrPitCrew.Lib.Path
import IrPitCrew.Server.Uri

/-!
# The files that are served

`callback_http` puts the directory of the web client before the URI and refuses a
URI with `..` in it. It does not look at how the URI begins, so the path goes down from
that directory just when the URI goes on with a separator.
-/

open IrPitCrew.Text IrPitCrew.Path

namespace IrPitCrew.WebServer

/-! ## `callback_http` -/

def strBaseDirectory : Str := "./Client".toList

def strIndexFileName : Str := "irPitCrew.html".toList

def dotDot : Str := ['.', '.']

/-- The mime type is chosen by the file extension. -/
def mimeOf (strExt : Str) : Str :=
  if strExt = [] then "text/plain".toList
  else if strExt = ".png".toList then "image/png".toList
  else if strExt = ".jpg".toList then "image/jpg".toList
  else if strExt = ".gif".toList then "image/gif".toList
  else if strExt = ".html".toList then "text/html".toList
  else if strExt = ".css".toList then "text/css".toList
  else if strExt = ".js".toList then "text/javascript".toList
  else "text/plain".toList

/-- The path and the mime type of the answer to a request. -/
def resource (strFileName : Str) : Str × Str :=
  if strFileName = ['/'] then (strBaseDirectory ++ strFileName ++ strIndexFileName, "text/html".toList)
  else
    let strFileName := if contains dotDot strFileName then [] else strFileName
    let strResponse := strBaseDirectory ++ strFileName
    (strResponse, mimeOf (extension strResponse))

/-- `LWS_CALLBACK_HTTP`, over what `libwebsockets_serve_http_file` returns. -/
def callbackHttp (serveHttpFile : Str → Str → ℤ) (requestedUri : Str) : ℤ :=
  let (path, mime) := resource requestedUri
  if serveHttpFile path mime ≠ 0 then -1 else 0

/-! ## Where a path begins -/

/-- Windows takes both slashes. -/
def isSeparator (c : Char) : Bool := c = '/' ∨ c = '\\'

def pathParts (path : Str) : List Str := path.splitOnP isSeparator

def clientName : Str := "Client".toList

/-- The text of the path goes down from the directory of the web client, and never up. -/
def Beneath (path : Str) : Prop := [['.'], clientName] <+: pathParts path ∧ ¬ dotDot <:+: path

instance (path : Str) : Decidable (Beneath path) := inferInstanceAs (Decidable (_ ∧ _))

theorem pathParts_base (uri first : Str) (rest : List Str) (h : pathParts uri = first :: rest) :
    pathParts (strBaseDirectory ++ uri) = ['.'] :: (clientName ++ first) :: rest := by
  have hsplit : strBaseDirectory ++ uri = ['.'] ++ '/' :: (clientName ++ uri) := rfl
  unfold pathParts at h ⊢
  rw [hsplit, List.splitOnP_append_cons_of_forall_mem (by decide) '/' (by decide),
    splitOnP_append isSeparator clientName uri first rest (by decide) h]

theorem dotDot_base (uri : Str) : dotDot <:+: strBaseDirectory ++ uri ↔ dotDot <:+: uri := by
  constructor
  · intro h
    have hcons (c : Char) (s : Str) (hc : ¬ dotDot <+: c :: s) (hs : dotDot <:+: c :: s) : dotDot <:+: s :=
      (List.infix_cons_iff.mp hs).resolve_left hc
    have hbase : strBaseDirectory ++ uri = '.' :: '/' :: 'C' :: 'l' :: 'i' :: 'e' :: 'n' :: 't' :: uri := rfl
    rw [hbase] at h
    iterate 8 replace h := hcons _ _ (by simp [dotDot]) h
    exact h
  · rintro ⟨a, b, h⟩
    exact ⟨strBaseDirectory ++ a, b, by simp [← h]⟩

theorem beneath_base_iff (uri : Str) (hdot : ¬ dotDot <:+: uri) :
    Beneath (strBaseDirectory ++ uri) ↔ ∀ c ∈ uri.head?, isSeparator c = true := by
  obtain ⟨first, rest, h⟩ := List.exists_cons_of_ne_nil (List.splitOnP_ne_nil isSeparator uri)
  have hparts := pathParts_base uri first rest h
  rw [Beneath, hparts, dotDot_base, ← splitOnP_head_eq_nil_iff isSeparator uri first rest h]
  simp [hdot]

/-- The index page is the resource of its own path. -/
theorem resource_root : resource ['/'] = resource ('/' :: strIndexFileName) := by decide

/-- The path of an answer, over a URI that is not refused. -/
theorem resource_cases (uri : Str) : ∃ safe, ¬ dotDot <:+: safe ∧
    (resource uri).1 = strBaseDirectory ++ safe ∧
    ((∀ c ∈ safe.head?, isSeparator c = true) ↔
      dotDot <:+: uri ∨ ∀ c ∈ uri.head?, isSeparator c = true) := by
  by_cases hroot : uri = ['/']
  · subst hroot
    exact ⟨'/' :: strIndexFileName, by decide, rfl, by simp [isSeparator]⟩
  · unfold resource
    rw [if_neg hroot]
    by_cases hdot : dotDot <:+: uri
    · have hcontains : contains dotDot uri = true := (contains_iff dotDot uri).2 hdot
      exact ⟨[], by decide, by simp [hcontains], by simp [hdot]⟩
    · have hcontains : contains dotDot uri = false := by
        rw [Bool.eq_false_iff, Ne, contains_iff]
        exact hdot
      exact ⟨uri, hdot, by simp [hcontains], by simp [hdot]⟩

theorem beneath_resource_iff (uri : Str) :
    Beneath (resource uri).1 ↔ dotDot <:+: uri ∨ ∀ c ∈ uri.head?, isSeparator c = true := by
  obtain ⟨safe, hdot, hpath, hhead⟩ := resource_cases uri
  rw [hpath, beneath_base_iff safe hdot, hhead]

theorem dotDot_resource (uri : Str) : ¬ dotDot <:+: (resource uri).1 := by
  obtain ⟨safe, hdot, hpath, -⟩ := resource_cases uri
  rwa [hpath, dotDot_base]

/-! ## Mime types -/

def mimeTypes : List (Str × Str) :=
  [(".png".toList, "image/png".toList), (".jpg".toList, "image/jpg".toList),
    (".gif".toList, "image/gif".toList), (".html".toList, "text/html".toList),
    (".css".toList, "text/css".toList), (".js".toList, "text/javascript".toList)]

theorem mimeOf_cases (strExt : Str) :
    mimeOf strExt = "text/plain".toList ∨
      ∃ e ∈ mimeTypes, strExt = e.1 ∧ mimeOf strExt = e.2 := by
  by_cases hmem : strExt ∈ mimeTypes.map Prod.fst
  · simp only [mimeTypes, List.map_cons, List.map_nil, List.mem_cons, List.not_mem_nil, or_false] at hmem
    rcases hmem with rfl | rfl | rfl | rfl | rfl | rfl <;> decide
  · left
    simp only [mimeTypes, List.map_cons, List.map_nil, List.mem_cons, List.not_mem_nil, or_false,
      not_or] at hmem
    obtain ⟨hpng, hjpg, hgif, hhtml, hcss, hjs⟩ := hmem
    unfold mimeOf
    rw [if_neg hpng, if_neg hjpg, if_neg hgif, if_neg hhtml, if_neg hcss, if_neg hjs]
    split <;> rfl

theorem mimeOf_eq_iff (e : Str × Str) (he : e ∈ mimeTypes) (strExt : Str) :
    mimeOf strExt = e.2 ↔ strExt = e.1 := by
  constructor
  · intro h
    rcases mimeOf_cases strExt with hplain | ⟨e', he', heq, hmime⟩
    · have hne : ∀ e ∈ mimeTypes, e.2 ≠ "text/plain".toList := by decide
      exact absurd (h.symm.trans hplain) (hne e he)
    · have hinj : ∀ e ∈ mimeTypes, ∀ e' ∈ mimeTypes, e.2 = e'.2 → e.1 = e'.1 := by decide
      rw [heq]
      exact hinj e' he' e he (hmime.symm.trans h)
  · rintro rfl
    have hown : ∀ e ∈ mimeTypes, mimeOf e.1 = e.2 := by decide
    exact hown e he

theorem resource_eq (uri : Str) : ∃ path, resource uri = (path, mimeOf (extension path)) := by
  by_cases hroot : uri = ['/']
  · rw [hroot, resource_root]
    exact ⟨_, rfl⟩
  · unfold resource
    rw [if_neg hroot]
    exact ⟨_, rfl⟩

theorem resource_mime_iff (uri : Str) (e : Str × Str) (he : e ∈ mimeTypes) :
    (resource uri).2 = e.2 ↔ e.1 <:+ (resource uri).1 := by
  obtain ⟨path, heq⟩ := resource_eq uri
  have hdot : ∀ e ∈ mimeTypes, e.1 = '.' :: e.1.tail ∧ '.' ∉ e.1.tail := by decide
  obtain ⟨hcons, htail⟩ := hdot e he
  rw [heq]
  dsimp only
  rw [mimeOf_eq_iff e he, hcons]
  exact extension_eq_iff e.1.tail path htail

/-! ## What is served -/

/-- No path that is served has `..` in it. It goes down from the directory of the web client just when
the URI is refused, is empty or begins with a separator, and its mime type is that of its ending. -/
theorem resource_served (uri : Str) :
    ¬ dotDot <:+: (resource uri).1 ∧
      (Beneath (resource uri).1 ↔ dotDot <:+: uri ∨ ∀ c ∈ uri.head?, isSeparator c = true) ∧
      ∀ e ∈ mimeTypes, ((resource uri).2 = e.2 ↔ e.1 <:+ (resource uri).1) :=
  ⟨dotDot_resource uri, beneath_resource_iff uri, resource_mime_iff uri⟩

theorem beneath_request (n : ℕ) (rest uri : Str)
    (h : requestUri (List.replicate n ' ' ++ '/' :: rest) = some uri) : Beneath (resource uri).1 := by
  rw [beneath_resource_iff]
  right
  intro c hc
  rw [requestUri_rooted h, Option.mem_some] at hc
  rw [← hc]
  decide

/-- Whatever follows the first slash of a request, the answer does not depend on a path that does not
go down from the directory of the web client. -/
theorem callbackHttp_beneath (n : ℕ) (rest uri : Str)
    (h : requestUri (List.replicate n ' ' ++ '/' :: rest) = some uri)
    (serveHttpFile other : Str → Str → ℤ)
    (hsame : ∀ path mime, Beneath path → serveHttpFile path mime = other path mime) :
    callbackHttp serveHttpFile uri = callbackHttp other uri := by
  have hbeneath := beneath_request n rest uri h
  unfold callbackHttp
  dsimp only
  rw [hsame _ _ hbeneath]

/-- The backslashes of this target pass the parser, and the callback refuses them. -/
theorem callbackHttp_beneath_backslash :
    callbackHttp (fun path _ => if Beneath path then 0 else 1) "/\\..\\..\\x".toList =
      callbackHttp (fun _ _ => 0) "/\\..\\..\\x".toList :=
  callbackHttp_beneath 0 "\\..\\..\\x ".toList _ (by decide) _ _ fun path _ hbeneath => if_pos hbeneath

end IrPitCrew.WebServer
