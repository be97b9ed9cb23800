import IrPitCrew.Irsdk.Clients

/-!
# The session string

The server writes the session string when it changes, and counts the changes. A
client that keeps what it read until the count changes has the current text.
-/

open IrPitCrew.Text IrPitCrew.Memory IrPitCrew.Run

namespace IrPitCrew.MemServer

variable {F α V : Type*} [DecidableEq V] [Zero V]

/-- What `irsdk_getSessionInfoStr` points to once the header is final. Before that its offset is 0, and
the code reads the header. -/
def sessionInfoStr (s : MemServer F α V) : List V :=
  stringAt s.sharedMem sessionInfoOffset sessionInfoLen

/-- The texts that are registered, oldest first. -/
def texts (calls : List (Call F α V)) : List (List V) :=
  calls.filterMap fun
    | .regSessionInfo str => some str
    | _ => none

/-! ## Texts in memory -/

theorem takeWhile_text {str : List V} (h : (0 : V) ∉ str) (n : Nat) :
    (str ++ List.replicate n 0).takeWhile (· ≠ 0) = str := by
  have hall : ∀ v ∈ str, decide (v ≠ 0) = true := by
    intro v hv
    rw [decide_eq_true_iff]
    rintro rfl
    exact h hv
  rw [List.takeWhile_append_of_pos hall, List.takeWhile_replicate, if_neg (by simp), List.append_nil]

/-- What `strncpy` wrote is read back. -/
theorem stringAt_stores (m : ℤ → V) (base : ℤ) {size : Nat} {str : List V} (h : (0 : V) ∉ str)
    (hlen : str.length ≤ size) :
    stringAt (Memory.apply m (stores base (str ++ List.replicate (size - str.length) 0))) base size = str := by
  have hsize : (str ++ List.replicate (size - str.length) (0 : V)).length = size := by
    rw [List.length_append, List.length_replicate]
    omega
  have hload := load_stores m base (str ++ List.replicate (size - str.length) 0)
  rw [hsize] at hload
  rw [stringAt, hload, takeWhile_text h]

theorem stringAt_zero (base : ℤ) (size : Nat) : stringAt (fun _ => (0 : V)) base size = [] := by
  have hzeros : load (fun _ => (0 : V)) base size = List.replicate size 0 := by
    rw [load, List.map_const', List.length_range]
  rw [stringAt, hzeros, List.takeWhile_replicate, if_neg (by simp)]

theorem stringAt_congr {m m' : ℤ → V} {base : ℤ} {size : Nat}
    (h : ∀ address, base ≤ address → address < base + size → m address = m' address) :
    stringAt m base size = stringAt m' base size := by
  rw [stringAt, stringAt, load_congr h]

/-! ## Calls -/

/-- What a client sees of the session, and the count of the server. -/
def session (s : MemServer F α V) : List V × Nat × Nat :=
  (s.sessionInfoStr, s.sessionInfoUpdate, s.pHeader.sessionInfoUpdate)

/-- Stores into a row are above the session string. -/
theorem sessionInfoStr_apply (m : ℤ → V) {ss : List (ℤ × V)} (h : Within 0 bufLength ss) (b : Nat) :
    stringAt (Memory.apply m (shift (bufOffset b) ss)) sessionInfoOffset sessionInfoLen =
      stringAt m sessionInfoOffset sessionInfoLen := by
  refine stringAt_congr fun address _ hhigh => apply_of_within (h.shift (bufOffset b)) (.inl ?_) m
  have hlen : sessionInfoLen = 131072 := rfl
  have hoffset : sessionInfoOffset = 112 := rfl
  rw [bufOffset_eq]
  omega

theorem regSessionInfo_cases {s : MemServer F α V} {str : List V} (hstr : (0 : V) ∉ str)
    (hinit : s.isInitialized = true) :
    str.take sessionInfoLen = s.sessionInfoStr ∧ s.regSessionInfo str = s ∨
    str.take sessionInfoLen ≠ s.sessionInfoStr ∧ (s.regSessionInfo str).session =
      (str.take (sessionInfoLen - 1), s.sessionInfoUpdate + 1, s.sessionInfoUpdate + 1) := by
  unfold regSessionInfo
  rw [if_pos hinit]
  split
  · rename_i hnew
    refine .inr ⟨hnew, ?_⟩
    have htext : (0 : V) ∉ str.take (sessionInfoLen - 1) := fun h => hstr (List.mem_of_mem_take h)
    have hlen : (str.take (sessionInfoLen - 1)).length ≤ sessionInfoLen := by
      rw [List.length_take]
      omega
    simp only [session, sessionInfoStr]
    rw [stringAt_stores s.sharedMem sessionInfoOffset htext hlen]
  · rename_i hsame
    exact .inl ⟨not_not.mp hsame, rfl⟩

section

variable [DecidableEq F] [One F] [Zero F] (scale : VarType → F → F → (Nat → V) → Nat → V)

/-- No other call changes the session. -/
theorem session_step {s : MemServer F α V} (hs : s.registry.Laid)
    (hshared : s.pHeader.sessionInfoUpdate = s.sessionInfoUpdate) {call : Call F α V}
    (hcall : ∀ str, call ≠ .regSessionInfo str) : (step scale s call).session = s.session := by
  have hset (index : ℤ) (var : Option (Nat → V)) : (s.setVarAt scale index var).2.session = s.session := by
    rw [setVarAt_shape]
    simp only [session, sessionInfoStr]
    rw [sessionInfoStr_apply _ (within_setStores scale hs index var)]
  cases call with
  | regSessionInfo str => exact absurd rfl (hcall str)
  | regVar name var type count desc unit multiplier offset =>
    obtain ⟨vars, bufLen, hshape⟩ := s.regVar_shape name var type count desc unit multiplier offset
    rw [step, hshape]
    rfl
  | reRegVar name var =>
    obtain ⟨vars, hshape⟩ := s.reRegVarAt_shape (s.varNameToIndex name) var
    rw [step, reRegVar_eq, hshape]
    rfl
  | reRegVarAt index var =>
    obtain ⟨vars, hshape⟩ := s.reRegVarAt_shape index var
    rw [step, hshape]
    rfl
  | setVar name var => exact hset _ var
  | setVarAt index var => exact hset index var
  | finalizeHeader =>
    rw [step, finalizeHeader]
    split
    · simp only [session, sessionInfoStr, hshared]
    · rfl
  | resetSampleVars =>
    rw [step, resetSampleVars]
    split
    · have hwithin := within_stores 0 (List.replicate bufLength (0 : V))
      rw [List.length_replicate, zero_add] at hwithin
      have hshift := stores_add (bufOffset s.curBuf) 0 (List.replicate bufLength (0 : V))
      rw [add_zero] at hshift
      simp only [session, sessionInfoStr]
      rw [hshift, sessionInfoStr_apply _ hwithin]
    · rfl
  | pollSampleVars program =>
    rw [step, pollSampleVars]
    split
    · have hwithin := (within_pollStores scale hs program).mono le_rfl hs.bufLen.2.le
      have hshift := pollStores_add scale s.vars program (bufOffset s.curBuf) 0
      rw [add_zero] at hshift
      simp only [session, sessionInfoStr]
      rw [hshift, sessionInfoStr_apply _ hwithin]
    · rfl

/-- What holds of a server that has started. -/
structure Started (s : MemServer F α V) : Prop where
  laid : s.registry.Laid
  isInitialized : s.isInitialized = true
  shared : s.pHeader.sessionInfoUpdate = s.sessionInfoUpdate

/-- A call with its texts free of zeros. -/
def Call.IsText : Call F α V → Prop
  | .regSessionInfo str => (0 : V) ∉ str
  | _ => True

theorem Started.step {s : MemServer F α V} (hs : s.Started) (call : Call F α V) (hvalid : call.IsValid)
    (htext : call.IsText) : (MemServer.step scale s call).Started := by
  refine ⟨laid_step scale s call hvalid hs.laid,
    (later_step scale s call).isInitialized.trans hs.isInitialized, ?_⟩
  by_cases hcall : ∃ str, call = .regSessionInfo str
  · obtain ⟨str, rfl⟩ := hcall
    obtain ⟨-, hsame⟩ | ⟨-, hnew⟩ := regSessionInfo_cases htext hs.isInitialized
    · rw [MemServer.step, hsame]
      exact hs.shared
    · simp only [session, Prod.mk.injEq] at hnew
      exact hnew.2.2.trans hnew.2.1.symm
  · have hsame := session_step scale hs.laid hs.shared fun str h => hcall ⟨str, h⟩
    simp only [session, Prod.mk.injEq] at hsame
    exact hsame.2.2.trans (hs.shared.trans hsame.2.1.symm)

/-! ## Runs -/

omit [DecidableEq V] [Zero V] [DecidableEq F] [One F] [Zero F] in
theorem texts_cons_of_ne {call : Call F α V} (h : ∀ str, call ≠ .regSessionInfo str)
    (calls : List (Call F α V)) : texts (call :: calls) = texts calls := by
  cases call with
  | regSessionInfo str => exact absurd rfl (h str)
  | _ => rfl

/-- The count goes up with each text that is not the current one, and with no other. -/
theorem sessionInfoUpdate_run {s : MemServer F α V} (hs : s.Started) {calls : List (Call F α V)}
    (hvalid : ∀ call ∈ calls, call.IsValid) (htext : ∀ call ∈ calls, call.IsText) :
    (run (MemServer.step scale) s calls).Started ∧
    s.sessionInfoUpdate ≤ (run (MemServer.step scale) s calls).sessionInfoUpdate ∧
    ((run (MemServer.step scale) s calls).sessionInfoUpdate = s.sessionInfoUpdate ↔
      ∀ str ∈ texts calls, str.take sessionInfoLen = s.sessionInfoStr) ∧
    ((run (MemServer.step scale) s calls).sessionInfoUpdate = s.sessionInfoUpdate →
      (run (MemServer.step scale) s calls).sessionInfoStr = s.sessionInfoStr) := by
  induction calls generalizing s with
  | nil => exact ⟨hs, le_rfl, iff_of_true rfl fun _ h => absurd h List.not_mem_nil, fun _ => rfl⟩
  | cons call calls ih =>
    obtain ⟨hcall, hvalid⟩ := List.forall_mem_cons.mp hvalid
    obtain ⟨hcalltext, htext⟩ := List.forall_mem_cons.mp htext
    obtain ⟨hstarted, hle, hiff, hsame⟩ := ih (hs.step scale call hcall hcalltext) hvalid htext
    rw [run_cons]
    refine ⟨hstarted, ?_⟩
    by_cases hreg : ∃ str, call = .regSessionInfo str
    · obtain ⟨str, rfl⟩ := hreg
      have htexts : texts (.regSessionInfo str :: calls) = str :: texts calls := rfl
      rw [htexts, List.forall_mem_cons]
      obtain ⟨hold, hstep⟩ | ⟨hdiffers, hnew⟩ := regSessionInfo_cases hcalltext hs.isInitialized
      · rw [MemServer.step, hstep] at hle hiff hsame ⊢
        exact ⟨hle, hiff.trans (and_iff_right hold).symm, hsame⟩
      · simp only [session, Prod.mk.injEq] at hnew
        rw [MemServer.step] at hle ⊢
        rw [hnew.2.1] at hle
        exact ⟨by omega, iff_of_false (by omega) fun h => hdiffers h.1, fun h => by omega⟩
    · have hkeep := session_step scale hs.laid hs.shared fun str h => hreg ⟨str, h⟩
      simp only [session, Prod.mk.injEq] at hkeep
      rw [hkeep.1, hkeep.2.1] at hiff
      rw [hkeep.2.1] at hle hsame
      rw [hkeep.1] at hsame
      rw [texts_cons_of_ne fun str h => hreg ⟨str, h⟩]
      exact ⟨hle, hiff, hsame⟩

/-- The session string is the text that was registered last, as far as there is room for it. -/
theorem sessionInfoStr_run {s : MemServer F α V} (hs : s.Started) {calls : List (Call F α V)}
    (hvalid : ∀ call ∈ calls, call.IsValid) (htext : ∀ call ∈ calls, call.IsText) {text : List V}
    (hroom : s.sessionInfoStr = text.take (sessionInfoLen - 1)) :
    (run (MemServer.step scale) s calls).sessionInfoStr =
      ((texts calls).getLast?.getD text).take (sessionInfoLen - 1) := by
  induction calls generalizing s text with
  | nil => exact hroom
  | cons call calls ih =>
    obtain ⟨hcall, hcalls⟩ := List.forall_mem_cons.mp hvalid
    obtain ⟨hcalltext, htexts⟩ := List.forall_mem_cons.mp htext
    have hstarted := hs.step scale call hcall hcalltext
    rw [run_cons]
    by_cases hreg : ∃ str, call = .regSessionInfo str
    · obtain ⟨str, rfl⟩ := hreg
      have hnext : (MemServer.step scale s (.regSessionInfo str)).sessionInfoStr =
          str.take (sessionInfoLen - 1) := by
        obtain ⟨hold, hstep⟩ | ⟨-, hnew⟩ := regSessionInfo_cases hcalltext hs.isInitialized
        · rw [MemServer.step, hstep]
          -- The text fits, as what is in the memory does.
          have hlen := congrArg List.length (hold.trans hroom)
          have hroomy : sessionInfoLen = 131072 := rfl
          rw [List.length_take, List.length_take] at hlen
          rw [← hold, List.take_of_length_le (by omega), List.take_of_length_le (by omega)]
        · simp only [session, Prod.mk.injEq] at hnew
          exact hnew.1
      rw [ih hstarted hcalls htexts hnext]
      have hcons : texts (.regSessionInfo str :: calls) = str :: texts calls := rfl
      rw [hcons, List.getLast?_cons, Option.getD_some]
    · have hkeep := session_step scale hs.laid hs.shared fun str h => hreg ⟨str, h⟩
      simp only [session, Prod.mk.injEq] at hkeep
      rw [texts_cons_of_ne fun str h => hreg ⟨str, h⟩]
      exact ih hstarted hcalls htexts (hkeep.1.trans hroom)

/-- **The session string.** A client reads the text that was registered last, cut to the room there is.
The count that it sees stands still exactly as long as no other text is registered, and then what it read
before is the current text. -/
theorem sessionInfo_current (before after : List (Call F α V))
    (hvalid : ∀ call ∈ before ++ after, call.IsValid) (htext : ∀ call ∈ before ++ after, call.IsText) :
    let s : MemServer F α V := run (MemServer.step scale) (init true) before
    let t : MemServer F α V := run (MemServer.step scale) (init true) (before ++ after)
    t.sessionInfoStr = ((texts (before ++ after)).getLast?.getD []).take (sessionInfoLen - 1) ∧
    (t.pHeader.sessionInfoUpdate = s.pHeader.sessionInfoUpdate ↔
      ∀ str ∈ texts after, str.take sessionInfoLen = s.sessionInfoStr) ∧
    (t.pHeader.sessionInfoUpdate = s.pHeader.sessionInfoUpdate → t.sessionInfoStr = s.sessionInfoStr) := by
  intro s t
  have hstart : (init true : MemServer F α V).Started := ⟨laid_init true, rfl, rfl⟩
  have hempty : (init true : MemServer F α V).sessionInfoStr = ([] : List V).take (sessionInfoLen - 1) :=
    (stringAt_zero _ _).trans List.take_nil.symm
  obtain ⟨hs, -⟩ := sessionInfoUpdate_run scale hstart (fun call h => hvalid call (List.mem_append_left _ h))
    (fun call h => htext call (List.mem_append_left _ h))
  obtain ⟨ht, -, hiff, hsame⟩ := sessionInfoUpdate_run scale hs
    (fun call h => hvalid call (List.mem_append_right _ h)) (fun call h => htext call (List.mem_append_right _ h))
  rw [← run_append] at ht hiff hsame
  rw [hs.shared, ht.shared]
  exact ⟨sessionInfoStr_run scale hstart hvalid htext hempty, hiff, hsame⟩

end

/-- A text that is registered twice, and then another one. -/
def firstText : List (Call ℤ Unit Nat) := [.regSessionInfo [45, 45, 45], .finalizeHeader]

def moreTexts : List (Call ℤ Unit Nat) :=
  [.regSessionInfo [45, 45, 45], .pollSampleVars fun _ _ => 0, .regSessionInfo [87]]

theorem sessionInfo_current_more :
    let s : MemServer ℤ Unit Nat := run (step fun _ _ _ pSource => pSource) (init true) firstText
    let t : MemServer ℤ Unit Nat := run (step fun _ _ _ pSource => pSource) (init true) (firstText ++ moreTexts)
    t.sessionInfoStr = ((texts (firstText ++ moreTexts)).getLast?.getD []).take (sessionInfoLen - 1) ∧
    (t.pHeader.sessionInfoUpdate = s.pHeader.sessionInfoUpdate ↔
      ∀ str ∈ texts moreTexts, str.take sessionInfoLen = s.sessionInfoStr) ∧
    (t.pHeader.sessionInfoUpdate = s.pHeader.sessionInfoUpdate → t.sessionInfoStr = s.sessionInfoStr) :=
  sessionInfo_current (fun _ _ _ pSource => pSource) firstText moreTexts
    (by simp [firstText, moreTexts, Call.IsValid]) (by simp [firstText, moreTexts, Call.IsText])

end IrPitCrew.MemServer
