import IrPitCrew.Client.ParseData
import IrPitCrew.Lib.Run

/-!
# The delta protocol

One server and the connection that was established last. The server leaves out
a value when its map of the last message holds the same one, so the client must
still have it from an earlier message of this connection.
-/

open IrPitCrew.Text IrPitCrew.Run IrPitCrew.WebServer IrPitCrew.ParseData

namespace IrPitCrew.Delta

/-! ## The system -/

/-- The server, and the data messages that the latest connection was sent, in order. -/
structure System where
  server : WebServerLWS := {}
  received : Option (List Str) := none

inductive Event where
  | setSessionInfo (sessionInfo : Str)
  | setData (dataStrMap : StrMap)
  | setFuelMessage (fuelMessage : Str)
  | resetConnection
  | updateClient
  | runThread
  | callback (reason : CallbackReason)

/-- A message sent is delivered. The reply to a heartbeat is not a data message. -/
def step (sys : System) : Event → System
  | .setSessionInfo s =>
    { sys with server.sharedData := sys.server.sharedData.setSessionInfo s }
  | .setData m => { sys with server.sharedData := sys.server.sharedData.setData m }
  | .setFuelMessage s =>
    { sys with server.sharedData := sys.server.sharedData.setFuelMessage s }
  | .resetConnection => { sys with server := sys.server.resetConnection }
  | .updateClient => { sys with server := sys.server.updateClient }
  | .runThread => { sys with server := sys.server.runThread.1 }
  | .callback .established =>
    { server := (callbackIracingData sys.server .established).1, received := some [] }
  | .callback (.receive input) =>
    { sys with server := (callbackIracingData sys.server (.receive input)).1 }
  | .callback .serverWriteable =>
    match sys.received with
    | none => sys -- No connection, so no callback.
    | some ms =>
      let (server, output) := callbackIracingData sys.server .serverWriteable
      { server, received := some (ms ++ output.toList) }

/-- The value of the tag that the client read last. Not set leaves the one before. -/
def lastValue (tag : Str) (ms : List Str) : Option Str :=
  ms.foldl (fun last message =>
    if messageValue message tag = dataNotSetString then last else some (messageValue message tag)) none

theorem lastValue_concat (tag m : Str) (ms : List Str) :
    lastValue tag (ms ++ [m]) =
      if messageValue m tag = dataNotSetString then lastValue tag ms else some (messageValue m tag) := by
  simp [lastValue]

/-! ## What the format can carry -/

def ValueOk (value : Str) : Prop := '\n' ∉ value ∧ stripUnicode value ≠ dataNotSetString

instance (value : Str) : Decidable (ValueOk value) :=
  inferInstanceAs (Decidable ('\n' ∉ value ∧ stripUnicode value ≠ dataNotSetString))

def MapOk (m : StrMap) : Prop := ∀ p ∈ m.entries, NameOk p.1 ∧ ValueOk p.2

instance (m : StrMap) : Decidable (MapOk m) :=
  inferInstanceAs (Decidable (∀ p ∈ m.entries, NameOk p.1 ∧ ValueOk p.2))

theorem MapOk.stripped {m : StrMap} (h : MapOk m) {es : List (Str × Str)} (hes : es ⊆ m.entries) :
    ∀ p ∈ es.map stripEntry, NameOk p.1 ∧ '\n' ∉ p.2 := by
  intro p hp
  obtain ⟨q, hq, rfl⟩ := List.mem_map.mp hp
  obtain ⟨hname, hnl, -⟩ := h q (hes hq)
  exact ⟨hname, notMem_stripUnicode _ _ hnl⟩

/-- The session info, as sent, does not hold the data tag. -/
def SessionOk (sessionInfo : Str) : Prop := ¬ dataTag <:+: stripUnicode sessionInfo

instance (sessionInfo : Str) : Decidable (SessionOk sessionInfo) :=
  inferInstanceAs (Decidable (¬ dataTag <:+: stripUnicode sessionInfo))

def EventOk : Event → Prop
  | .setSessionInfo s => SessionOk s
  | .setData m => MapOk m
  | _ => True

instance : DecidablePred EventOk := fun e => by
  cases e <;> simp only [EventOk] <;> infer_instance

/-! ## One message -/

/-- The map that the next message is compared with. -/
def compareMap (w : WebServerLWS) : StrMap :=
  if w.sConnectionReset then .empty else w.sLastSentDataStrMap

theorem stripUnicode_dataTag : stripUnicode dataTag = dataTag := by decide

theorem stripUnicode_dataPortion (es : List (Str × Str)) (h : ∀ p ∈ es, isAscii p.1) :
    stripUnicode (dataTag ++ ['\n'] ++ ['\n'] ++ es.flatMap dataLine) =
      dataPortion (es.map stripEntry) := by
  rw [stripUnicode_append, stripUnicode_append, stripUnicode_append, stripUnicode_dataTag,
    stripUnicode_newline, stripUnicode_dataLines es h, dataPortion]
  simp

/-- What the client reads in the next message: the tag's entry if it is sent. -/
theorem messageValue_serverWriteable (w : WebServerLWS) (tag : Str)
    (hs : SessionOk w.sharedData.getSessionInfo) (hm : MapOk w.sharedData.getData) (ht : NameOk tag) :
    messageValue w.serverWriteable.1 tag =
      (((sentEntries (compareMap w) w.sharedData.getData).map stripEntry).lookup tag).getD
        dataNotSetString := by
  have hsub : sentEntries (compareMap w) w.sharedData.getData ⊆ w.sharedData.getData.entries :=
    fun _ hp => (List.mem_filter.mp hp).1
  have hascii : ∀ p ∈ sentEntries (compareMap w) w.sharedData.getData, isAscii p.1 :=
    fun p hp => (hm p (hsub hp)).1.2.1
  rw [← parseDataPortion_dataPortion tag _ ht (hm.stripped hsub)]
  have hportion := stripUnicode_dataPortion _ hascii
  unfold compareMap at hportion ⊢
  cases hreset : w.sConnectionReset with
  | false =>
    simp only [hreset, Bool.false_eq_true, if_false] at hportion ⊢
    simp only [WebServerLWS.serverWriteable, hreset, Bool.false_eq_true, if_false, List.nil_append]
    rw [hportion, messageValue_dataPortion]
  | true =>
    simp only [hreset, if_true] at hportion ⊢
    simp only [WebServerLWS.serverWriteable, hreset, if_true, List.append_assoc] at hportion ⊢
    rw [stripUnicode_append, stripUnicode_append, hportion, stripUnicode_newline,
      List.singleton_append, messageValue_session _ _ _ hs]

theorem lookup_sentEntries (last m : StrMap) (tag value : Str) (h : (tag, value) ∈ m.entries) :
    ((sentEntries last m).map stripEntry).lookup tag =
      if isSendValue last tag value then some (stripUnicode value) else none := by
  have hsub : List.Sublist ((sentEntries last m).map Prod.fst) (m.entries.map Prod.fst) :=
    List.filter_sublist.map _
  have hnodup : (((sentEntries last m).map stripEntry).map Prod.fst).Nodup := by
    rw [List.map_map]
    exact m.nodup.sublist hsub
  by_cases hsend : isSendValue last tag value = true
  · rw [if_pos hsend, lookup_eq_some_iff _ hnodup]
    exact List.mem_map.mpr ⟨(tag, value), List.mem_filter.mpr ⟨h, hsend⟩, rfl⟩
  · rw [if_neg hsend, Option.eq_none_iff_forall_ne_some]
    intro v hv
    obtain ⟨⟨name, data⟩, hq, he⟩ := List.mem_map.mp ((lookup_eq_some_iff _ hnodup _ _).mp hv)
    obtain ⟨rfl, -⟩ := Prod.mk.inj he
    obtain ⟨hmem, hq⟩ := List.mem_filter.mp hq
    -- The name has one value in the map, so this entry is the one left out.
    have hsame : data = value := by
      have h1 := (m.find_eq_some_iff _ _).mpr hmem
      have h2 := (m.find_eq_some_iff _ _).mpr h
      exact Option.some.inj (h1.symm.trans h2)
    exact hsend (hsame ▸ hq)

theorem find_of_not_isSendValue (last : StrMap) (tag value : Str)
    (h : ¬ isSendValue last tag value = true) : last.find tag = some value := by
  unfold isSendValue at h
  split at h
  · simp at h
  · split at h
    · rename_i data hfind
      have : data = value := by simpa using h
      rw [hfind, this]
    · simp at h

theorem isSendValue_of_find (last : StrMap) (tag value : Str) (h : last.find tag = some value) :
    isSendValue last tag value = false := by
  have hne : last.entries ≠ [] := by
    intro hempty
    simp [StrMap.find, hempty] at h
  simp [isSendValue, hne, h]

/-! ## The invariant -/

structure Carried (w : WebServerLWS) : Prop where
  session : SessionOk w.sharedData.sessionInfoStr
  data : MapOk w.sharedData.dataStrMap
  lastSent : MapOk w.sLastSentDataStrMap

/-- Until the next reset, the client's last values are those of the last sent map. -/
def Synced (sys : System) : Prop :=
  sys.server.sConnectionReset = false → ∀ ms, sys.received = some ms →
    ∀ p ∈ sys.server.sLastSentDataStrMap.entries, lastValue p.1 ms = some (stripUnicode p.2)

structure Inv (sys : System) : Prop where
  carried : Carried sys.server
  synced : Synced sys

theorem inv_init : Inv {} :=
  ⟨⟨by decide, by decide, by decide⟩, fun h => absurd h (by decide)⟩

/-- After a message the client has every value of the map that it was built from. -/
theorem lastValue_serverWriteable (sys : System) (ms : List Str) (h : Inv sys)
    (hms : sys.received = some ms) (p : Str × Str) (hp : p ∈ sys.server.sharedData.getData.entries) :
    lastValue p.1 (ms ++ [sys.server.serverWriteable.1]) = some (stripUnicode p.2) := by
  obtain ⟨tag, value⟩ := p
  obtain ⟨hname, -, hset⟩ := h.carried.data _ hp
  rw [lastValue_concat, messageValue_serverWriteable _ _ h.carried.session h.carried.data hname,
    lookup_sentEntries _ _ _ _ hp]
  by_cases hsend : isSendValue (compareMap sys.server) tag value = true
  · rw [if_pos hsend, Option.getD_some, if_neg hset]
  · rw [if_neg hsend, Option.getD_none, if_pos rfl]
    -- Left out, so there was no reset and the last map holds the value.
    have hfind := find_of_not_isSendValue _ _ _ hsend
    unfold compareMap at hfind
    split at hfind
    · simp at hfind
    · rename_i hreset
      exact h.synced (by simpa using hreset) ms hms _ ((StrMap.find_eq_some_iff _ _ _).mp hfind)

theorem inv_runThread (sys : System) (h : Inv sys) : Inv (step sys .runThread) := by
  obtain ⟨⟨hs, hd, hl⟩, hsync⟩ := h
  simp only [step, WebServerLWS.runThread]
  split
  · refine ⟨⟨hs, hd, hl⟩, fun hreset => ?_⟩
    simp only at hreset
    split at hreset
    · simp at hreset
    · exact hsync hreset
  · exact ⟨⟨hs, hd, hl⟩, hsync⟩

theorem inv_callback (sys : System) (reason : CallbackReason) (h : Inv sys) :
    Inv (step sys (.callback reason)) := by
  obtain ⟨hs, hd, hl⟩ := h.carried
  cases reason with
  | established => exact ⟨⟨hs, hd, hl⟩, fun hreset => absurd hreset (by simp [step, callbackIracingData])⟩
  | receive input =>
    simp only [step, callbackIracingData]
    split
    · exact h
    · split
      · exact h
      · exact ⟨⟨hs, hd, hl⟩, h.synced⟩
  | serverWriteable =>
    simp only [step]
    cases hms : sys.received with
    | none => exact h
    | some ms =>
      refine ⟨⟨hs, hd, hd⟩, fun _ ms' hms' p hp => ?_⟩
      obtain rfl := Option.some.inj hms'
      exact lastValue_serverWriteable sys ms h hms p hp

theorem inv_step (sys : System) (e : Event) (he : EventOk e) (h : Inv sys) : Inv (step sys e) := by
  obtain ⟨hs, hd, hl⟩ := h.carried
  cases e with
  | setSessionInfo s => exact ⟨⟨he, hd, hl⟩, h.synced⟩
  | setData m => exact ⟨⟨hs, he, hl⟩, h.synced⟩
  | setFuelMessage s => exact ⟨⟨hs, hd, hl⟩, h.synced⟩
  | resetConnection => exact ⟨⟨hs, hd, hl⟩, h.synced⟩
  | updateClient => exact ⟨⟨hs, hd, hl⟩, h.synced⟩
  | runThread => exact inv_runThread sys h
  | callback reason => exact inv_callback sys reason h

/-! ## Convergence -/

/-- **Convergence.** After each data message the client's last value of every tag of the
map that the message was built from is the map's value, stripped. -/
theorem delta_converges (es : List Event) (hes : ∀ e ∈ es, EventOk e) (ms : List Str)
    (hms : (run step {} es).received = some ms) (tag value : Str)
    (hp : (tag, value) ∈ (run step {} es).server.sharedData.getData.entries) :
    ∃ message, (step (run step {} es) (.callback .serverWriteable)).received = some (ms ++ [message]) ∧
      lastValue tag (ms ++ [message]) = some (stripUnicode value) := by
  have hinv : Inv (run step {} es) := run_invariant_of_forall inv_step hes inv_init
  refine ⟨(run step {} es).server.serverWriteable.1, ?_, lastValue_serverWriteable _ ms hinv hms _ hp⟩
  simp only [step, hms]
  rfl

def sampleEvents : List Event :=
  [.callback .established,
   .setSessionInfo "Track: Spa".toList,
   .setData ⟨[("FuelLevel".toList, "7".toList), ("OilTemp".toList, "90".toList)], by decide⟩,
   .callback .serverWriteable,
   .setData ⟨[("FuelLevel".toList, "7".toList), ("OilTemp".toList, "91".toList)], by decide⟩]

def sampleMessage : Str := "Track: Spa\n***D.A.T.A***\n\nFuelLevel;7\nOilTemp;90\n".toList

theorem delta_converges_sample : ∃ message,
    (step (run step {} sampleEvents) (.callback .serverWriteable)).received =
      some ([sampleMessage] ++ [message]) ∧
    lastValue "FuelLevel".toList ([sampleMessage] ++ [message]) = some (stripUnicode "7".toList) :=
  delta_converges sampleEvents (by decide) [sampleMessage] (by decide) _ _ (by decide)

/-- A session info with no data tag in it, until the sender strips the `é`. -/
def splitTagSession : Str := "***D.A".toList ++ 'é' :: ".T.A***\nFuelLevel;7".toList

def splitTagEvents : List Event :=
  [.setSessionInfo splitTagSession,
   .setData ⟨[("FuelLevel".toList, "9".toList)], by decide⟩,
   .callback .established]

def splitTagMessage : Str :=
  "***D.A.T.A***\nFuelLevel;7\n***D.A.T.A***\n\nFuelLevel;9\n".toList

/-- The unstripped session info does not hold the tag, and still the client reads 7 for 9. -/
theorem split_tag_session_misread :
    ¬ dataTag <:+: splitTagSession ∧
    (∀ p ∈ (run step {} splitTagEvents).server.sharedData.getData.entries, NameOk p.1 ∧ ValueOk p.2) ∧
    ("FuelLevel".toList, "9".toList) ∈ (run step {} splitTagEvents).server.sharedData.getData.entries ∧
    (step (run step {} splitTagEvents) (.callback .serverWriteable)).received = some [splitTagMessage] ∧
    lastValue "FuelLevel".toList [splitTagMessage] = some "7".toList ∧
    "7".toList ≠ stripUnicode "9".toList :=
  ⟨by decide, by decide, by decide, by decide, by decide, by decide⟩

end IrPitCrew.Delta
