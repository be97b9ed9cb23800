import IrPitCrew.Lib.Text

/-!
# The web server: shared data and the socket callback

`SharedData` sits between the main loop and the web server thread. Each of its
methods holds the mutex, so one call is one step. The callback keeps one map of
the values it sent last and one reset flag, and sends only what differs.
-/

open IrPitCrew.Text

namespace IrPitCrew.WebServer

/-! ## String maps -/

/-- A `std::map<std::string, std::string>`: entries in the order of their keys. -/
structure StrMap where
  entries : List (Str × Str)
  sorted : (entries.map Prod.fst).Pairwise (· < ·)

def StrMap.empty : StrMap := ⟨[], .nil⟩

instance : Inhabited StrMap := ⟨.empty⟩

def StrMap.find (m : StrMap) (name : Str) : Option Str := m.entries.lookup name

@[simp] theorem StrMap.find_empty (name : Str) : StrMap.empty.find name = none := rfl

theorem lookup_eq_some_iff (es : List (Str × Str)) (h : (es.map Prod.fst).Nodup) (k v : Str) :
    es.lookup k = some v ↔ (k, v) ∈ es := by
  induction es with
  | nil => simp
  | cons p es ih =>
    obtain ⟨name, data⟩ := p
    obtain ⟨hp, hes⟩ := List.nodup_cons.mp h
    by_cases hk : k = name
    · subst hk
      have hno : (k, v) ∉ es := fun hm => hp (List.mem_map.mpr ⟨_, hm, rfl⟩)
      simp [hno, eq_comm]
    · have hbeq : (k == name) = false := by simpa using hk
      rw [List.lookup_cons, hbeq]
      simp [ih hes, hk]

theorem StrMap.nodup (m : StrMap) : (m.entries.map Prod.fst).Nodup :=
  m.sorted.imp fun {a b} (h : a < b) (he : a = b) => List.lt_irrefl b (he ▸ h)

theorem StrMap.find_eq_some_iff (m : StrMap) (k v : Str) :
    m.find k = some v ↔ (k, v) ∈ m.entries :=
  lookup_eq_some_iff _ m.nodup k v

/-! ## SharedData -/

structure SharedData where
  sessionInfoStr : Str := []
  dataStrMap : StrMap := .empty
  fuelMessage : Str := []

namespace SharedData

def setSessionInfo (d : SharedData) (sessionInfo : Str) : SharedData :=
  { d with sessionInfoStr := sessionInfo }

def getSessionInfo (d : SharedData) : Str := d.sessionInfoStr

def setData (d : SharedData) (dataStrMap : StrMap) : SharedData := { d with dataStrMap }

def getData (d : SharedData) : StrMap := d.dataStrMap

def setFuelMessage (d : SharedData) (fuelMessage : Str) : SharedData := { d with fuelMessage }

def getFuelMessage (d : SharedData) : Str × SharedData := (d.fuelMessage, { d with fuelMessage := [] })

end SharedData

/-! ## The message -/

def invalidChar (c : Char) : Bool := !(c.toNat < 128)

def stripUnicode (str : Str) : Str := str.filter (!invalidChar ·)

def dataTag : Str := "***D.A.T.A***".toList

/-- A value is left out when the last message's map holds the same one. -/
def isSendValue (lastSent : StrMap) (varName varData : Str) : Bool :=
  if lastSent.entries = [] then true
  else match lastSent.find varName with
    | some data => data != varData
    | none => true

def dataLine (p : Str × Str) : Str := p.1 ++ ';' :: p.2 ++ ['\n']

def sentEntries (lastSent dataStrMap : StrMap) : List (Str × Str) :=
  dataStrMap.entries.filter fun p => isSendValue lastSent p.1 p.2

/-! ## WebServerLWS -/

structure WebServerLWS where
  sharedData : SharedData := {}
  mResetConnection : Bool := false
  mUpdateClient : Bool := false
  sConnectionReset : Bool := true
  sLastSentDataStrMap : StrMap := .empty

namespace WebServerLWS

def updateClient (w : WebServerLWS) : WebServerLWS := { w with mUpdateClient := true }

def resetConnection (w : WebServerLWS) : WebServerLWS := { w with mResetConnection := true }

/-- The test of the flags in one turn of the thread's loop. The result says
whether a writable callback is asked for on every connection. -/
def runThread (w : WebServerLWS) : WebServerLWS × Bool :=
  if w.mUpdateClient then
    ({ w with
        mUpdateClient := false
        sConnectionReset := if w.mResetConnection then true else w.sConnectionReset
        mResetConnection := false }, true)
  else (w, false)

/-- `LWS_CALLBACK_SERVER_WRITEABLE`: the message, and the state after it. -/
def serverWriteable (w : WebServerLWS) : Str × WebServerLWS :=
  let dataStrMap := w.sharedData.getData
  let sessionPart := if w.sConnectionReset then w.sharedData.getSessionInfo ++ ['\n'] else []
  let lastSent := if w.sConnectionReset then .empty else w.sLastSentDataStrMap
  let strOutput :=
    sessionPart ++ dataTag ++ ['\n'] ++ ['\n'] ++ (sentEntries lastSent dataStrMap).flatMap dataLine
  (stripUnicode strOutput,
    { w with sLastSentDataStrMap := dataStrMap, sConnectionReset := false })

end WebServerLWS

inductive CallbackReason where
  | established
  | receive (input : Str)
  | serverWriteable

def heartbeat : Str := "heartbeat".toList

/-- `callback_iracing_data`: the state after the callback and what it writes to the socket. -/
def callbackIracingData (w : WebServerLWS) : CallbackReason → WebServerLWS × Option Str
  | .established => ({ w with sConnectionReset := true }, none)
  | .receive input =>
    if input = [] then (w, none)
    else
      -- The bytes are read as a C string.
      let strInput := input.takeWhile (· ≠ '\x00')
      if strInput = heartbeat then (w, some strInput)
      else ({ w with sharedData := w.sharedData.setFuelMessage strInput }, none)
  | .serverWriteable => let (strOutput, w) := w.serverWriteable; (w, some strOutput)

/-! ## Stripping -/

@[simp] theorem stripUnicode_nil : stripUnicode [] = [] := rfl

@[simp] theorem stripUnicode_append (a b : Str) :
    stripUnicode (a ++ b) = stripUnicode a ++ stripUnicode b := by simp [stripUnicode]

@[simp] theorem stripUnicode_newline : stripUnicode ['\n'] = ['\n'] := rfl

def isAscii (s : Str) : Prop := ∀ c ∈ s, c.toNat < 128

instance (s : Str) : Decidable (isAscii s) := inferInstanceAs (Decidable (∀ c ∈ s, c.toNat < 128))

theorem stripUnicode_of_ascii (s : Str) (h : isAscii s) : stripUnicode s = s := by
  rw [stripUnicode, List.filter_eq_self]
  intro c hc
  simp [invalidChar, h c hc]

theorem notMem_stripUnicode (c : Char) (s : Str) (h : c ∉ s) : c ∉ stripUnicode s :=
  fun hm => h (List.mem_filter.mp hm).1

def stripEntry (p : Str × Str) : Str × Str := (p.1, stripUnicode p.2)

theorem stripUnicode_dataLine (p : Str × Str) (h : isAscii p.1) :
    stripUnicode (dataLine p) = dataLine (stripEntry p) := by
  have hsemi : stripUnicode (';' :: p.2) = ';' :: stripUnicode p.2 := rfl
  simp only [dataLine, stripEntry, stripUnicode_append, stripUnicode_of_ascii _ h, hsemi,
    stripUnicode_newline]

theorem stripUnicode_dataLines (es : List (Str × Str)) (h : ∀ p ∈ es, isAscii p.1) :
    stripUnicode (es.flatMap dataLine) = (es.map stripEntry).flatMap dataLine := by
  induction es with
  | nil => rfl
  | cons p es ih =>
    simp only [List.flatMap_cons, List.map_cons, stripUnicode_append]
    rw [stripUnicode_dataLine p (h p (by simp)), ih (fun q hq => h q (by simp [hq]))]

end IrPitCrew.WebServer
