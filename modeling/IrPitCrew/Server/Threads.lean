import IrPitCrew.Client.ServerData
import IrPitCrew.Delta
import IrPitCrew.Plugin.Loop

/-!
# The main loop and the thread of the web server

One access to a flag is one step. A connect asks for a reset in
`m_resetConnection`, and the thread passes it on to `s_connectionReset`.
-/

open IrPitCrew.Text IrPitCrew.Decimal IrPitCrew.Rounding IrPitCrew.WebServer
open IrPitCrew.Delta (SessionOk MapOk)
open IrPitCrew.ParseData (NameOk)
open IrPitCrew.Plugin (addDataVarToMap addStringDataVarToMap precision mem_insertEntry
  find_addStringDataVarToMap_self find_addStringDataVarToMap_of_ne)

namespace IrPitCrew.Threads

variable {K : Type*} [Field K] [LinearOrder K] [FloorRing K]

/-! ## What the main loop hands over -/

structure SessionInfo where
  str : Str
  ok : SessionOk str

def factorText (gFuelDisplayConversionFactor : K) : Str :=
  printNumber (roundPlaces precision gFuelDisplayConversionFactor)

/-- A factor that the map shows to be positive. -/
structure Factor (K : Type*) [Field K] [LinearOrder K] [FloorRing K] where
  val : K
  pos : 0 < (parseFloat (factorText val) : K)

def factorName : Str := "FuelDisplayConversionFactor".toList

def levelName : Str := "FuelLevel".toList

/-- The variables of the simulator. The plugin adds the factor to them. -/
structure SimData where
  dataMap : StrMap
  ok : MapOk dataMap
  litres : Str
  ascii : isAscii litres
  level : dataMap.find levelName = some litres
  noFactor : dataMap.find factorName = none

def SimData.strDataMap (d : SimData) (c : Factor K) : StrMap :=
  addDataVarToMap .exact d.dataMap "FuelDisplayConversionFactor" c.val precision

theorem isAscii_printNumber (x : K) : isAscii (printNumber x) := by
  intro c hc
  rcases printNumber_chars x c hc with hdigit | hmark
  · have hle : c.toNat ≤ 57 := by
      simp only [Char.isDigit, Bool.and_eq_true, decide_eq_true_eq] at hdigit
      exact hdigit.2
    omega
  · simp only [List.mem_cons, List.not_mem_nil, or_false] at hmark
    rcases hmark with rfl | rfl | rfl | rfl <;> decide

theorem mapOk_strDataMap (d : SimData) (c : Factor K) : MapOk (d.strDataMap c) := by
  intro p hp
  rcases mem_insertEntry _ hp with rfl | hp
  · have hname : NameOk factorName := by decide
    have hnl : '\n' ∉ factorText c.val := by
      intro h
      exact absurd (printNumber_chars _ _ h) (by decide)
    refine ⟨hname, hnl, ?_⟩
    have hascii : stripUnicode (factorText c.val) = factorText c.val :=
      stripUnicode_of_ascii _ (isAscii_printNumber _)
    change stripUnicode (factorText c.val) ≠ _
    rw [hascii]
    exact Client.printNumber_ne_dataNotSetString _
  · exact d.ok p hp

theorem find_factorName (d : SimData) (c : Factor K) :
    (d.strDataMap c).find factorName = some (factorText c.val) :=
  find_addStringDataVarToMap_self d.dataMap _ _ d.noFactor

theorem find_levelName (d : SimData) (c : Factor K) : (d.strDataMap c).find levelName = some d.litres := by
  have hne : levelName ≠ factorName := by decide
  exact (find_addStringDataVarToMap_of_ne d.dataMap _ hne).trans d.level

/-- The map of a tick under the factor, or the empty map of a connect. -/
def HasFactor (c : Factor K) (m : StrMap) : Prop := m = .empty ∨ ∃ d : SimData, m = d.strDataMap c

theorem hasFactor_empty (c : Factor K) : HasFactor c .empty := .inl rfl

theorem hasFactor_strDataMap (d : SimData) (c : Factor K) : HasFactor c (d.strDataMap c) := .inr ⟨d, rfl⟩

theorem strDataMap_ne_empty (d : SimData) (c : Factor K) : d.strDataMap c ≠ .empty := by
  intro h
  have hfind := find_factorName d c
  rw [h] at hfind
  simp at hfind

theorem factorText_of_hasFactor {c c' : Factor K} {d : SimData} (h : HasFactor c' (d.strDataMap c)) :
    factorText c.val = factorText c'.val := by
  rcases h with hempty | ⟨d', heq⟩
  · exact absurd hempty (strDataMap_ne_empty d c)
  · have hfind := find_factorName d c
    rw [heq, find_factorName] at hfind
    exact (Option.some.inj hfind).symm

/-! ## The threads -/

/-- The statement that the main loop is at. -/
inductive MainStep (K : Type*) [Field K] [LinearOrder K] [FloorRing K] where
  | waitForDataReady
  | clearData (next : Factor K)
  | resetConnection (next : Factor K)
  | updateClient (next : Factor K)
  | calculateFactor (next : Factor K)
  | updateClientTick

/-- The statement that the loop of `runThread` is at. -/
inductive WebStep where
  | service
  | clearUpdateClient
  | testResetConnection
  | setConnectionReset
  | clearResetConnection
  | callbackOnWritable
  deriving DecidableEq

/-- The server with its one connection. -/
structure State (K : Type*) [Field K] [LinearOrder K] [FloorRing K] where
  server : WebServerLWS := {}
  gFuelDisplayConversionFactor : Factor K
  main : MainStep K := .waitForDataReady
  web : WebStep := .service
  isWritableRequested : Bool := false

inductive Event (K : Type*) [Field K] [LinearOrder K] [FloorRing K] where
  | connect (sessionInfo : SessionInfo) (next : Factor K)
  | tick (d : SimData)
  /-- The main loop goes on with its connect or its tick. -/
  | main
  /-- The web thread goes on after it served the socket. -/
  | web
  | serverWriteable

def mainStep (s : State K) : State K :=
  match s.main with
  | .waitForDataReady => s
  | .clearData next =>
    { s with
      server.sharedData := s.server.sharedData.setData .empty
      main := .resetConnection next }
  | .resetConnection next =>
    { s with server := s.server.resetConnection, main := .updateClient next }
  | .updateClient next =>
    { s with server := s.server.updateClient, main := .calculateFactor next }
  | .calculateFactor next =>
    { s with gFuelDisplayConversionFactor := next, main := .waitForDataReady }
  | .updateClientTick =>
    { s with server := s.server.updateClient, main := .waitForDataReady }

def webStep (s : State K) : State K :=
  match s.web with
  | .service => if s.server.mUpdateClient then { s with web := .clearUpdateClient } else s
  | .clearUpdateClient => { s with server.mUpdateClient := false, web := .testResetConnection }
  | .testResetConnection =>
    { s with
      web := if s.server.mResetConnection then .setConnectionReset else .callbackOnWritable }
  | .setConnectionReset =>
    { s with server.sConnectionReset := true, web := .clearResetConnection }
  | .clearResetConnection =>
    { s with server.mResetConnection := false, web := .callbackOnWritable }
  | .callbackOnWritable => { s with isWritableRequested := true, web := .service }

/-- The thread serves the socket, and a callback was asked for. -/
def CanWrite (s : State K) : Prop := s.web = .service ∧ s.isWritableRequested = true

instance (s : State K) : Decidable (CanWrite s) :=
  inferInstanceAs (Decidable (s.web = .service ∧ s.isWritableRequested = true))

def step (s : State K) : Event K → State K
  | .connect sessionInfo next =>
    match s.main with
    | .waitForDataReady =>
      { s with
        server.sharedData := s.server.sharedData.setSessionInfo sessionInfo.str
        main := .clearData next }
    | _ => s
  | .tick d =>
    match s.main with
    | .waitForDataReady =>
      { s with
        server.sharedData :=
          s.server.sharedData.setData (d.strDataMap s.gFuelDisplayConversionFactor)
        main := .updateClientTick }
    | _ => s
  | .main => mainStep s
  | .web => webStep s
  | .serverWriteable =>
    if CanWrite s then
      { s with
        server := (callbackIracingData s.server .serverWriteable).1
        isWritableRequested := false }
    else s

theorem sLastSentDataStrMap_step (s : State K) (e : Event K) (h : e ≠ .serverWriteable) :
    (step s e).server.sLastSentDataStrMap = s.server.sLastSentDataStrMap := by
  cases e with
  | connect sessionInfo next | tick d =>
    unfold step
    dsimp only
    split <;> rfl
  | main =>
    unfold step mainStep
    dsimp only
    split <;> rfl
  | web =>
    unfold step webStep
    dsimp only
    split
    · split <;> rfl
    all_goals rfl
  | serverWriteable => exact absurd rfl h

theorem sLastSentDataStrMap_serverWriteable (s : State K) (h : CanWrite s) :
    (step s .serverWriteable).server.sLastSentDataStrMap = s.server.sharedData.getData := by
  unfold step
  dsimp only
  rw [if_pos h]
  rfl

/-- A turn of the web thread that nothing comes between. -/
theorem runThread_eq (s : State K) (h : s.web = .service) :
    ∃ n, (webStep^[n] s).server = s.server.runThread.1 ∧ (webStep^[n] s).web = .service ∧
      (webStep^[n] s).isWritableRequested = (s.isWritableRequested || s.server.runThread.2) := by
  cases hupdate : s.server.mUpdateClient with
  | false => exact ⟨0, by simp [WebServerLWS.runThread, hupdate, h]⟩
  | true =>
    cases hreset : s.server.mResetConnection with
    | false => exact ⟨4, by simp [WebServerLWS.runThread, webStep, hupdate, hreset, h]⟩
    | true => exact ⟨6, by simp [WebServerLWS.runThread, webStep, hupdate, hreset, h]⟩

/-! ## The reset on its way -/

/-- The maps that the main loop can have set before the statement. -/
def MainStep.Allows (c : Factor K) : MainStep K → StrMap → Prop
  | .resetConnection _, m | .updateClient _, m | .calculateFactor _, m => m = .empty
  | .waitForDataReady, m | .clearData _, m | .updateClientTick, m => HasFactor c m

/-- A connect asks for it next, has asked, or the thread has passed it on. -/
def IsResetOnItsWay (s : State K) : Prop :=
  (∃ next, s.main = .resetConnection next) ∨ s.server.mResetConnection = true ∨
    s.server.sConnectionReset = true

def WebOk (s : State K) : Prop :=
  match s.web with
  | .setConnectionReset => s.server.mResetConnection = true
  | .clearResetConnection => s.server.sConnectionReset = true
  | _ => True

/-- The last map has the factor in force, or will not be compared with. -/
structure ThreadsOk (s : State K) : Prop where
  session : SessionOk s.server.sharedData.sessionInfoStr
  data : s.main.Allows s.gFuelDisplayConversionFactor s.server.sharedData.dataStrMap
  last : s.main.Allows s.gFuelDisplayConversionFactor s.server.sLastSentDataStrMap ∨ IsResetOnItsWay s
  hasFactor : ∃ c : Factor K, HasFactor c s.server.sLastSentDataStrMap
  web : WebOk s

theorem threadsOk_init (c : Factor K) : ThreadsOk ({ gFuelDisplayConversionFactor := c } : State K) := by
  have hsession : SessionOk [] := by decide
  exact ⟨hsession, hasFactor_empty c, .inl (hasFactor_empty c), ⟨c, hasFactor_empty c⟩, trivial⟩

theorem MainStep.hasFactor_of_allows {c : Factor K} {main : MainStep K} {m : StrMap}
    (h : main.Allows c m) : HasFactor c m := by
  cases main with
  | resetConnection | updateClient | calculateFactor => exact .inl h
  | waitForDataReady | clearData | updateClientTick => exact h

theorem threadsOk_connect (s : State K) (sessionInfo : SessionInfo) (next : Factor K) (hs : ThreadsOk s) :
    ThreadsOk (step s (.connect sessionInfo next)) := by
  obtain ⟨hsession, hdata, hlast, hfactor, hweb⟩ := hs
  unfold step
  dsimp only
  split
  · rename_i hmain
    rw [hmain] at hdata hlast
    refine ⟨sessionInfo.ok, hdata, hlast.imp_right ?_, hfactor, hweb⟩
    rintro (⟨next', hnext⟩ | hway)
    · simp [hmain] at hnext
    · exact .inr hway
  · exact ⟨hsession, hdata, hlast, hfactor, hweb⟩

theorem threadsOk_tick (s : State K) (d : SimData) (hs : ThreadsOk s) : ThreadsOk (step s (.tick d)) := by
  obtain ⟨hsession, hdata, hlast, hfactor, hweb⟩ := hs
  unfold step
  dsimp only
  split
  · rename_i hmain
    rw [hmain] at hlast
    refine ⟨hsession, hasFactor_strDataMap _ _, hlast.imp_right ?_, hfactor, hweb⟩
    rintro (⟨next', hnext⟩ | hway)
    · simp [hmain] at hnext
    · exact .inr hway
  · exact ⟨hsession, hdata, hlast, hfactor, hweb⟩

theorem threadsOk_mainStep (s : State K) (hs : ThreadsOk s) : ThreadsOk (mainStep s) := by
  obtain ⟨hsession, hdata, hlast, hfactor, hweb⟩ := hs
  have hway (h : IsResetOnItsWay s) (hmain : ∀ next, s.main ≠ .resetConnection next) :
      s.server.mResetConnection = true ∨ s.server.sConnectionReset = true :=
    h.resolve_left fun ⟨next, hnext⟩ => hmain next hnext
  unfold mainStep
  split
  · exact ⟨hsession, hdata, hlast, hfactor, hweb⟩
  · exact ⟨hsession, rfl, .inr (.inl ⟨_, rfl⟩), hfactor, hweb⟩
  · rename_i hmain
    rw [hmain] at hdata
    refine ⟨hsession, hdata, .inr (.inr (.inl rfl)), hfactor, ?_⟩
    unfold WebOk at hweb ⊢
    dsimp only
    split
    · rfl
    · rename_i hclear
      rw [hclear] at hweb
      exact hweb
    · trivial
  · rename_i hmain
    rw [hmain] at hdata hlast
    exact ⟨hsession, hdata, hlast.imp_right fun h => .inr (hway h (by simp [hmain])), hfactor, hweb⟩
  · rename_i hmain
    rw [hmain] at hdata hlast
    refine ⟨hsession, .inl hdata, ?_, hfactor, hweb⟩
    exact hlast.imp .inl fun h => .inr (hway h (by simp [hmain]))
  · rename_i hmain
    rw [hmain] at hdata hlast
    exact ⟨hsession, hdata, hlast.imp_right fun h => .inr (hway h (by simp [hmain])), hfactor, hweb⟩

theorem threadsOk_webStep (s : State K) (hs : ThreadsOk s) : ThreadsOk (webStep s) := by
  obtain ⟨hsession, hdata, hlast, hfactor, hweb⟩ := hs
  unfold webStep
  split
  · split
    · exact ⟨hsession, hdata, hlast, hfactor, trivial⟩
    · exact ⟨hsession, hdata, hlast, hfactor, hweb⟩
  · exact ⟨hsession, hdata, hlast, hfactor, trivial⟩
  · refine ⟨hsession, hdata, hlast, hfactor, ?_⟩
    unfold WebOk
    dsimp only
    split
    · rename_i hreset
      by_contra hno
      simp [hno] at hreset
    · rename_i hclear
      split at hclear <;> simp at hclear
    · trivial
  · exact ⟨hsession, hdata, .inr (.inr (.inr rfl)), hfactor, rfl⟩
  · rename_i hclear
    -- The reset that is cleared here was passed on before.
    have hset : s.server.sConnectionReset = true := by
      rw [WebOk, hclear] at hweb
      exact hweb
    exact ⟨hsession, hdata, .inr (.inr (.inr hset)), hfactor, trivial⟩
  · exact ⟨hsession, hdata, hlast, hfactor, trivial⟩

/-- The map written becomes the last one. -/
theorem threadsOk_serverWriteable (s : State K) (hs : ThreadsOk s) :
    ThreadsOk (step s .serverWriteable) := by
  obtain ⟨hsession, hdata, hlast, hfactor, hweb⟩ := hs
  unfold step
  dsimp only
  split
  · rename_i hcan
    refine ⟨hsession, hdata, .inl hdata, ⟨_, MainStep.hasFactor_of_allows hdata⟩, ?_⟩
    unfold WebOk
    dsimp only
    rw [hcan.1]
    trivial
  · exact ⟨hsession, hdata, hlast, hfactor, hweb⟩

theorem threadsOk_step (s : State K) (e : Event K) (hs : ThreadsOk s) : ThreadsOk (step s e) := by
  cases e with
  | connect sessionInfo next => exact threadsOk_connect s sessionInfo next hs
  | tick d => exact threadsOk_tick s d hs
  | main => exact threadsOk_mainStep s hs
  | web => exact threadsOk_webStep s hs
  | serverWriteable => exact threadsOk_serverWriteable s hs

/-- Between two maps with different factors a reset was asked for. -/
theorem isResetOnItsWay_of_factor_ne {s : State K} (hs : ThreadsOk s) {d d' : SimData} {c c' : Factor K}
    (hdata : s.server.sharedData.dataStrMap = d.strDataMap c)
    (hlast : s.server.sLastSentDataStrMap = d'.strDataMap c') (hne : factorText c.val ≠ factorText c'.val) :
    s.server.mResetConnection = true ∨ s.server.sConnectionReset = true := by
  have hallows := hs.data
  rw [hdata] at hallows
  rcases hs.last with hsame | ⟨next, hnext⟩ | hway
  · -- Both maps have the factor in force.
    have hc := factorText_of_hasFactor (MainStep.hasFactor_of_allows hallows)
    rw [hlast] at hsame
    have hc' := factorText_of_hasFactor (MainStep.hasFactor_of_allows hsame)
    exact absurd (hc.trans hc'.symm) hne
  · rw [hnext] at hallows
    exact absurd hallows (strDataMap_ne_empty d c)
  · exact hway

end IrPitCrew.Threads
