import IrPitCrew.Server.Threads
import Mathlib.Data.Rat.Floor

/-!
# The fuel level in the units of the factor

The client converts a fuel level when its litres are sent. After a change of
the factor they are sent because of the reset, when it comes before the message.
-/

open IrPitCrew.Text IrPitCrew.Rounding IrPitCrew.WebServer IrPitCrew.Run IrPitCrew.ParseData
open IrPitCrew.Delta (SessionOk MapOk compareMap messageValue_serverWriteable lookup_sentEntries
  isSendValue_of_find find_of_not_isSendValue)
open IrPitCrew.Client (ServerData readValue printNumber_ne_dataNotSetString)
open IrPitCrew.Client.ServerData (decimalsForVal)
open IrPitCrew.Binary (Arith)
open IrPitCrew.Threads

namespace IrPitCrew.FuelShown

variable {K : Type*} [Field K] [LinearOrder K] [FloorRing K]

/-! ## The system -/

/-- The threads, the client, and the map that the last message was built from. -/
structure System (K : Type*) [Field K] [LinearOrder K] [FloorRing K] where
  threads : State K
  client : ServerData K := {}
  built : Option StrMap := none

def System.init (factor : Factor K) : System K :=
  { threads := { gFuelDisplayConversionFactor := factor } }

/-- A message written is received. -/
def step (sys : System K) (e : Event K) : System K :=
  match e with
  | .serverWriteable =>
    if CanWrite sys.threads then
      { threads := Threads.step sys.threads e
        client := sys.client.receive .exact sys.threads.server.serverWriteable.1
        built := some sys.threads.server.sharedData.getData }
    else sys
  | _ => { sys with threads := Threads.step sys.threads e }

/-! ## What is to be shown -/

def litresOf (m : StrMap) : K := parseFloat ((m.find levelName).getD [])

def factorOf (m : StrMap) : K := parseFloat ((m.find factorName).getD [])

/-- The fuel level of the map in its units, to one decimal. -/
def displayLevel (m : StrMap) : K := roundPlaces decimalsForVal (litresOf m * factorOf m)

/-- The client shows the fuel level of the map that the last message was built from. -/
def Shown (sys : System K) : Prop :=
  ∀ m, sys.built = some m → m ≠ .empty → sys.client.fuelLevel.val = displayLevel m

/-- A message overtakes the reset of a connect, with the litres of the last message, which are
another fuel level now. -/
def Overtakes (sys : System K) : Event K → Prop
  | .serverWriteable =>
    CanWrite sys.threads ∧ sys.threads.server.mResetConnection = true ∧
      sys.threads.server.sConnectionReset = false ∧
      (sys.threads.server.sharedData.getData.find levelName).isSome = true ∧
      sys.threads.server.sharedData.getData.find levelName =
        sys.threads.server.sLastSentDataStrMap.find levelName ∧
      (displayLevel sys.threads.server.sLastSentDataStrMap : K) ≠
        displayLevel sys.threads.server.sharedData.getData
  | _ => False

instance (sys : System K) (e : Event K) : Decidable (Overtakes sys e) :=
  match e with
  | .serverWriteable => inferInstanceAs (Decidable (_ ∧ _))
  | .connect _ _ | .tick _ | .main | .web => inferInstanceAs (Decidable False)

/-! ## One message -/

theorem factorOf_strDataMap (d : SimData) (c : Factor K) :
    (factorOf (d.strDataMap c) : K) = parseFloat (factorText c.val) := by
  rw [factorOf, find_factorName]
  rfl

theorem litresOf_strDataMap (d : SimData) (c : Factor K) :
    (litresOf (d.strDataMap c) : K) = parseFloat d.litres := by
  rw [litresOf, find_levelName]
  rfl

/-- The client reads the tag's text if it is sent. -/
theorem messageValue_find (w : WebServerLWS) (m : StrMap) (tag value : Str)
    (hs : SessionOk w.sharedData.getSessionInfo) (hm : MapOk m) (hdata : w.sharedData.getData = m)
    (hfind : m.find tag = some value) (hascii : isAscii value) :
    messageValue w.serverWriteable.1 tag =
      if isSendValue (compareMap w) tag value then value else dataNotSetString := by
  have hmem := (m.find_eq_some_iff tag value).mp hfind
  rw [messageValue_serverWriteable w tag hs (by rw [hdata]; exact hm) (hm _ hmem).1, hdata,
    lookup_sentEntries _ _ _ _ hmem, stripUnicode_of_ascii value hascii]
  split <;> rfl

theorem factorVal_receive (client : ServerData K) (message : Str) (c : Factor K)
    (h : messageValue message factorName = factorText c.val ∨
      messageValue message factorName = dataNotSetString ∧
        client.fuelDisplayConversionFactorVal = parseFloat (factorText c.val)) :
    (client.receive .exact message).fuelDisplayConversionFactorVal = parseFloat (factorText c.val) := by
  have hne : factorText c.val ≠ [] := by
    intro hnil
    have hpos := c.pos
    rw [hnil] at hpos
    exact lt_irrefl _ hpos
  have hlen : 0 < (factorText c.val).length := List.length_pos_of_ne_nil hne
  have hset : factorText c.val ≠ dataNotSetString := printNumber_ne_dataNotSetString _
  unfold factorName at h
  rw [ServerData.fuelDisplayConversionFactorVal_receive]
  rcases h with h | ⟨h, hval⟩
  · rw [h, if_pos (decide_eq_true ⟨hlen, hset⟩), Arith.double_exact]
  · rw [h, hval, if_neg (by simp)]

theorem val_fuelLevel_receive_of_not_set (client : ServerData K) (message : Str)
    (h : messageValue message levelName = dataNotSetString) :
    (client.receive .exact message).fuelLevel.val = client.fuelLevel.val := by
  unfold levelName at h
  rw [ServerData.fuelLevel_receive, h, readValue, if_pos rfl, Option.map_none]
  exact ServerData.fuelLevel_val_clearDataUpdated client

theorem val_fuelLevel_receive_of_set [IsStrictOrderedRing K] (client : ServerData K) (message : Str)
    (hset : messageValue message levelName ≠ dataNotSetString)
    (hpos : 0 < (client.receive .exact message).fuelDisplayConversionFactorVal) :
    (client.receive .exact message).fuelLevel.val =
      roundPlaces decimalsForVal (parseFloat (messageValue message levelName) *
        (client.receive .exact message).fuelDisplayConversionFactorVal) := by
  unfold levelName at hset ⊢
  rw [ServerData.fuelLevel_receive, readValue, if_neg hset, Option.map_some, Client.NumberField.val_receive,
    if_pos hpos, parseFloat_toFixed]
  rfl

/-! ## The invariant -/

/-- The client has the values of the last map, unless it is the empty one. -/
structure Inv (sys : System K) : Prop where
  threads : ThreadsOk sys.threads
  built : sys.built = some sys.threads.server.sLastSentDataStrMap ∨
    sys.built = none ∧ sys.threads.server.sLastSentDataStrMap = .empty
  factor : sys.threads.server.sLastSentDataStrMap ≠ .empty →
    sys.client.fuelDisplayConversionFactorVal = factorOf sys.threads.server.sLastSentDataStrMap
  level : sys.threads.server.sLastSentDataStrMap ≠ .empty →
    sys.client.fuelLevel.val = displayLevel sys.threads.server.sLastSentDataStrMap

theorem inv_init (c : Factor K) : Inv (.init c) :=
  ⟨threadsOk_init c, .inr ⟨rfl, rfl⟩, fun h => absurd rfl h, fun h => absurd rfl h⟩

theorem shown_of_inv {sys : System K} (h : Inv sys) : Shown sys := by
  intro m hm hne
  rcases h.built with hbuilt | ⟨hbuilt, -⟩
  · obtain rfl := Option.some.inj (hbuilt.symm.trans hm)
    exact h.level hne
  · rw [hbuilt] at hm
    cases hm

theorem compareMap_find {w : WebServerLWS} {tag value : Str} (h : (compareMap w).find tag = some value) :
    w.sConnectionReset = false ∧ w.sLastSentDataStrMap.find tag = some value ∧
      w.sLastSentDataStrMap ≠ .empty := by
  unfold compareMap at h
  split at h
  · simp at h
  · rename_i hreset
    refine ⟨eq_false_of_ne_true hreset, h, ?_⟩
    intro hempty
    simp [hempty] at h

variable [IsStrictOrderedRing K]

section Write

variable {sys : System K} {d : SimData} {c : Factor K}

omit [IsStrictOrderedRing K] in
/-- After a message the client has the factor of the map, sent or kept. -/
theorem factorVal_write (h : Inv sys) (hdata : sys.threads.server.sharedData.getData = d.strDataMap c) :
    (sys.client.receive .exact sys.threads.server.serverWriteable.1).fuelDisplayConversionFactorVal =
      parseFloat (factorText c.val) := by
  have hvalue := messageValue_find sys.threads.server _ factorName _ h.threads.session
    (mapOk_strDataMap d c) hdata (find_factorName d c) (isAscii_printNumber _)
  apply factorVal_receive
  by_cases hsend : isSendValue (compareMap sys.threads.server) factorName (factorText c.val) = true
  · rw [if_pos hsend] at hvalue
    exact .inl hvalue
  · rw [if_neg hsend] at hvalue
    obtain ⟨-, hfind, hne⟩ := compareMap_find (find_of_not_isSendValue _ _ _ hsend)
    refine .inr ⟨hvalue, ?_⟩
    rw [h.factor hne, factorOf, hfind, Option.getD_some]

/-- The litres are sent, or are those of the last map. -/
theorem fuelLevel_write (h : Inv sys) (hdata : sys.threads.server.sharedData.getData = d.strDataMap c) :
    ((compareMap sys.threads.server).find levelName ≠ some d.litres ∧
      (sys.client.receive .exact sys.threads.server.serverWriteable.1).fuelLevel.val =
        displayLevel (d.strDataMap c)) ∨
    ((compareMap sys.threads.server).find levelName = some d.litres ∧
      (sys.client.receive .exact sys.threads.server.serverWriteable.1).fuelLevel.val =
        displayLevel sys.threads.server.sLastSentDataStrMap) := by
  have hvalue := messageValue_find sys.threads.server _ levelName _ h.threads.session
    (mapOk_strDataMap d c) hdata (find_levelName d c) d.ascii
  by_cases hsend : isSendValue (compareMap sys.threads.server) levelName d.litres = true
  · rw [if_pos hsend] at hvalue
    have hok := mapOk_strDataMap d c _ (((d.strDataMap c).find_eq_some_iff _ _).mp (find_levelName d c))
    have hset : d.litres ≠ dataNotSetString := by
      have hstripped := hok.2.2
      rwa [stripUnicode_of_ascii _ d.ascii] at hstripped
    have hfactor := factorVal_write h hdata
    refine .inl ⟨?_, ?_⟩
    · intro hfind
      simp [isSendValue_of_find _ _ _ hfind] at hsend
    · rw [val_fuelLevel_receive_of_set _ _ (by rwa [hvalue]) (by rw [hfactor]; exact c.pos), hvalue,
        hfactor, displayLevel, litresOf_strDataMap, factorOf_strDataMap]
  · rw [if_neg hsend] at hvalue
    have hfind := find_of_not_isSendValue _ _ _ hsend
    refine .inr ⟨hfind, ?_⟩
    rw [val_fuelLevel_receive_of_not_set _ _ hvalue]
    exact h.level (compareMap_find hfind).2.2

omit [IsStrictOrderedRing K] in
/-- The litres of the last map with another fuel level have another factor, so a reset is on its way. -/
theorem mResetConnection_of_displayLevel_ne (h : Inv sys)
    (hdata : sys.threads.server.sharedData.getData = d.strDataMap c)
    (hfind : (compareMap sys.threads.server).find levelName = some d.litres)
    (hne : (displayLevel sys.threads.server.sLastSentDataStrMap : K) ≠ displayLevel (d.strDataMap c)) :
    sys.threads.server.mResetConnection = true := by
  obtain ⟨hreset, hfind, hlast⟩ := compareMap_find hfind
  obtain ⟨c', hempty | ⟨d', heq⟩⟩ := h.threads.hasFactor
  · exact absurd hempty hlast
  rw [heq, find_levelName, Option.some_inj] at hfind
  have hfactor : factorText c.val ≠ factorText c'.val := by
    intro hsame
    apply hne
    rw [heq, displayLevel, displayLevel, litresOf_strDataMap, litresOf_strDataMap, factorOf_strDataMap,
      factorOf_strDataMap, hfind, hsame]
  rcases isResetOnItsWay_of_factor_ne h.threads hdata heq hfactor with hway | hway
  · exact hway
  · rw [hreset] at hway
    cases hway

/-- The message of the map shows its fuel level, or it overtakes the reset. -/
theorem fuelLevel_write_iff (h : Inv sys) (hcan : CanWrite sys.threads)
    (hdata : sys.threads.server.sharedData.getData = d.strDataMap c) :
    (sys.client.receive .exact sys.threads.server.serverWriteable.1).fuelLevel.val =
        displayLevel (d.strDataMap c) ↔ ¬ Overtakes sys .serverWriteable := by
  have hlevel := find_levelName d c
  unfold Overtakes
  dsimp only
  rw [hdata, hlevel]
  rcases fuelLevel_write h hdata with ⟨hfind, hval⟩ | ⟨hfind, hval⟩
  · refine iff_of_true hval ?_
    rintro ⟨-, -, hreset, -, hsame, -⟩
    apply hfind
    unfold compareMap
    rw [hreset, hsame]
    rfl
  · obtain ⟨hreset, hlast, -⟩ := compareMap_find hfind
    rw [hval]
    constructor
    · rintro heq ⟨-, -, -, -, -, hne⟩
      exact hne heq
    · intro hnot
      by_contra hne
      have hway := mResetConnection_of_displayLevel_ne h hdata hfind hne
      exact hnot ⟨hcan, hway, hreset, rfl, hlast.symm, hne⟩

end Write

/-! ## Runs -/

omit [IsStrictOrderedRing K] in
theorem step_of_canWrite {sys : System K} (h : CanWrite sys.threads) :
    step sys .serverWriteable =
      { threads := Threads.step sys.threads .serverWriteable
        client := sys.client.receive .exact sys.threads.server.serverWriteable.1
        built := some sys.threads.server.sharedData.getData } := by
  simp [step, h]

omit [IsStrictOrderedRing K] in
theorem step_of_not_write {sys : System K} {e : Event K} (h : e = .serverWriteable → ¬ CanWrite sys.threads) :
    (step sys e).client = sys.client ∧ (step sys e).built = sys.built ∧
      (step sys e).threads.server.sLastSentDataStrMap = sys.threads.server.sLastSentDataStrMap ∧
      (step sys e).threads = Threads.step sys.threads e := by
  cases e with
  | serverWriteable => simp [step, Threads.step, h rfl]
  | connect | tick | main | web => exact ⟨rfl, rfl, sLastSentDataStrMap_step _ _ (by simp), rfl⟩

omit [IsStrictOrderedRing K] in
theorem inv_step_of_not_write {sys : System K} {e : Event K}
    (hwrite : e = .serverWriteable → ¬ CanWrite sys.threads) (h : Inv sys) : Inv (step sys e) := by
  obtain ⟨hclient, hbuilt, hlast, hthreads⟩ := step_of_not_write hwrite
  constructor
  · rw [hthreads]
    exact threadsOk_step _ e h.threads
  · rw [hbuilt, hlast]
    exact h.built
  · rw [hclient, hlast]
    exact h.factor
  · rw [hclient, hlast]
    exact h.level

omit [IsStrictOrderedRing K] in
/-- The map is the one of a connect, or of a tick. -/
theorem data_cases {sys : System K} (h : Inv sys) :
    sys.threads.server.sharedData.getData = .empty ∨
      ∃ (d : SimData) (c : Factor K), sys.threads.server.sharedData.getData = d.strDataMap c := by
  rcases MainStep.hasFactor_of_allows h.threads.data with hempty | ⟨d, hd⟩
  · exact .inl hempty
  · exact .inr ⟨d, _, hd⟩

theorem shown_write_iff {sys : System K} (h : Inv sys) (hcan : CanWrite sys.threads) :
    Shown (step sys .serverWriteable) ↔ ¬ Overtakes sys .serverWriteable := by
  rw [step_of_canWrite hcan]
  rcases data_cases h with hempty | ⟨d, c, hd⟩
  · rw [hempty]
    constructor
    · rintro - ⟨-, -, -, hsome, -⟩
      rw [hempty] at hsome
      simp at hsome
    · rintro - m hm hne
      exact absurd (Option.some.inj hm).symm hne
  · rw [← fuelLevel_write_iff h hcan hd, hd]
    constructor
    · exact fun hshown => hshown _ rfl (strDataMap_ne_empty d c)
    · intro hval m hm _
      rw [← Option.some.inj hm]
      exact hval

theorem inv_write {sys : System K} (h : Inv sys) (hcan : CanWrite sys.threads)
    (hok : ¬ Overtakes sys .serverWriteable) : Inv (step sys .serverWriteable) := by
  have hthreads := threadsOk_step sys.threads .serverWriteable h.threads
  have hlast := sLastSentDataStrMap_serverWriteable sys.threads hcan
  rw [step_of_canWrite hcan]
  refine ⟨hthreads, .inl (congrArg some hlast.symm), ?_, ?_⟩
  · intro hne
    dsimp only at hne ⊢
    rw [hlast] at hne ⊢
    obtain ⟨d, c, hd⟩ := (data_cases h).resolve_left hne
    rw [factorVal_write h hd, hd, factorOf_strDataMap]
  · intro hne
    dsimp only at hne ⊢
    rw [hlast] at hne ⊢
    obtain ⟨d, c, hd⟩ := (data_cases h).resolve_left hne
    rw [hd]
    exact (fuelLevel_write_iff h hcan hd).mpr hok

theorem inv_step (sys : System K) (e : Event K) (h : Inv sys) (hok : ¬ Overtakes sys e) :
    Inv (step sys e) := by
  by_cases hwrite : e = .serverWriteable ∧ CanWrite sys.threads
  · obtain ⟨rfl, hcan⟩ := hwrite
    exact inv_write h hcan hok
  · exact inv_step_of_not_write (not_and.mp hwrite) h

theorem shown_step_iff (sys : System K) (e : Event K) (h : Inv sys) :
    Shown (step sys e) ↔ ¬ Overtakes sys e := by
  by_cases hwrite : e = .serverWriteable ∧ CanWrite sys.threads
  · obtain ⟨rfl, hcan⟩ := hwrite
    exact shown_write_iff h hcan
  · apply iff_of_true (shown_of_inv (inv_step_of_not_write (not_and.mp hwrite) h))
    intro hover
    cases e with
    | serverWriteable => exact hwrite ⟨rfl, hover.1⟩
    | connect | tick | main | web => exact hover

/-- **The fuel level shown is in the units of its map** along exactly the runs where no message
overtakes a reset that it needs. -/
theorem fuel_shown_iff (c : Factor K) (es : List (Event K)) :
    StepsOk step (fun sys e => ¬ Overtakes sys e) (.init c) es ↔
      ∀ fs, fs <+: es → Shown (run step (.init c) fs) :=
  stepsOk_iff_forall_of_invariant inv_step shown_step_iff es (inv_init c) (shown_of_inv (inv_init c))

/-! ## Twenty litres, and a connect to gallons -/

def litresFactor : Factor ℚ := ⟨1, by decide +kernel⟩

def gallonsFactor : Factor ℚ := ⟨264151 / 1000000, by decide +kernel⟩

def sampleData : SimData where
  dataMap := ⟨[("FuelLevel".toList, "20".toList)], by decide⟩
  ok := by decide
  litres := "20".toList
  ascii := by decide
  level := by decide
  noFactor := by decide

def sampleSession : SessionInfo := ⟨"Track: Spa".toList, by decide⟩

/-- A tick, and the turn of the web thread that asks for a callback. -/
def tickEvents : List (Event ℚ) := [.tick sampleData, .main, .web, .web, .web, .web]

def connectEvents : List (Event ℚ) := [.connect sampleSession gallonsFactor, .main, .main, .main, .main]

/-- The web thread has its turn between the connect and the message. -/
def resetEvents : List (Event ℚ) :=
  tickEvents ++ [.serverWriteable] ++ connectEvents ++ [.web, .web, .web, .web, .web, .web] ++
    [.tick sampleData, .serverWriteable]

theorem fuel_shown_gallons : Shown (run step (.init litresFactor) resetEvents) :=
  (fuel_shown_iff litresFactor resetEvents).mp (by decide +kernel) resetEvents List.prefix_rfl

/-- The second callback comes only after the connect and a tick. -/
def overtakingEvents : List (Event ℚ) :=
  tickEvents ++ [.serverWriteable] ++ tickEvents ++ connectEvents ++
    [.tick sampleData, .serverWriteable]

theorem litres_shown_as_gallons :
    (run step (.init litresFactor) overtakingEvents).client.fuelLevel.val = 20 ∧
    (run step (.init litresFactor) overtakingEvents).built.map displayLevel = some (53 / 10 : ℚ) ∧
    ¬ Shown (run step (.init litresFactor) overtakingEvents) := by
  have hval : (run step (.init litresFactor) overtakingEvents).client.fuelLevel.val = 20 := by
    decide +kernel
  have hdisplay : (run step (.init litresFactor) overtakingEvents).built.map displayLevel =
      some (53 / 10 : ℚ) := by decide +kernel
  refine ⟨hval, hdisplay, ?_⟩
  intro h
  obtain ⟨m, hm, hlevel⟩ := Option.map_eq_some_iff.mp hdisplay
  have hne : m ≠ .empty := by
    rintro rfl
    exact absurd hlevel (by decide +kernel)
  have hshown := h m hm hne
  rw [hval, hlevel] at hshown
  exact absurd hshown (by decide +kernel)

end IrPitCrew.FuelShown
