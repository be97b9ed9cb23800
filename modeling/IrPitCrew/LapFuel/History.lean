import IrPitCrew.LapFuel.LapFuelData
import Mathlib.Data.Rat.Floor

/-!
# The lap history is the valid laps

A valid lap is decided by two calls in a row: it has a time, and the fuel level
went down since the call before. The lists hold the last of these laps, paired.
-/

open IrPitCrew.Text IrPitCrew.Run IrPitCrew.LapFuel.LapFuelData

namespace IrPitCrew.LapFuel.History

variable {K : Type*}

/-! ## Dropping the oldest lap -/

theorem zip_dropOldest (n : Nat) (ts fs : List K) (h : ts.length = fs.length) :
    (dropOldest n ts).zip (dropOldest n fs) <:+ ts.zip fs := by
  unfold dropOldest
  rw [h]
  split
  · rw [List.zip, ← List.drop_zipWith]
    exact List.drop_suffix _ _
  · exact List.suffix_rfl

/-! ## The valid laps of a sequence of calls -/

variable [Field K] [LinearOrder K]

/-- The time and the fuel of the lap that ends at the second call. -/
def lapOf (prev call : K × K) : Option (K × K) :=
  if 0 < call.1 ∧ call.2 < prev.2 ∧ 0 ≤ call.2 then some (call.1, prev.2 - call.2) else none

theorem eq_of_lapOf {prev call lap : K × K} (h : lapOf prev call = some lap) :
    lap = (call.1, prev.2 - call.2) := by
  unfold lapOf at h
  split at h
  · exact (Option.some.inj h).symm
  · contradiction

/-- One lap for each valid pair of a call and the call before it. -/
def validLaps (calls : List (K × K)) : List (K × K) :=
  (calls.zip calls.tail).filterMap fun p => lapOf p.1 p.2

def nextLap (calls : List (K × K)) (call : K × K) : Option (K × K) :=
  calls.getLast?.bind fun prev => lapOf prev call

theorem validLaps_concat (calls : List (K × K)) (call : K × K) :
    validLaps (calls ++ [call]) = validLaps calls ++ (nextLap calls call).toList := by
  unfold validLaps nextLap
  induction calls with
  | nil => simp
  | cons a calls ih =>
    cases calls with
    | nil => cases h : lapOf a call <;> simp [h]
    | cons b calls =>
      simp only [List.cons_append, List.tail_cons, List.zip_cons_cons, List.filterMap_cons,
        List.getLast?_cons_cons] at ih ⊢
      cases lapOf a b with
      | none => exact ih
      | some lap => simp [ih]

/-- The level that the next call is compared with. -/
def lastLevel (calls : List (K × K)) : K :=
  match calls.getLast? with
  | none => -1
  | some prev => if prev.2 < 0 then -1 else prev.2

theorem lastLevel_concat (calls : List (K × K)) (call : K × K) :
    lastLevel (calls ++ [call]) = if call.2 < 0 then -1 else call.2 := by
  simp [lastLevel]

/-! ## The invariant -/

/-- The object after the calls, from lists that held the loaded pairs. -/
structure HistoryOf (loaded calls : List (K × K)) (d : LapFuelData K) : Prop where
  lastFuel : d.mLastFuelValue = lastLevel calls
  length : d.mDataLapTimeList.length = d.mDataLapFuelList.length
  suffix : d.mDataLapTimeList.zip d.mDataLapFuelList <:+ loaded ++ validLaps calls

theorem history_reset [FloorRing K] (s : State K) (status : FileStatus) (track car : Str)
    (h : (step s (.resetSessionData status track car)).data.mDataLapTimeList.length =
      (step s (.resetSessionData status track car)).data.mDataLapFuelList.length) :
    HistoryOf ((step s (.resetSessionData status track car)).data.mDataLapTimeList.zip
      (step s (.resetSessionData status track car)).data.mDataLapFuelList) []
      (step s (.resetSessionData status track car)).data := by
  refine ⟨?_, h, by simp [validLaps]⟩
  simp only [step, resetSessionData, loadSessionData, lastLevel, List.getLast?_nil]
  split
  · split
    · split <;> rfl
    · rfl
  · rfl

/-! ## One call -/

variable [IsStrictOrderedRing K]

/-- An unknown level is below every level, so it needs no case of its own. -/
theorem nextLap_eq (calls : List (K × K)) (call : K × K) :
    nextLap calls call =
      if 0 < call.1 ∧ call.2 < lastLevel calls ∧ 0 ≤ call.2 then
        some (call.1, lastLevel calls - call.2) else none := by
  have hneg : ∀ x : K, 0 ≤ x → ¬ x < -1 := fun x hx => by linarith
  unfold nextLap lastLevel
  cases calls.getLast? with
  | none =>
    rw [Option.bind_none, if_neg]
    rintro ⟨-, h, h0⟩
    exact hneg _ h0 h
  | some prev =>
    simp only [Option.bind_some, lapOf]
    by_cases hprev : prev.2 < 0
    · have h1 : ¬ (0 < call.1 ∧ call.2 < prev.2 ∧ 0 ≤ call.2) := by
        rintro ⟨-, h, h0⟩
        linarith
      have h2 : ¬ (0 < call.1 ∧ call.2 < (if prev.2 < 0 then -1 else prev.2) ∧ 0 ≤ call.2) := by
        rw [if_pos hprev]
        rintro ⟨-, h, h0⟩
        exact hneg _ h0 h
      rw [if_neg h1, if_neg h2]
    · simp only [if_neg hprev]

theorem validLaps_pos (calls : List (K × K)) : ∀ lap ∈ validLaps calls, 0 < lap.1 ∧ 0 < lap.2 := by
  intro lap hlap
  obtain ⟨⟨prev, call⟩, -, hlap⟩ := List.mem_filterMap.mp hlap
  simp only [lapOf] at hlap
  split at hlap
  · rename_i h
    obtain rfl := Option.some.inj hlap
    exact ⟨h.1, sub_pos.mpr h.2.1⟩
  · simp at hlap

/-- `addLapData` adds the lap that the call ends, and nothing else. -/
theorem addLapData_eq (calls : List (K × K)) (d : LapFuelData K) (time fuel : K)
    (h : d.mLastFuelValue = lastLevel calls) :
    d.addLapData time fuel =
      match nextLap calls (time, fuel) with
      | none => (false, { d with mLastFuelValue := lastLevel (calls ++ [(time, fuel)]) })
      | some lap => (true, { d with
          mLastFuelValue := lastLevel (calls ++ [(time, fuel)])
          mDataLapTimeList := dropOldest d.mDataCountMax d.mDataLapTimeList ++ [lap.1]
          mDataLapFuelList := dropOldest d.mDataCountMax d.mDataLapFuelList ++ [lap.2] }) := by
  rw [nextLap_eq, lastLevel_concat]
  unfold addLapData
  by_cases hfuel : fuel < 0
  · rw [if_pos hfuel, if_pos hfuel, if_neg (fun hc => absurd hc.2.2 (not_le.mpr hfuel))]
  · rw [if_neg hfuel, if_neg hfuel]
    by_cases htime : time ≤ 0
    · rw [if_pos htime, if_neg (fun hc => absurd hc.1 (not_lt.mpr htime))]
    · rw [if_neg htime]
      by_cases hlast : fuel ≥ d.mLastFuelValue
      · rw [if_pos hlast, if_neg (fun hc => absurd hc.2.1 (not_lt.mpr (h ▸ hlast)))]
      · rw [if_neg hlast, if_pos ⟨not_le.mp htime, h ▸ not_le.mp hlast, not_lt.mp hfuel⟩, h]

theorem HistoryOf.addLapData {loaded calls : List (K × K)} {d : LapFuelData K}
    (h : HistoryOf loaded calls d) (time fuel : K) :
    HistoryOf loaded (calls ++ [(time, fuel)]) (d.addLapData time fuel).2 := by
  obtain ⟨hlast, hlen, hsuf⟩ := h
  rw [addLapData_eq calls d time fuel hlast]
  cases hlap : nextLap calls (time, fuel) with
  | none => exact ⟨rfl, hlen, by rwa [validLaps_concat, hlap, Option.toList_none, List.append_nil]⟩
  | some lap =>
    refine ⟨rfl, by simp [length_dropOldest _ _ _ hlen], ?_⟩
    simp only
    rw [List.zip_append (length_dropOldest _ _ _ hlen), validLaps_concat, hlap, ← List.append_assoc]
    obtain ⟨l, hl⟩ := (zip_dropOldest d.mDataCountMax _ _ hlen).trans hsuf
    exact ⟨l, by rw [← hl]; simp⟩

variable [FloorRing K]

/-! ## Runs -/

def InSession : Event K → Prop
  | .resetSessionData .. => False
  | .restart => False
  | _ => True

instance : DecidablePred (InSession (K := K)) := fun e => by
  cases e <;> simp only [InSession] <;> infer_instance

def callsOf (es : List (Event K)) : List (K × K) :=
  es.filterMap fun
    | .addLapData time fuel => some (time, fuel)
    | _ => none

theorem HistoryOf.run {loaded : List (K × K)} (es : List (Event K)) (hes : ∀ e ∈ es, InSession e)
    (calls : List (K × K)) (s : State K) (h : HistoryOf loaded calls s.data) :
    HistoryOf loaded (calls ++ callsOf es) (Run.run step s es).data := by
  induction es generalizing calls s with
  | nil => simpa [callsOf] using h
  | cons e es ih =>
    have hes' : ∀ e ∈ es, InSession e := fun d hd => hes d (by simp [hd])
    rw [run_cons]
    cases e with
    | addLapData time fuel =>
      have hstep := ih hes' _ (step s (.addLapData time fuel)) (h.addLapData time fuel)
      simpa [callsOf] using hstep
    | calcOptimal maxFuel => exact ih hes' _ _ ⟨h.lastFuel, h.length, h.suffix⟩
    | saveCurrentSessionData status => exact ih hes' _ _ h
    | removeFile name => exact ih hes' _ _ h
    | resetSessionData status track car => exact (hes _ List.mem_cons_self).elim
    | restart => exact (hes _ List.mem_cons_self).elim

/-- **Lap history.** From a reset that loads lists of one length, at every moment the lists
are the last of the loaded pairs and the valid laps, and `addLapData` says which are added: each at
the end. -/
theorem lap_history (s : State K) (status : FileStatus) (track car : Str) (es : List (Event K))
    (hes : ∀ e ∈ es, InSession e)
    (hload : (step s (.resetSessionData status track car)).data.mDataLapTimeList.length =
      (step s (.resetSessionData status track car)).data.mDataLapFuelList.length) :
    let s₀ := step s (.resetSessionData status track car)
    let d := (run step s₀ es).data
    d.mDataLapTimeList.length = d.mDataLapFuelList.length ∧
    d.mDataLapTimeList.zip d.mDataLapFuelList <:+
      s₀.data.mDataLapTimeList.zip s₀.data.mDataLapFuelList ++ validLaps (callsOf es) ∧
    (∀ lap ∈ validLaps (callsOf es), 0 < lap.1 ∧ 0 < lap.2) ∧
    (∀ time fuel, (d.addLapData time fuel).1 = true ↔
      ∃ prev, (callsOf es).getLast? = some prev ∧ 0 < time ∧ fuel < prev.2 ∧ 0 ≤ fuel) ∧
    ∀ time fuel, (d.addLapData time fuel).1 = true →
      ∃ prev, (callsOf es).getLast? = some prev ∧
        (d.addLapData time fuel).2.mDataLapTimeList =
          dropOldest d.mDataCountMax d.mDataLapTimeList ++ [time] ∧
        (d.addLapData time fuel).2.mDataLapFuelList =
          dropOldest d.mDataCountMax d.mDataLapFuelList ++ [prev.2 - fuel] := by
  have h := (history_reset s status track car hload).run es hes []
  rw [List.nil_append] at h
  refine ⟨h.length, h.suffix, validLaps_pos _, fun time fuel => ?_, fun time fuel => ?_⟩
  · rw [addLapData_eq _ _ time fuel h.lastFuel, nextLap]
    cases (callsOf es).getLast? with
    | none => simp
    | some prev =>
      simp only [Option.bind_some, lapOf, Option.some.injEq, exists_eq_left']
      split <;> simp_all
  · rw [addLapData_eq _ _ time fuel h.lastFuel]
    cases hnext : nextLap (callsOf es) (time, fuel) with
    | none => simp
    | some lap =>
      obtain ⟨prev, hprev, hlap⟩ := Option.bind_eq_some_iff.mp hnext
      obtain rfl := eq_of_lapOf hlap
      exact fun _ => ⟨prev, hprev, rfl, rfl⟩

def sampleStart : State ℚ := .init "irPitCrew".toList {}

def sampleEvents : List (Event ℚ) :=
  [.addLapData 91 50, .addLapData 90 48, .calcOptimal 60, .addLapData (-1) 47,
   .saveCurrentSessionData {}, .addLapData 92 45]

theorem lap_history_sample :
    let s₀ := step sampleStart (.resetSessionData {} "spa".toList "mx5".toList)
    let d := (run step s₀ sampleEvents).data
    d.mDataLapTimeList.length = d.mDataLapFuelList.length ∧
    d.mDataLapTimeList.zip d.mDataLapFuelList <:+
      s₀.data.mDataLapTimeList.zip s₀.data.mDataLapFuelList ++ [(90, 2), (92, 2)] ∧
    d.mDataLapTimeList.zip d.mDataLapFuelList = [(90, 2), (92, 2)] := by
  have h := lap_history sampleStart {} "spa".toList "mx5".toList sampleEvents (by decide)
    (by decide +kernel)
  have hlaps : validLaps (callsOf sampleEvents) = [(90, 2), (92, 2)] := by decide +kernel
  rw [hlaps] at h
  exact ⟨h.1, h.2.1, by decide +kernel⟩

end IrPitCrew.LapFuel.History
