import IrPitCrew.LapFuel.LapFuelData
import Mathlib.Data.Rat.Floor

/-!
# Where the loaded laps come from

Each lap is added under the car and track of that moment. As long as no two pairs
of names used in a run share a file, a file holds only laps of its own pair.
-/

open IrPitCrew.Text IrPitCrew.Decimal IrPitCrew.Run IrPitCrew.LapFuel.LapFuelData

namespace IrPitCrew.LapFuel.Files

variable {K : Type*} [Field K] [LinearOrder K] [FloorRing K]

/-! ## The laps added in a run -/

structure AddedLap (K : Type*) where
  track : Str
  car : Str
  time : K
  fuel : K
  deriving DecidableEq

def lapsOfStep (s : State K) : Event K → List (AddedLap K)
  | .addLapData time fuel =>
    if (s.data.addLapData time fuel).1 then
      [⟨s.data.mCurrentTrack, s.data.mCurrentCar, time, s.data.mLastFuelValue - fuel⟩]
    else []
  | _ => []

def addedLaps : State K → List (Event K) → List (AddedLap K)
  | _, [] => []
  | s, e :: es => lapsOfStep s e ++ addedLaps (step s e) es

/-- No two pairs of names share a file. A pair with an empty name has no file. -/
def DistinctFiles (strLapDataDir : Str) (fileKey : Str → Str) (pairs : List (Str × Str)) : Prop :=
  ∀ p ∈ pairs, ∀ q ∈ pairs, p.1 ≠ [] → p.2 ≠ [] → q.1 ≠ [] → q.2 ≠ [] →
    fileKey (sessionFileName strLapDataDir p.1 p.2) = fileKey (sessionFileName strLapDataDir q.1 q.2) →
    p = q

/-- The event is no reset, or one to a pair of the list or without a name. -/
def NamesPair (pairs : List (Str × Str)) : Event K → Prop
  | .resetSessionData _ track car => track = [] ∨ car = [] ∨ (track, car) ∈ pairs
  | _ => True

/-! ## Values of a pair -/

/-- Each value prints like one of a lap added under the pair. -/
def From (laps : List (AddedLap K)) (track car : Str) (times fuels : List K) : Prop :=
  (∀ x ∈ times, ∃ lap ∈ laps, lap.track = track ∧ lap.car = car ∧ roundSix x = roundSix lap.time) ∧
  ∀ x ∈ fuels, ∃ lap ∈ laps, lap.track = track ∧ lap.car = car ∧ roundSix x = roundSix lap.fuel

theorem From.nil (laps : List (AddedLap K)) (track car : Str) : From laps track car [] [] := by
  simp [From]

theorem From.mono {laps : List (AddedLap K)} {track car : Str} {times fuels : List K}
    (h : From laps track car times fuels) (more : List (AddedLap K)) : From (laps ++ more) track car times fuels := by
  obtain ⟨ht, hf⟩ := h
  constructor
  · intro x hx
    obtain ⟨lap, hlap, hrest⟩ := ht x hx
    exact ⟨lap, List.mem_append_left _ hlap, hrest⟩
  · intro x hx
    obtain ⟨lap, hlap, hrest⟩ := hf x hx
    exact ⟨lap, List.mem_append_left _ hlap, hrest⟩

theorem From.concat {laps : List (AddedLap K)} {lap : AddedLap K} {times fuels times' fuels' : List K}
    (h : From laps lap.track lap.car times fuels)
    (ht : ∀ x ∈ times', x ∈ times ∨ x = lap.time) (hf : ∀ x ∈ fuels', x ∈ fuels ∨ x = lap.fuel) :
    From (laps ++ [lap]) lap.track lap.car times' fuels' := by
  obtain ⟨h1, h2⟩ := h.mono [lap]
  constructor
  · intro x hx
    rcases ht x hx with hx | rfl
    · exact h1 x hx
    · exact ⟨lap, by simp, rfl, rfl, rfl⟩
  · intro x hx
    rcases hf x hx with hx | rfl
    · exact h2 x hx
    · exact ⟨lap, by simp, rfl, rfl, rfl⟩

/-! ## The invariant -/

variable (strLapDataDir : Str) (fileKey : Str → Str) (pairs : List (Str × Str))

/-- The lists hold values of the current pair, and each pair's file values of that pair. -/
structure Own (laps : List (AddedLap K)) (s : State K) : Prop where
  dir : s.data.mStrLapDataDir = strLapDataDir
  key : s.disk.fileKey = fileKey
  current : s.data.mCurrentTrack = [] ∨ s.data.mCurrentCar = [] ∨
    (s.data.mCurrentTrack, s.data.mCurrentCar) ∈ pairs
  lists : From laps s.data.mCurrentTrack s.data.mCurrentCar s.data.mDataLapTimeList
    s.data.mDataLapFuelList
  files : ∀ p ∈ pairs, p.1 ≠ [] → p.2 ≠ [] → ∀ text, s.disk.read (sessionFileName strLapDataDir p.1 p.2) = some text →
    ∃ times fuels, text = sessionText times fuels ∧ From laps p.1 p.2 times fuels

variable {strLapDataDir fileKey pairs}

theorem Own.write {laps : List (AddedLap K)} {s : State K}
    (hd : DistinctFiles strLapDataDir fileKey pairs) (h : Own strLapDataDir fileKey pairs laps s)
    (ht : s.data.mCurrentTrack ≠ []) (hc : s.data.mCurrentCar ≠ []) :
    Own strLapDataDir fileKey pairs laps { s with
      disk := s.disk.write (s.data.getSessionDataFileName s.data.mCurrentTrack s.data.mCurrentCar)
        (sessionText s.data.mDataLapTimeList s.data.mDataLapFuelList) } := by
  obtain ⟨hdir, hkey, hcur, hlists, hfiles⟩ := h
  have hmem : (s.data.mCurrentTrack, s.data.mCurrentCar) ∈ pairs :=
    (hcur.resolve_left ht).resolve_left hc
  refine ⟨hdir, hkey, hcur, hlists, fun p hp hp1 hp2 text htext => ?_⟩
  simp only [Disk.read, Disk.write, Function.update_apply, getSessionDataFileName, hdir] at htext
  split at htext
  · rename_i hsame
    rw [hkey] at hsame
    obtain rfl := hd p hp _ hmem hp1 hp2 ht hc hsame
    exact ⟨_, _, (Option.some.inj htext).symm, hlists⟩
  · exact hfiles p hp hp1 hp2 text htext

theorem Own.save {laps : List (AddedLap K)} {s : State K}
    (hd : DistinctFiles strLapDataDir fileKey pairs) (h : Own strLapDataDir fileKey pairs laps s)
    (status : FileStatus) :
    Own strLapDataDir fileKey pairs laps { s with
      disk := s.data.saveSessionData status s.disk s.data.mCurrentTrack s.data.mCurrentCar } := by
  rcases s.data.saveSessionData_cases status s.disk s.data.mCurrentTrack s.data.mCurrentCar with
    heq | ⟨ht, hc, heq⟩
  · rw [heq]; exact h
  · rw [heq]; exact h.write hd ht hc

/-- What a reset loads for a used pair was added under that pair. -/
theorem Own.loadedLists {laps : List (AddedLap K)} {s : State K}
    (h : Own strLapDataDir fileKey pairs laps s) (status : FileStatus) (track car : Str)
    (hmem : track = [] ∨ car = [] ∨ (track, car) ∈ pairs) :
    ∃ times fuels, From laps track car times fuels ∧
      s.data.loadedLists status s.disk track car = (times.map roundSix, fuels.map roundSix) := by
  unfold LapFuelData.loadedLists
  split
  · rename_i hne
    have hp := (hmem.resolve_left hne.1).resolve_left hne.2.1
    rw [getSessionDataFileName, h.dir]
    cases hread : s.disk.read (sessionFileName strLapDataDir track car) with
    | none => exact ⟨[], [], From.nil .., rfl⟩
    | some text =>
      obtain ⟨times, fuels, rfl, hfrom⟩ := h.files _ hp hne.1 hne.2.1 text hread
      exact ⟨times, fuels, hfrom, parseSession_sessionText times fuels⟩
  · exact ⟨[], [], From.nil .., rfl⟩

theorem Own.addLapData {laps : List (AddedLap K)} {s : State K}
    (h : Own strLapDataDir fileKey pairs laps s) (time fuel : K) :
    Own strLapDataDir fileKey pairs (laps ++ lapsOfStep s (.addLapData time fuel))
      (step s (.addLapData time fuel)) := by
  obtain ⟨hdir, hkey, hcur, hlists, hfiles⟩ := h
  have hfiles' : ∀ more, ∀ p ∈ pairs, p.1 ≠ [] → p.2 ≠ [] → ∀ text,
      s.disk.read (sessionFileName strLapDataDir p.1 p.2) = some text →
      ∃ times fuels, text = sessionText times fuels ∧ From (laps ++ more) p.1 p.2 times fuels := by
    intro more p hp hp1 hp2 text htext
    obtain ⟨times, fuels, heq, hfrom⟩ := hfiles p hp hp1 hp2 text htext
    exact ⟨times, fuels, heq, hfrom.mono more⟩
  simp only [step, lapsOfStep, LapFuelData.addLapData]
  split
  · exact ⟨hdir, hkey, hcur, hlists.mono _, hfiles' _⟩
  · split
    · exact ⟨hdir, hkey, hcur, hlists.mono _, hfiles' _⟩
    · split
      · exact ⟨hdir, hkey, hcur, hlists.mono _, hfiles' _⟩
      · refine ⟨hdir, hkey, hcur, ?_, hfiles' _⟩
        rw [if_pos rfl]
        exact From.concat hlists (fun _ hx => mem_dropOldest_concat hx)
          (fun _ hx => mem_dropOldest_concat hx)

variable [IsStrictOrderedRing K]

theorem Own.resetSessionData {laps : List (AddedLap K)} {s : State K}
    (hd : DistinctFiles strLapDataDir fileKey pairs) (h : Own strLapDataDir fileKey pairs laps s)
    (status : FileStatus) (track car : Str) (hmem : track = [] ∨ car = [] ∨ (track, car) ∈ pairs) :
    Own strLapDataDir fileKey pairs laps (step s (.resetSessionData status track car)) := by
  have hsaved := h.save hd status
  obtain ⟨times, fuels, ⟨ht, hf⟩, hload⟩ := hsaved.loadedLists status track car hmem
  have hdata := s.data.resetSessionData_data status s.disk track car
  simp only [step]
  rw [hdata]
  refine ⟨h.dir, hsaved.key, hmem, ?_, hsaved.files⟩
  simp only at hload ⊢
  rw [hload]
  constructor
  · intro x hx
    obtain ⟨t, hmemt, rfl⟩ := List.mem_map.mp hx
    rw [roundSix_roundSix]
    exact ht t hmemt
  · intro x hx
    obtain ⟨f, hmemf, rfl⟩ := List.mem_map.mp hx
    rw [roundSix_roundSix]
    exact hf f hmemf

theorem own_step (hd : DistinctFiles strLapDataDir fileKey pairs) (laps : List (AddedLap K))
    (s : State K) (e : Event K) (he : NamesPair pairs e)
    (h : Own strLapDataDir fileKey pairs laps s) :
    Own strLapDataDir fileKey pairs (laps ++ lapsOfStep s e) (step s e) := by
  cases e with
  | addLapData time fuel => exact h.addLapData time fuel
  | resetSessionData status track car =>
    simp only [lapsOfStep, List.append_nil]
    exact h.resetSessionData hd status track car he
  | saveCurrentSessionData status =>
    simp only [lapsOfStep, List.append_nil]
    simp only [step]
    rcases s.data.saveCurrentSessionData_cases status s.disk with heq | ⟨ht, hc, heq⟩
    · rw [heq]; exact h
    · rw [heq]; exact h.write hd ht hc
  | calcOptimal maxFuel =>
    simp only [lapsOfStep, List.append_nil]
    exact ⟨h.dir, h.key, h.current, h.lists, h.files⟩
  | restart =>
    simp only [lapsOfStep, List.append_nil]
    exact ⟨h.dir, h.key, .inl rfl, From.nil .., h.files⟩
  | removeFile name =>
    simp only [lapsOfStep, List.append_nil]
    refine ⟨h.dir, h.key, h.current, h.lists, fun p hp hp1 hp2 text htext => ?_⟩
    simp only [step, Disk.read, Disk.remove, Function.update_apply] at htext
    split at htext
    · simp at htext
    · exact h.files p hp hp1 hp2 text htext

theorem own_run (hd : DistinctFiles strLapDataDir fileKey pairs) (es : List (Event K))
    (hes : ∀ e ∈ es, NamesPair pairs e) (laps : List (AddedLap K)) (s : State K)
    (h : Own strLapDataDir fileKey pairs laps s) :
    Own strLapDataDir fileKey pairs (laps ++ addedLaps s es) (run step s es) := by
  induction es generalizing laps s with
  | nil => simpa [addedLaps] using h
  | cons e es ih =>
    have hstep := own_step hd laps s e (hes e (by simp)) h
    have hrun := ih (fun d hd' => hes d (by simp [hd'])) _ _ hstep
    rwa [List.append_assoc] at hrun

/-! ## Runs from an empty directory -/

/-- Each reset loads values of laps that were added before under its own pair. -/
def LoadsOwnLaps (s : State K) (es : List (Event K)) : Prop :=
  ∀ before status track car after, es = before ++ .resetSessionData status track car :: after →
    let d := (step (run step s before) (.resetSessionData status track car)).data
    (∀ x ∈ d.mDataLapTimeList, ∃ lap ∈ addedLaps s before,
      lap.track = track ∧ lap.car = car ∧ x = roundSix lap.time) ∧
    ∀ x ∈ d.mDataLapFuelList, ∃ lap ∈ addedLaps s before,
      lap.track = track ∧ lap.car = car ∧ x = roundSix lap.fuel

/-- A save under one pair does not change what a reset to another pair of the list loads. -/
def SavesKeepApart (pairs : List (Str × Str)) (s : State K) (es : List (Event K)) : Prop :=
  ∀ before after, es = before ++ after → ∀ p ∈ pairs,
    let t := run step s before
    (t.data.mCurrentTrack, t.data.mCurrentCar) ≠ p → ∀ status loadStatus,
      t.data.loadedLists loadStatus (t.data.saveSessionData status t.disk t.data.mCurrentTrack
        t.data.mCurrentCar) p.1 p.2 =
      t.data.loadedLists loadStatus t.disk p.1 p.2

omit [IsStrictOrderedRing K] in
theorem own_init (strDataDir : Str) : Own (strDataDir ++ "\\LapData".toList) fileKey pairs []
    (State.init strDataDir { fileKey } : State K) :=
  ⟨rfl, rfl, .inl rfl, From.nil .., fun _ _ _ _ _ h => absurd h (by simp [State.init, Disk.read])⟩

theorem Own.loadsOwnLaps {s : State K} {es : List (Event K)}
    (hd : DistinctFiles strLapDataDir fileKey pairs) (h : Own strLapDataDir fileKey pairs [] s)
    (hes : ∀ e ∈ es, NamesPair pairs e) : LoadsOwnLaps s es := by
  rintro before status track car after rfl
  have hown := own_run hd before (fun e he => hes e (by simp [he])) [] s h
  rw [List.nil_append] at hown
  obtain ⟨times, fuels, ⟨ht, hf⟩, hload⟩ := (hown.save hd status).loadedLists status track car
    (hes (.resetSessionData status track car) (by simp))
  have hdata := (run step s before).data.resetSessionData_data status (run step s before).disk track car
  simp only at hload
  simp only [step]
  rw [hdata, hload]
  constructor
  · intro x hx
    obtain ⟨t, hmemt, rfl⟩ := List.mem_map.mp hx
    exact ht t hmemt
  · intro x hx
    obtain ⟨f, hmemf, rfl⟩ := List.mem_map.mp hx
    exact hf f hmemf

theorem Own.savesKeepApart {s : State K} {es : List (Event K)}
    (hd : DistinctFiles strLapDataDir fileKey pairs) (h : Own strLapDataDir fileKey pairs [] s)
    (hes : ∀ e ∈ es, NamesPair pairs e) : SavesKeepApart pairs s es := by
  rintro before after rfl p hp t hne status loadStatus
  have hown := own_run hd before (fun e he => hes e (by simp [he])) [] s h
  rcases t.data.saveSessionData_cases status t.disk t.data.mCurrentTrack t.data.mCurrentCar with
    heq | ⟨ht, hc, heq⟩
  · rw [heq]
  · rw [heq]
    have hmem := (hown.current.resolve_left ht).resolve_left hc
    unfold LapFuelData.loadedLists
    split
    · rename_i hnames
      -- Another key, so the write is not seen.
      have hkey : t.disk.fileKey (sessionFileName t.data.mStrLapDataDir p.1 p.2) ≠
          t.disk.fileKey (sessionFileName t.data.mStrLapDataDir t.data.mCurrentTrack
            t.data.mCurrentCar) := by
        rw [hown.dir, hown.key]
        intro hsame
        exact hne (hd p hp _ hmem hnames.1 hnames.2.1 ht hc hsame).symm
      simp only [Disk.read, Disk.write, getSessionDataFileName, Function.update_apply, if_neg hkey]
    · rfl

/-! ## Two pairs that share a file -/

def oneLapEvents (p : Str × Str) : List (Event K) :=
  [.resetSessionData {} p.1 p.2, .addLapData 90 50, .addLapData 91 48]

def oneLapState (strDataDir : Str) (fileKey : Str → Str) (p : Str × Str) : State K where
  data := {
    mStrLapDataDir := strDataDir ++ "\\LapData".toList
    mCurrentTrack := p.1
    mCurrentCar := p.2
    mLastFuelValue := 48
    mDataLapTimeList := [91]
    mDataLapFuelList := [50 - 48] }
  disk := { fileKey }

theorem run_oneLapEvents (strDataDir : Str) (fileKey : Str → Str) (p : Str × Str) (h1 : p.1 ≠ []) (h2 : p.2 ≠ []) :
    run step (State.init strDataDir { fileKey } : State K) (oneLapEvents p) =
      oneLapState strDataDir fileKey p ∧
    addedLaps (State.init strDataDir { fileKey } : State K) (oneLapEvents p) =
      [⟨p.1, p.2, 91, 50 - 48⟩] := by
  have h50 : ¬ (50 : K) < 0 := by norm_num
  have h90 : ¬ (90 : K) ≤ 0 := by norm_num
  have hfirst : (50 : K) ≥ -1 := by norm_num
  have h48 : ¬ (48 : K) < 0 := by norm_num
  have h91 : ¬ (91 : K) ≤ 0 := by norm_num
  have hless : ¬ (48 : K) ≥ 50 := by norm_num
  constructor <;>
    simp [oneLapEvents, oneLapState, addedLaps, lapsOfStep, step, State.init, LapFuelData.new,
      resetSessionData, saveSessionData, loadSessionData, Disk.read, LapFuelData.addLapData,
      dropOldest, h1, h2, h50, h90, hfirst, h48, h91, hless]

omit [IsStrictOrderedRing K] in
theorem reset_oneLapState (strDataDir : Str) (p q : Str × Str)
    (hp : p.1 ≠ [] ∧ p.2 ≠ []) (hq : q.1 ≠ [] ∧ q.2 ≠ [])
    (hsame : fileKey (sessionFileName (strDataDir ++ "\\LapData".toList) p.1 p.2) =
      fileKey (sessionFileName (strDataDir ++ "\\LapData".toList) q.1 q.2)) :
    (step (oneLapState strDataDir fileKey p : State K)
      (.resetSessionData {} q.1 q.2)).data.mDataLapTimeList = [roundSix 91] := by
  have hsave : (oneLapState strDataDir fileKey p : State K).data.saveSessionData {}
      (oneLapState strDataDir fileKey p : State K).disk p.1 p.2 =
      ({ fileKey } : Disk).write (sessionFileName (strDataDir ++ "\\LapData".toList) p.1 p.2)
        (sessionText [91] [(50 - 48 : K)]) := by
    simp [oneLapState, saveSessionData, getSessionDataFileName, hp]
  have hread : (({ fileKey } : Disk).write (sessionFileName (strDataDir ++ "\\LapData".toList) p.1 p.2)
      (sessionText [91] [(50 - 48 : K)])).read
      (sessionFileName (strDataDir ++ "\\LapData".toList) q.1 q.2) =
      some (sessionText [91] [(50 - 48 : K)]) := by
    simp only [Disk.read, Disk.write]
    rw [hsame, Function.update_self]
  have hdata := (oneLapState strDataDir fileKey p : State K).data.resetSessionData_data {}
    (oneLapState strDataDir fileKey p : State K).disk q.1 q.2
  simp only [step]
  rw [hdata]
  change ((oneLapState strDataDir fileKey p : State K).data.loadedLists {}
    ((oneLapState strDataDir fileKey p : State K).data.saveSessionData {}
      (oneLapState strDataDir fileKey p : State K).disk p.1 p.2) q.1 q.2).1 = _
  rw [hsave, LapFuelData.loadedLists, if_pos ⟨hq.1, hq.2, rfl⟩]
  change ((Disk.read _ (sessionFileName (strDataDir ++ "\\LapData".toList) q.1 q.2)).map
    parseSession |>.getD ([], [])).1 = _
  rw [hread, Option.map_some, Option.getD_some, parseSession_sessionText]
  rfl

/-- **Own files.** The runs over the pairs all keep the laps apart exactly when no two of the
pairs share a file. -/
theorem laps_apart_iff (strDataDir : Str) (fileKey : Str → Str) (pairs : List (Str × Str)) :
    DistinctFiles (strDataDir ++ "\\LapData".toList) fileKey pairs ↔
    ∀ es : List (Event K), (∀ e ∈ es, NamesPair pairs e) →
      LoadsOwnLaps (State.init strDataDir { fileKey }) es ∧
      SavesKeepApart pairs (State.init strDataDir { fileKey }) es := by
  constructor
  · intro hd es hes
    exact ⟨(own_init strDataDir).loadsOwnLaps hd hes, (own_init strDataDir).savesKeepApart hd hes⟩
  · intro h p hp q hq hp1 hp2 hq1 hq2 hsame
    have hes : ∀ e ∈ oneLapEvents p ++ [.resetSessionData {} q.1 q.2], NamesPair (K := K) pairs e := by
      intro e he
      simp only [oneLapEvents, List.cons_append, List.nil_append, List.mem_cons, List.not_mem_nil,
        or_false] at he
      rcases he with rfl | rfl | rfl | rfl
      · exact .inr (.inr hp)
      · trivial
      · trivial
      · exact .inr (.inr hq)
    obtain ⟨ht, -⟩ := (h _ hes).1 (oneLapEvents p) {} q.1 q.2 [] rfl
    obtain ⟨hrun, hlaps⟩ := run_oneLapEvents (K := K) strDataDir fileKey p hp1 hp2
    rw [hrun, reset_oneLapState strDataDir p q ⟨hp1, hp2⟩ ⟨hq1, hq2⟩ hsame, hlaps] at ht
    obtain ⟨lap, hlap, htrack, hcar, -⟩ := ht _ List.mem_cons_self
    rw [List.mem_singleton.mp hlap] at htrack hcar
    exact Prod.ext htrack hcar

def samplePairs : List (Str × Str) := [("spa".toList, "gt3".toList), ("monza".toList, "gt3".toList)]

def sampleEvents : List (Event ℚ) :=
  [.resetSessionData {} "spa".toList "gt3".toList, .addLapData 90 50, .addLapData 91 48,
   .resetSessionData {} "monza".toList "gt3".toList]

theorem laps_apart_sample :
    LoadsOwnLaps (State.init "irPitCrew".toList {}) sampleEvents ∧
    SavesKeepApart samplePairs (State.init "irPitCrew".toList {}) sampleEvents :=
  (laps_apart_iff "irPitCrew".toList id samplePairs).mp (by unfold DistinctFiles; decide +kernel)
    sampleEvents (by simp [sampleEvents, samplePairs, NamesPair])

/-- Car `a` on track `b_c`, then car `a_b` on track `c`: both have the file `a_b_c.txt`. -/
def mixedEvents : List (Event ℚ) :=
  [.resetSessionData {} "b_c".toList "a".toList, .addLapData 90 50, .addLapData 91 48,
   .resetSessionData {} "c".toList "a_b".toList]

theorem mixed_laps_loaded : ¬ LoadsOwnLaps (.init "irPitCrew".toList {}) mixedEvents := by
  intro h
  obtain ⟨ht, -⟩ := h (mixedEvents.take 3) {} "c".toList "a_b".toList [] rfl
  obtain ⟨lap, hlap, htrack, -⟩ := ht 91 (by decide +kernel)
  have hother : ∀ lap ∈ addedLaps (.init "irPitCrew".toList {}) (mixedEvents.take 3),
      lap.track ≠ "c".toList := by decide +kernel
  exact hother lap hlap htrack

end IrPitCrew.LapFuel.Files
