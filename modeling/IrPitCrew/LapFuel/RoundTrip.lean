import IrPitCrew.LapFuel.LapFuelData
import Mathlib.Data.Rat.Floor

/-!
# Saving and loading a session

A file gives back the lists rounded to six digits, and the rounded lists are
written as the same file. So a session that is left and joined again any number of
times keeps its laps, and they are rounded once.
-/

open IrPitCrew.Text IrPitCrew.Decimal IrPitCrew.Run IrPitCrew.LapFuel.LapFuelData

namespace IrPitCrew.LapFuel.RoundTrip

variable {K : Type*} [Field K] [LinearOrder K] [FloorRing K]

/-! ## One save and one load -/

/-- The directory is there, and the files open. -/
def AllOpen (status : FileStatus) : Prop :=
  status.dataDirectoryExists = true ∧ status.outputOpens = true ∧ status.inputOpens = true

theorem saveSessionData_eq {status : FileStatus} (hok : AllOpen status) (d : LapFuelData K)
    (disk : Disk) {track car : Str} (htrack : track ≠ []) (hcar : car ≠ [])
    (htimes : d.mDataLapTimeList ≠ []) (hfuels : d.mDataLapFuelList ≠ []) :
    d.saveSessionData status disk track car =
      disk.write (d.getSessionDataFileName track car)
        (sessionText d.mDataLapTimeList d.mDataLapFuelList) := by
  obtain ⟨hdir, hout, -⟩ := hok
  rw [saveSessionData, if_pos ⟨hdir, htrack, hcar, htimes, hfuels⟩, if_pos hout]

theorem read_write_self (disk : Disk) (name text : Str) :
    (disk.write name text).read name = some text := by
  simp [Disk.read, Disk.write]

theorem read_saveSessionData_of_ne (d : LapFuelData K) (status : FileStatus) (disk : Disk)
    (track car name : Str)
    (h : track ≠ [] → car ≠ [] → disk.fileKey name ≠ disk.fileKey (d.getSessionDataFileName track car)) :
    (d.saveSessionData status disk track car).read name = disk.read name := by
  rcases d.saveSessionData_cases status disk track car with heq | ⟨htrack, hcar, heq⟩
  · rw [heq]
  · rw [heq]
    simp only [Disk.read, Disk.write]
    exact Function.update_of_ne (h htrack hcar) _ _

theorem fileKey_saveSessionData (d : LapFuelData K) (status : FileStatus) (disk : Disk)
    (track car : Str) : (d.saveSessionData status disk track car).fileKey = disk.fileKey := by
  rcases d.saveSessionData_cases status disk track car with heq | ⟨-, -, heq⟩
  · rw [heq]
  · rw [heq, Disk.write]

/-- The rounded lists are written as the same file. -/
theorem sessionText_roundSix [IsStrictOrderedRing K] (times fuels : List K) :
    sessionText (times.map roundSix) (fuels.map roundSix) = sessionText times fuels := by
  have hprint : printNumber ∘ (roundSix : K → K) = printNumber := funext printNumber_roundSix
  rw [sessionText, List.map_map, List.map_map, hprint, sessionText]

/-- A load into empty lists. -/
theorem loadSessionData_eq {status : FileStatus} (hok : AllOpen status) {empty : LapFuelData K}
    (htimes : empty.mDataLapTimeList = []) (hfuels : empty.mDataLapFuelList = []) {disk : Disk}
    {track car : Str} (htrack : track ≠ []) (hcar : car ≠ []) {times fuels : List K}
    (hread : disk.read (empty.getSessionDataFileName track car) = some (sessionText times fuels)) :
    empty.loadSessionData status disk track car =
      { empty with
        mDataLapTimeList := times.map roundSix
        mDataLapFuelList := fuels.map roundSix } := by
  rw [loadSessionData, if_pos ⟨htrack, hcar⟩, hread]
  simp only [if_pos hok.2.2, parseSession_sessionText, htimes, hfuels, List.nil_append]

/-! ## Leaving and joining again -/

/-- The session is joined, and its lists are written as the text. -/
structure Joined (dir track car text : Str) (fileKey : Str → Str) (s : State K) : Prop where
  dir : s.data.mStrLapDataDir = dir
  track : s.data.mCurrentTrack = track
  car : s.data.mCurrentCar = car
  times : s.data.mDataLapTimeList ≠ []
  fuels : s.data.mDataLapFuelList ≠ []
  text : sessionText s.data.mDataLapTimeList s.data.mDataLapFuelList = text
  key : s.disk.fileKey = fileKey

theorem names_of_reset (s : State K) (status : FileStatus) (track car : Str) :
    let t := step s (.resetSessionData status track car)
    t.data.mStrLapDataDir = s.data.mStrLapDataDir ∧ t.data.mCurrentTrack = track ∧
      t.data.mCurrentCar = car ∧ t.disk.fileKey = s.disk.fileKey := by
  intro t
  have hdata : t.data = _ := s.data.resetSessionData_data status s.disk track car
  rw [hdata]
  exact ⟨rfl, rfl, rfl, fileKey_saveSessionData _ _ _ _ _⟩

/-- The session is left, and its laps are in the file. -/
theorem Joined.leave {dir track car text : Str} {fileKey : Str → Str} {s : State K}
    (h : Joined dir track car text fileKey s) {status : FileStatus} (hok : AllOpen status)
    (htrack : track ≠ []) (hcar : car ≠ []) (other : Str × Str) :
    let t := step s (.resetSessionData status other.1 other.2)
    t.data.mStrLapDataDir = dir ∧ t.data.mCurrentTrack = other.1 ∧ t.data.mCurrentCar = other.2 ∧
      t.disk.fileKey = fileKey ∧ t.disk.read (sessionFileName dir track car) = some text := by
  intro t
  obtain ⟨hdir, hotrack, hocar, hkey⟩ := names_of_reset s status other.1 other.2
  have hdisk : t.disk = s.data.saveSessionData status s.disk track car := by
    rw [← h.track, ← h.car]
    rfl
  refine ⟨hdir.trans h.dir, hotrack, hocar, hkey.trans h.key, ?_⟩
  rw [hdisk, saveSessionData_eq hok _ _ htrack hcar h.times h.fuels, h.text, getSessionDataFileName,
    h.dir]
  exact read_write_self _ _ _

/-- A reset reads what is in the file, when the session before it has another one. -/
theorem lists_of_join {dir track car text : Str} {s : State K} {status : FileStatus}
    (hok : AllOpen status) (htrack : track ≠ []) (hcar : car ≠ []) (hdir : s.data.mStrLapDataDir = dir)
    (hread : s.disk.read (sessionFileName dir track car) = some text)
    (hother : s.data.mCurrentTrack ≠ [] → s.data.mCurrentCar ≠ [] →
      s.disk.fileKey (sessionFileName dir track car) ≠
        s.disk.fileKey (sessionFileName dir s.data.mCurrentTrack s.data.mCurrentCar)) :
    let t := step s (.resetSessionData status track car)
    t.data.mDataLapTimeList = (parseSession text).1 ∧ t.data.mDataLapFuelList = (parseSession text).2 ∧
      t.disk.read (sessionFileName dir track car) = some text := by
  intro t
  have hdata : t.data = _ := s.data.resetSessionData_data status s.disk track car
  have hkept : t.disk.read (sessionFileName dir track car) = some text := by
    rw [← hread, ← hdir]
    apply read_saveSessionData_of_ne
    rw [← hdir] at hother
    exact hother
  have hloaded : s.data.loadedLists status
      (s.data.saveSessionData status s.disk s.data.mCurrentTrack s.data.mCurrentCar) track car =
      parseSession text := by
    rw [loadedLists, if_pos ⟨htrack, hcar, hok.2.2⟩, getSessionDataFileName, hdir]
    change ((t.disk.read (sessionFileName dir track car)).map parseSession).getD ([], []) = _
    rw [hkept]
    rfl
  rw [hdata, hloaded]
  exact ⟨rfl, rfl, hkept⟩

variable [IsStrictOrderedRing K]

theorem Joined.leaveAndJoin {dir track car : Str} {times fuels : List K} {fileKey : Str → Str}
    {s : State K} (h : Joined dir track car (sessionText times fuels) fileKey s)
    {status : FileStatus} (hok : AllOpen status) (htrack : track ≠ []) (hcar : car ≠ [])
    (htimes : times ≠ []) (hfuels : fuels ≠ []) (other : Str × Str)
    (hother : other.1 ≠ [] → other.2 ≠ [] →
      fileKey (sessionFileName dir track car) ≠ fileKey (sessionFileName dir other.1 other.2)) :
    let t := step (step s (.resetSessionData status other.1 other.2))
      (.resetSessionData status track car)
    Joined dir track car (sessionText times fuels) fileKey t ∧
    t.data.mDataLapTimeList = times.map roundSix ∧ t.data.mDataLapFuelList = fuels.map roundSix ∧
    t.disk.read (sessionFileName dir track car) = some (sessionText times fuels) := by
  intro t
  obtain ⟨hdir, hotrack, hocar, hkey, hread⟩ := h.leave hok htrack hcar other
  obtain ⟨htime, hfuel, hkept⟩ := lists_of_join hok htrack hcar hdir hread
    (by rw [hotrack, hocar, hkey]; exact hother)
  rw [parseSession_sessionText] at htime hfuel
  obtain ⟨hdir', htrack', hcar', hkey'⟩ :=
    names_of_reset (step s (.resetSessionData status other.1 other.2)) status track car
  refine ⟨⟨hdir'.trans hdir, htrack', hcar', ?_, ?_, ?_, hkey'.trans hkey⟩, htime, hfuel, hkept⟩
  · rw [htime]
    exact fun hnil => htimes (List.map_eq_nil_iff.mp hnil)
  · rw [hfuel]
    exact fun hnil => hfuels (List.map_eq_nil_iff.mp hnil)
  · rw [htime, hfuel]
    exact sessionText_roundSix times fuels

/-- The session is left for each of the others, and joined again after each. -/
def switches (status : FileStatus) (track car : Str) (others : List (Str × Str)) : List (Event K) :=
  others.flatMap fun other =>
    [.resetSessionData status other.1 other.2, .resetSessionData status track car]

theorem Joined.switches {dir track car : Str} {times fuels : List K} {fileKey : Str → Str}
    {s : State K} (h : Joined dir track car (sessionText times fuels) fileKey s)
    {status : FileStatus} (hok : AllOpen status) (htrack : track ≠ []) (hcar : car ≠ [])
    (htimes : times ≠ []) (hfuels : fuels ≠ []) {others : List (Str × Str)} (hne : others ≠ [])
    (hothers : ∀ p ∈ others, p.1 ≠ [] → p.2 ≠ [] →
      fileKey (sessionFileName dir track car) ≠ fileKey (sessionFileName dir p.1 p.2)) :
    let t := run step s (RoundTrip.switches status track car others)
    t.data.mDataLapTimeList = times.map roundSix ∧ t.data.mDataLapFuelList = fuels.map roundSix ∧
    t.disk.read (sessionFileName dir track car) = some (sessionText times fuels) := by
  induction others generalizing s with
  | nil => exact absurd rfl hne
  | cons other others ih =>
    obtain ⟨hjoined, hrest⟩ := h.leaveAndJoin hok htrack hcar htimes hfuels other
      (hothers other List.mem_cons_self)
    cases others with
    | nil => exact hrest
    | cons next others =>
      exact ih hjoined (by simp) fun p hp => hothers p (List.mem_cons_of_mem _ hp)

/-- **Round trip.** A saved session loads as the same lists, rounded to six digits, these are saved
as the same file, and any number of switches to other sessions leaves them so. -/
theorem session_roundtrip (d : LapFuelData K) (disk : Disk) (status : FileStatus) (track car : Str)
    (hok : AllOpen status) (htrack : track ≠ []) (hcar : car ≠ [])
    (htimes : d.mDataLapTimeList ≠ []) (hfuels : d.mDataLapFuelList ≠ []) :
    let file := d.getSessionDataFileName track car
    let saved := d.saveSessionData status disk track car
    (∀ empty : LapFuelData K, empty.mStrLapDataDir = d.mStrLapDataDir →
      empty.mDataLapTimeList = [] → empty.mDataLapFuelList = [] →
      let loaded := empty.loadSessionData status saved track car
      loaded.mDataLapTimeList = d.mDataLapTimeList.map roundSix ∧
      loaded.mDataLapFuelList = d.mDataLapFuelList.map roundSix ∧
      ∀ disk', (loaded.saveSessionData status disk' track car).read file = saved.read file) ∧
    ∀ others : List (Str × Str), others ≠ [] → d.mCurrentTrack = track → d.mCurrentCar = car →
      (∀ p ∈ others, p.1 ≠ [] → p.2 ≠ [] →
        disk.fileKey file ≠ disk.fileKey (d.getSessionDataFileName p.1 p.2)) →
      let t := run step { data := d, disk } (switches status track car others)
      t.data.mDataLapTimeList = d.mDataLapTimeList.map roundSix ∧
      t.data.mDataLapFuelList = d.mDataLapFuelList.map roundSix ∧
      t.disk.read file = saved.read file := by
  intro file saved
  have hsaved : saved.read file = some (sessionText d.mDataLapTimeList d.mDataLapFuelList) := by
    change (d.saveSessionData status disk track car).read file = _
    rw [saveSessionData_eq hok d disk htrack hcar htimes hfuels]
    exact read_write_self _ _ _
  constructor
  · intro empty hdir ht hf loaded
    have hfile : empty.getSessionDataFileName track car = file := by
      change sessionFileName empty.mStrLapDataDir track car = _
      rw [hdir]
      rfl
    have hloaded : loaded = _ := loadSessionData_eq hok ht hf htrack hcar (by rw [hfile, hsaved])
    rw [hloaded]
    refine ⟨rfl, rfl, fun disk' => ?_⟩
    rw [saveSessionData_eq hok _ disk' htrack hcar (fun h => htimes (List.map_eq_nil_iff.mp h))
      (fun h => hfuels (List.map_eq_nil_iff.mp h)), sessionText_roundSix, hsaved, ← hfile]
    exact read_write_self _ _ _
  · intro others hne htrack' hcar' hothers t
    have hjoined : Joined d.mStrLapDataDir track car
        (sessionText d.mDataLapTimeList d.mDataLapFuelList) disk.fileKey { data := d, disk } :=
      ⟨rfl, htrack', hcar', htimes, hfuels, rfl, rfl⟩
    rw [hsaved]
    exact hjoined.switches hok htrack hcar htimes hfuels hne hothers

def sampleData : LapFuelData ℚ where
  mStrLapDataDir := "LapData".toList
  mCurrentTrack := "spa".toList
  mCurrentCar := "gt3".toList
  mDataLapTimeList := [1234567 / 10000, 98765 / 10 ^ 12]
  mDataLapFuelList := [12345678]

/-- Left for monza and joined again: the lap of 123.4567 seconds is one of 123.457. -/
theorem session_roundtrip_sample :
    let t := run step { data := sampleData, disk := {} }
      (switches {} "spa".toList "gt3".toList [("monza".toList, "gt3".toList)])
    t.data.mDataLapTimeList = [123457 / 1000, 98765 / 10 ^ 12] ∧ t.data.mDataLapFuelList = [12345700] := by
  intro t
  obtain ⟨ht, hf, -⟩ := (session_roundtrip sampleData {} {} "spa".toList "gt3".toList ⟨rfl, rfl, rfl⟩
    (by decide) (by decide) (by decide) (by decide)).2 [("monza".toList, "gt3".toList)] (by decide)
    rfl rfl (by decide)
  exact ⟨ht.trans (by decide +kernel), hf.trans (by decide +kernel)⟩

end IrPitCrew.LapFuel.RoundTrip
