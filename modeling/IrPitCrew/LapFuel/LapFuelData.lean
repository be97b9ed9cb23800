import IrPitCrew.Lib.Decimal
import IrPitCrew.Lib.OrderStat
import IrPitCrew.Lib.Run

/-!
# LapFuelData: the lap times and lap fuels of one car on one track

The lists are read from the file of the car and track when these change, and
written back before the next change. Numbers are exact.
-/

open IrPitCrew.Text IrPitCrew.Decimal IrPitCrew.OrderStat IrPitCrew.Run

namespace IrPitCrew.LapFuel

/-! ## Files -/

/-- The files under the data directory. The file system keeps the names that
`fileKey` sends to one key as one file. -/
structure Disk where
  fileKey : Str → Str := id
  files : Str → Option Str := fun _ => none

def Disk.read (disk : Disk) (name : Str) : Option Str := disk.files (disk.fileKey name)

def Disk.write (disk : Disk) (name text : Str) : Disk :=
  { disk with files := Function.update disk.files (disk.fileKey name) (some text) }

def Disk.remove (disk : Disk) (name : Str) : Disk :=
  { disk with files := Function.update disk.files (disk.fileKey name) none }

/-- What the system answers to one access: whether the directory is there after
`CreateDirectory`, and whether the file opens. -/
structure FileStatus where
  dataDirectoryExists : Bool := true
  outputOpens : Bool := true
  inputOpens : Bool := true

/-! ## The object -/

variable {K : Type*}

/-- The oldest value is dropped when the list holds more than the maximum. -/
def dropOldest (dataCountMax : Nat) (values : List K) : List K :=
  if dataCountMax > 0 ∧ values.length > dataCountMax then values.drop 1 else values

theorem length_dropOldest (n : Nat) (ts fs : List K) (h : ts.length = fs.length) :
    (dropOldest n ts).length = (dropOldest n fs).length := by
  unfold dropOldest
  rw [h]
  split <;> simp [h]

theorem mem_dropOldest_concat {n : Nat} {l : List K} {x y : K} (h : x ∈ dropOldest n l ++ [y]) :
    x ∈ l ∨ x = y := by
  rcases List.mem_append.mp h with h | h
  · refine .inl ?_
    unfold dropOldest at h
    split at h
    · exact List.mem_of_mem_drop h
    · exact h
  · exact .inr (List.mem_singleton.mp h)

variable [Field K] [LinearOrder K] [FloorRing K]

def dataCountMin : Nat := 10

structure LapFuelData (K : Type*) [Field K] where
  mStrLapDataDir : Str
  mLastFuelValue : K := -1
  mDataCountMax : Nat := 0
  mDataLapTimeList : List K := []
  mDataLapFuelList : List K := []
  mCurrentTrack : Str := []
  mCurrentCar : Str := []

namespace LapFuelData

def new (strDataDir : Str) : LapFuelData K := { mStrLapDataDir := strDataDir ++ "\\LapData".toList }

/-- The file of a car and track in the directory: their names, joined by an underscore. -/
def sessionFileName (strLapDataDir trackName carName : Str) : Str :=
  strLapDataDir ++ '\\' :: carName ++ '_' :: trackName ++ ".txt".toList

def getSessionDataFileName (d : LapFuelData K) (trackName carName : Str) : Str :=
  sessionFileName d.mStrLapDataDir trackName carName

def separatorLine : Str := "---".toList

def sessionText (times fuels : List K) : Str :=
  putlines (times.map printNumber ++ separatorLine :: fuels.map printNumber)

def saveSessionData (d : LapFuelData K) (status : FileStatus) (disk : Disk) (trackName carName : Str) :
    Disk :=
  if status.dataDirectoryExists ∧ trackName ≠ [] ∧ carName ≠ [] ∧ d.mDataLapTimeList ≠ [] ∧
      d.mDataLapFuelList ≠ [] then
    if status.outputOpens then
      disk.write (d.getSessionDataFileName trackName carName)
        (sessionText d.mDataLapTimeList d.mDataLapFuelList)
    else disk
  else disk

def parseValues (ls : List Str) : List K := (ls.filter (· ≠ [])).map atof

def parseSession (text : Str) : List K × List K :=
  let ls := getlines text
  (parseValues (ls.takeWhile (· ≠ separatorLine)),
    parseValues ((ls.dropWhile (· ≠ separatorLine)).drop 1))

def loadSessionData (d : LapFuelData K) (status : FileStatus) (disk : Disk) (trackName carName : Str) :
    LapFuelData K :=
  if trackName ≠ [] ∧ carName ≠ [] then
    match disk.read (d.getSessionDataFileName trackName carName) with
    | some text =>
      if status.inputOpens then
        { d with
          mDataLapTimeList := d.mDataLapTimeList ++ (parseSession text).1
          mDataLapFuelList := d.mDataLapFuelList ++ (parseSession text).2 }
      else d
    | none => d
  else d

def saveCurrentSessionData (d : LapFuelData K) (status : FileStatus) (disk : Disk) : Disk :=
  if d.mCurrentTrack ≠ [] ∧ d.mCurrentCar ≠ [] then
    d.saveSessionData status disk d.mCurrentTrack d.mCurrentCar
  else disk

def resetSessionData (d : LapFuelData K) (status : FileStatus) (disk : Disk) (newTrack newCar : Str) :
    LapFuelData K × Disk :=
  let disk := d.saveSessionData status disk d.mCurrentTrack d.mCurrentCar
  let d : LapFuelData K := { d with
    mCurrentTrack := newTrack
    mCurrentCar := newCar
    mDataLapTimeList := []
    mDataLapFuelList := []
    mLastFuelValue := -1
    mDataCountMax := 0 }
  (d.loadSessionData status disk newTrack newCar, disk)

/-- The result says whether the lap was added. -/
def addLapData (d : LapFuelData K) (lapLastLapTime fuelLevel : K) : Bool × LapFuelData K :=
  if fuelLevel < 0 then (false, { d with mLastFuelValue := -1 })
  else if lapLastLapTime ≤ 0 then (false, { d with mLastFuelValue := fuelLevel })
  else if fuelLevel ≥ d.mLastFuelValue then (false, { d with mLastFuelValue := fuelLevel })
  else
    let lastLapFuel := d.mLastFuelValue - fuelLevel
    (true, { d with
      mLastFuelValue := fuelLevel
      mDataLapTimeList := dropOldest d.mDataCountMax d.mDataLapTimeList ++ [lapLastLapTime]
      mDataLapFuelList := dropOldest d.mDataCountMax d.mDataLapFuelList ++ [lastLapFuel] })

/-! ## Estimates -/

/-- The values to take the median of. Outliers are more than three deviations away. -/
def tempValues (valuesList : List K) (excludeOutliers : Bool) (inputMedian inputMad : K) : List K :=
  if excludeOutliers ∧ inputMedian > 0 ∧ inputMad > 0 then
    let highLimit := inputMedian + inputMad * 3
    let lowLimit := inputMedian - inputMad * 3
    valuesList.filter fun value => value ≥ lowLimit ∧ value ≤ highLimit
  else valuesList

/-- The median and its deviation. The input values are those of the pass before. -/
def calcMedian (valuesList : List K) (excludeOutliers : Bool) (input : K × K) : K × K :=
  let temp := tempValues valuesList excludeOutliers input.1 input.2
  if valuesList.length > 0 ∧ temp.length > 0 then (median temp, mad temp) else (0, 0)

/-- One pass over all values, and one without the outliers of the first. -/
def calcMedianTwice (valuesList : List K) (input : K × K) : K × K :=
  calcMedian valuesList true (calcMedian valuesList false input)

structure MedianValues (K : Type*) where
  medLapTime : K
  medFuel : K
  madLapTime : K
  madFuel : K

def calcMedianValues (d : LapFuelData K) (input : MedianValues K) : MedianValues K :=
  let time := calcMedianTwice d.mDataLapTimeList (input.medLapTime, input.madLapTime)
  let fuel := calcMedianTwice d.mDataLapFuelList (input.medFuel, input.madFuel)
  ⟨time.1, fuel.1, time.2, fuel.2⟩

def medianValues (d : LapFuelData K) : MedianValues K := d.calcMedianValues ⟨0, 0, 0, 0⟩

def calculatedLapTime (d : LapFuelData K) : K :=
  let m := d.medianValues
  if m.medLapTime > 0 then m.medLapTime - (if m.madLapTime < 0 then 0 else m.madLapTime) else 0

def calculatedLapFuel (d : LapFuelData K) : K :=
  let m := d.medianValues
  if m.medFuel > 0 then m.medFuel + (if m.madFuel < 0 then 0 else m.madFuel) else 0

/-- The laps of a full tank, and not under the minimum. -/
def calcDataCountMax (d : LapFuelData K) (maxFuel : K) : Nat :=
  if maxFuel > 0 ∧ d.calculatedLapFuel > 0 then
    let dataCount := maxFuel / d.calculatedLapFuel
    if dataCount > dataCountMin then ⌊dataCount⌋₊ else dataCountMin
  else d.mDataCountMax

def calcOptimalLapTimeFuelValues (d : LapFuelData K) (maxFuel : K) : K × K × LapFuelData K :=
  (d.calculatedLapTime, d.calculatedLapFuel, { d with mDataCountMax := d.calcDataCountMax maxFuel })

end LapFuelData

/-! ## Saving and loading -/

namespace LapFuelData

/-- A save leaves the disk as it is, or writes both lists, which are not empty. -/
theorem saveSessionData_cases (d : LapFuelData K) (status : FileStatus) (disk : Disk) (track car : Str) :
    d.saveSessionData status disk track car = disk ∨
    (track ≠ [] ∧ car ≠ [] ∧ d.saveSessionData status disk track car =
      disk.write (d.getSessionDataFileName track car)
        (sessionText d.mDataLapTimeList d.mDataLapFuelList)) := by
  unfold saveSessionData
  split
  · rename_i h
    split
    · exact .inr ⟨h.2.1, h.2.2.1, rfl⟩
    · exact .inl rfl
  · exact .inl rfl

theorem saveCurrentSessionData_cases (d : LapFuelData K) (status : FileStatus) (disk : Disk) :
    d.saveCurrentSessionData status disk = disk ∨
    (d.mCurrentTrack ≠ [] ∧ d.mCurrentCar ≠ [] ∧ d.saveCurrentSessionData status disk =
      disk.write (d.getSessionDataFileName d.mCurrentTrack d.mCurrentCar)
        (sessionText d.mDataLapTimeList d.mDataLapFuelList)) := by
  unfold saveCurrentSessionData
  split
  · exact d.saveSessionData_cases status disk _ _
  · exact .inl rfl

def loadedLists (d : LapFuelData K) (status : FileStatus) (disk : Disk) (track car : Str) :
    List K × List K :=
  if track ≠ [] ∧ car ≠ [] ∧ status.inputOpens then
    ((disk.read (d.getSessionDataFileName track car)).map parseSession).getD ([], [])
  else ([], [])

theorem resetSessionData_data (d : LapFuelData K) (status : FileStatus) (disk : Disk)
    (track car : Str) :
    (d.resetSessionData status disk track car).1 =
      { mStrLapDataDir := d.mStrLapDataDir
        mCurrentTrack := track
        mCurrentCar := car
        mDataLapTimeList := (d.loadedLists status
          (d.saveSessionData status disk d.mCurrentTrack d.mCurrentCar) track car).1
        mDataLapFuelList := (d.loadedLists status
          (d.saveSessionData status disk d.mCurrentTrack d.mCurrentCar) track car).2 } := by
  simp only [resetSessionData, loadSessionData, loadedLists, getSessionDataFileName]
  generalize Disk.read _ _ = text
  by_cases hnames : track ≠ [] ∧ car ≠ []
  · cases text with
    | none => simp [hnames]
    | some text => cases status.inputOpens <;> simp [hnames]
  · have h2 : ¬ (track ≠ [] ∧ car ≠ [] ∧ status.inputOpens = true) := fun h => hnames ⟨h.1, h.2.1⟩
    rw [if_neg hnames, if_neg h2]

/-! ## Reading a session file -/

theorem newline_notMem_printNumber (x : K) : '\n' ∉ printNumber x := by
  intro h
  rcases printNumber_chars x _ h with h | h
  · exact absurd h (by decide)
  · exact absurd h (by decide)

theorem printNumber_ne_separatorLine (x : K) : printNumber x ≠ separatorLine := by
  intro h
  have hread := readNumber_printNumber "e".toList x (by decide)
  rw [h] at hread
  simp [separatorLine, readNumber, signed, readUnsigned, splitFraction] at hread

theorem parseValues_printNumber (xs : List K) :
    parseValues (xs.map printNumber) = xs.map roundSix := by
  have hfilter : (xs.map printNumber).filter (· ≠ []) = xs.map printNumber := by
    rw [List.filter_eq_self]
    intro l hl
    obtain ⟨x, -, rfl⟩ := List.mem_map.mp hl
    simpa using printNumber_ne_nil x
  rw [parseValues, hfilter, List.map_map]
  exact List.map_congr_left fun x _ => atof_printNumber x

/-- **Read of write.** A session file gives back the lists, rounded to six digits. -/
theorem parseSession_sessionText (times fuels : List K) :
    parseSession (sessionText times fuels) = (times.map roundSix, fuels.map roundSix) := by
  have hlines : getlines (sessionText times fuels) =
      times.map printNumber ++ separatorLine :: fuels.map printNumber := by
    apply getlines_putlines
    intro l hl
    rcases List.mem_append.mp hl with hl | hl
    · obtain ⟨x, -, rfl⟩ := List.mem_map.mp hl
      exact newline_notMem_printNumber x
    · rcases List.mem_cons.mp hl with rfl | hl
      · decide
      · obtain ⟨x, -, rfl⟩ := List.mem_map.mp hl
        exact newline_notMem_printNumber x
  have htimes : ∀ l ∈ times.map printNumber, decide (l ≠ separatorLine) = true := by
    intro l hl
    obtain ⟨x, -, rfl⟩ := List.mem_map.mp hl
    exact decide_eq_true (printNumber_ne_separatorLine x)
  simp only [parseSession, hlines]
  rw [List.takeWhile_append_of_pos htimes, List.dropWhile_append_of_pos htimes]
  simp [parseValues_printNumber]

end LapFuelData

/-! ## Runs -/

structure State (K : Type*) [Field K] where
  data : LapFuelData K
  disk : Disk

inductive Event (K : Type*) where
  | resetSessionData (status : FileStatus) (newTrack newCar : Str)
  | addLapData (lapLastLapTime fuelLevel : K)
  | saveCurrentSessionData (status : FileStatus)
  | calcOptimal (maxFuel : K)
  /-- The program ends and starts again. -/
  | restart
  /-- The user deletes a file. -/
  | removeFile (name : Str)

def step (s : State K) : Event K → State K
  | .resetSessionData status newTrack newCar =>
    let (data, disk) := s.data.resetSessionData status s.disk newTrack newCar
    { data, disk }
  | .addLapData lapLastLapTime fuelLevel =>
    { s with data := (s.data.addLapData lapLastLapTime fuelLevel).2 }
  | .saveCurrentSessionData status =>
    { s with disk := s.data.saveCurrentSessionData status s.disk }
  | .calcOptimal maxFuel => { s with data := (s.data.calcOptimalLapTimeFuelValues maxFuel).2.2 }
  | .restart => { s with data := { mStrLapDataDir := s.data.mStrLapDataDir } }
  | .removeFile name => { s with disk := s.disk.remove name }

def State.init (strDataDir : Str) (disk : Disk) : State K := { data := .new strDataDir, disk }

end IrPitCrew.LapFuel
