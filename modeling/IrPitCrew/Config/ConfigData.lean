import IrPitCrew.Lib.Decimal

/-!
# ConfigData: reading config.txt

The first line with a value decides each setting. When a setting has no line the
whole file is written again from the values that were read.
-/

open IrPitCrew.Text IrPitCrew.Decimal

namespace IrPitCrew.Config

/-! ## Attributes -/

def strDisplayFuelImperial : Str := "DisplayFuelImperial".toList
def strUseDriverLapsRemaining : Str := "UseDriverLapsRemaining".toList
def strSkipClearOnApply : Str := "SkipClearOnApply".toList
def strServerPort : Str := "ServerPort".toList
def strExtraLapsOfFuel : Str := "ExtraLapsOfFuel".toList
def strDisplayCarFuelAsWeightBase : Str := "DisplayCarFuelAsWeight".toList

def strDisplayCarFuelAsWeightForCar (currentCar : Str) : Str :=
  strDisplayCarFuelAsWeightBase ++ '_' :: currentCar

variable {K : Type*} [Field K]

/-- The value of an attribute: set unless it starts with 0, as an integer, as a number. -/
structure AttributeValue (K : Type*) where
  isValueSet : Bool
  intValue : ℤ
  doubleValue : K

def readValue (strValue : Str) : Option (AttributeValue K) :=
  if strValue ≠ [] then some ⟨strValue.head? ≠ some '0', atoi strValue, atof strValue⟩ else none

def parseAttributeValue (strLine strAttributeString : Str) : Option (AttributeValue K) :=
  let strLineMod := trim strLine
  -- Must be a space after attribute.
  let strAttributeStringMod := trim strAttributeString ++ [' ']
  if strLineMod.length ≥ strAttributeStringMod.length + 1 ∧ strAttributeStringMod <+: strLineMod then
    readValue (trim (strLineMod.drop strAttributeStringMod.length))
  else none

/-! ## Reading the lines -/

structure Found (K : Type*) where
  isDisplayFuelImperial : Option Bool := none
  isUseDriverLapsRemaining : Option Bool := none
  isSkipClearOnApply : Option Bool := none
  serverPort : Option ℤ := none
  extraLapsOfFuel : Option K := none
  isDisplayCarFuelAsWeight : Option Bool := none
  origCarSettings : List Str := []

/-- Empty lines and comments are skipped. -/
def isSkipped (strLine : Str) : Bool := strLine = [] || strLine.head? = some '#'

def lineValue (strAttributeString rawLine : Str) : Option (AttributeValue K) :=
  if isSkipped (trim rawLine) then none else parseAttributeValue (trim rawLine) strAttributeString

/-- A line to keep, whatever the car. -/
def carLine (rawLine : Str) : Option Str :=
  if isSkipped (trim rawLine) then none
  else if strDisplayCarFuelAsWeightBase <+: trim rawLine then some (trim rawLine) else none

/-- One turn of the loop over the lines. A value found before stays. -/
def readLine (currentCar : Str) (f : Found K) (rawLine : Str) : Found K where
  isDisplayFuelImperial := f.isDisplayFuelImperial.or
    ((lineValue (K := K) strDisplayFuelImperial rawLine).map (·.isValueSet))
  isUseDriverLapsRemaining := f.isUseDriverLapsRemaining.or
    ((lineValue (K := K) strUseDriverLapsRemaining rawLine).map (·.isValueSet))
  isSkipClearOnApply := f.isSkipClearOnApply.or
    ((lineValue (K := K) strSkipClearOnApply rawLine).map (·.isValueSet))
  serverPort := f.serverPort.or ((lineValue (K := K) strServerPort rawLine).map (·.intValue))
  extraLapsOfFuel := f.extraLapsOfFuel.or ((lineValue strExtraLapsOfFuel rawLine).map (·.doubleValue))
  isDisplayCarFuelAsWeight :=
    if currentCar ≠ [] then
      f.isDisplayCarFuelAsWeight.or
        ((lineValue (K := K) (strDisplayCarFuelAsWeightForCar currentCar) rawLine).map (·.isValueSet))
    else f.isDisplayCarFuelAsWeight
  origCarSettings := f.origCarSettings ++ (carLine rawLine).toList

def readLines (currentCar : Str) (ls : List Str) : Found K := ls.foldl (readLine currentCar) {}

/-! ## The values -/

structure ConfigValues (K : Type*) where
  isDisplayFuelImperial : Bool
  isUseDriverLapsRemaining : Bool
  isSkipClearOnApply : Bool
  serverPort : ℤ
  extraLapsOfFuel : K
  isDisplayCarFuelAsWeight : Bool
  deriving DecidableEq

/-- A setting that was not found has its default. -/
def Found.values (f : Found K) : ConfigValues K where
  isDisplayFuelImperial := f.isDisplayFuelImperial.getD false
  isUseDriverLapsRemaining := f.isUseDriverLapsRemaining.getD true
  isSkipClearOnApply := f.isSkipClearOnApply.getD false
  serverPort := f.serverPort.getD 48900
  extraLapsOfFuel := f.extraLapsOfFuel.getD 0
  isDisplayCarFuelAsWeight := f.isDisplayCarFuelAsWeight.getD false

def Found.isUpdateRequired (f : Found K) (currentCar : Str) : Bool :=
  f.isDisplayFuelImperial.isNone || f.isUseDriverLapsRemaining.isNone ||
    f.isSkipClearOnApply.isNone || f.serverPort.isNone || f.extraLapsOfFuel.isNone ||
    (f.isDisplayCarFuelAsWeight.isNone && currentCar ≠ [])

/-! ## Writing the file again -/

def printFlag (b : Bool) : Str := if b then ['1'] else ['0']

def settingLine (strAttribute strValue : Str) : Str := strAttribute ++ ' ' :: strValue

def comment (text : String) : Str := '#' :: text.toList

def headerLines : List Str :=
  [comment " Configuration File for irPitCrew.",
   comment " ",
   comment " This file is automatically created on startup if it does not exist.",
   comment " ",
   comment " New attributes will be added dynamically; for example, when a new car",
   comment " is first encountered, a new DisplayCarFuelAsWeight_ value will be ",
   comment " added to the file, which can then be configured manually.",
   comment " ",
   [],
   [],
   comment " Specify the fuel units to use on the remote display.",
   comment " 0 for Metric, 1 for Imperial.",
   comment " "]

def useDriverLapsRemainingLines : List Str :=
  [[],
   comment " This applies to races based on number of laps (not relevant in timed races).",
   comment " If this is set to 0, will use the session (race leader) remaining laps",
   comment " to calculate fuel.",
   comment " Set to 1 to use the your (driver) remaining laps instead.",
   comment " Setting this to 1 gives you more fuel (unless you are the leader).",
   comment " "]

def skipClearOnApplyLines : List Str :=
  [[],
   comment " Skip the \"clear\" command on Apply.",
   comment " If set to 1, irPitCrew will not unset the current iRacing black box settings for",
   comment " tires, fuel, fast repair, etc. before applying the new settings.",
   comment " This means values currently selected in iRacing will not be unset by irPitCrew.",
   comment " ",
   comment " This setting is useful if you are only using the App for fuel and don't ",
   comment " want it to clear your tires / fast repair settings on Apply.",
   comment " ",
   comment " Another option if using this setting is to set \"autoResetPitBox = 0\" in",
   comment " iRacing's app.ini file, which should give you one \"clear\" when you leave",
   comment " the pit stall, then Auto Apply will do one Apply when driving back in.",
   comment " "]

def serverPortLines : List Str :=
  [[],
   comment " Port to use for server.",
   comment " Change this value if the current port is blocked for some reason and the remote display",
   comment " is unable to connect to the server. In general, select from the range 1024 - 49151.",
   comment " When connecting from the remote display, specify the port by adding it to the",
   comment " target address, for example:",
   comment " For address 192.168.1.45 and port 5000, specify 192.168.1.45:5000 in the browser address bar.",
   comment " "]

def extraLapsOfFuelLines : List Str :=
  [[],
   comment " Laps of Fuel to add to the calculated fuel value for an extra margin of safety.",
   comment " For example: Set to 2 for two extra laps of fuel, or 0.5 for an extra half lap.",
   comment " Default: 0",
   comment " "]

def carLines : List Str :=
  [[],
   comment " DisplayCarFuelAsWeight: 0 for volume (litres), 1 for weight (kg).",
   comment " Manually adjust these per car based on how the car displays fuel.",
   comment " "]

def newCarLines (currentCar : Str) (f : Found K) : List Str :=
  if f.isDisplayCarFuelAsWeight.isNone ∧ currentCar ≠ [] then
    [settingLine (strDisplayCarFuelAsWeightForCar currentCar)
      (printFlag f.values.isDisplayCarFuelAsWeight)]
  else []

variable [LinearOrder K] [FloorRing K]

def fileContents (currentCar : Str) (f : Found K) : List Str :=
  headerLines ++
  settingLine strDisplayFuelImperial (printFlag f.values.isDisplayFuelImperial) ::
  useDriverLapsRemainingLines ++
  settingLine strUseDriverLapsRemaining (printFlag f.values.isUseDriverLapsRemaining) ::
  skipClearOnApplyLines ++
  settingLine strSkipClearOnApply (printFlag f.values.isSkipClearOnApply) ::
  serverPortLines ++
  settingLine strServerPort (printInt f.values.serverPort) ::
  extraLapsOfFuelLines ++
  settingLine strExtraLapsOfFuel (printNumber f.values.extraLapsOfFuel) ::
  carLines ++
  f.origCarSettings ++
  newCarLines currentCar f ++
  [[]]

/-- The values, and the text that the file is written with when an update is required. -/
def readConfigData (currentCar : Str) (file : Option Str) : ConfigValues K × Option Str :=
  match file with
  | some text =>
    let f := readLines currentCar (getlines text)
    (f.values, if f.isUpdateRequired currentCar then some (putlines (fileContents currentCar f)) else none)
  | none => (Found.values {}, some (putlines (fileContents (K := K) currentCar {})))

def fileAfter (K : Type*) [Field K] [LinearOrder K] [FloorRing K] (currentCar : Str)
    (file : Option Str) : Option Str :=
  (readConfigData (K := K) currentCar file).2.or file

end IrPitCrew.Config
