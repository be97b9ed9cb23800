import IrPitCrew.Irsdk.NewData
import IrPitCrew.Lib.Memory
import IrPitCrew.Lib.Text

/-!
# irsdkMemServer: the variables of the simulator

The simulator registers its variables by name. Each gets a place in a row, and
a poll copies what the variables point to into the row of the current buffer.
-/

open IrPitCrew.Text IrPitCrew.Memory

namespace IrPitCrew.MemServer

/-! ## Variables -/

inductive VarType where
  | char
  | bool
  | int
  | bitField
  | float
  | double
  deriving DecidableEq

/-- `irsdk_VarTypeBytes`. -/
def VarType.bytes : VarType → Nat
  | .char | .bool => 1
  | .int | .bitField | .float => 4
  | .double => 8

def irsdkMaxVars : Nat := 4096
def irsdkMaxString : Nat := 32
def irsdkMaxDesc : Nat := 64

structure VarHeader where
  type : VarType
  offset : ℤ
  count : ℤ
  name : Str
  desc : Str
  unit : Str

/-- The scaling of a variable, and where the program keeps it. Without a place it is not polled. -/
structure EntryHelper (F α : Type*) where
  multiplier : F
  offset : F
  varPtr : Option α

/-- One entry of `localVarHeader` and `entryVarHelper`. -/
structure Var (F α : Type*) where
  header : VarHeader
  helper : EntryHelper F α

/-- `strncpy`, and the zero behind it. -/
def copyString (s : Str) (size : Nat) : Str := s.take (size - 1)

/-- `strncmp` finds no difference. -/
def isSameString (s t : Str) (size : Nat) : Bool := s.take size = t.take size

/-! ## The memory that is shared -/

def bufCount : Nat := 3
def bufLength : Nat := irsdkMaxVars * 6
def sizeofHeader : Nat := 112
def sizeofVarHeader : Nat := 144
def sessionInfoLen : Nat := 0x20000
def sessionInfoOffset : ℤ := sizeofHeader
def varHeaderOffset : ℤ := sessionInfoOffset + sessionInfoLen
def bufOffset (i : Nat) : ℤ := varHeaderOffset + irsdkMaxVars * sizeofVarHeader + i * bufLength

/-- The header at the start of the memory, and the headers of the variables. -/
structure SharedHeader where
  isConnected : Bool := false
  sessionInfoUpdate : Nat := 0
  varHeader : List VarHeader := []
  bufLen : ℤ := 0
  tickCount : Nat → ℤ := fun _ => 0

end MemServer

/-- The server. `sharedMem` is the memory but for the headers. -/
structure MemServer (F α V : Type*) where
  isInitialized : Bool
  isHeaderFinalized : Bool := false
  vars : List (MemServer.Var F α) := []
  bufLen : ℤ := 0
  tickCount : Nat → ℤ := fun _ => -1
  sessionInfoUpdate : Nat := 0
  curBuf : Nat := 0
  count : ℤ := 0
  sharedMem : ℤ → V
  pHeader : MemServer.SharedHeader := {}

namespace MemServer

variable {F α V : Type*}

/-! ## writeVar -/

section

variable [DecidableEq F] [One F] [Zero F] (scale : VarType → F → F → (Nat → V) → Nat → V)

/-- Whether the values go through `multiplier` and `offset`. -/
def isScaled (type : VarType) (multiplier offset : F) : Bool :=
  (type = .int ∨ type = .float ∨ type = .double) ∧ (multiplier ≠ 1 ∨ offset ≠ 0)

/-- The bytes of one value. `scale` is the arithmetic of the type. -/
def element (type : VarType) (multiplier offset : F) (pSource : Nat → V) : List V :=
  match type with
  | .double | .float | .int => (List.range type.bytes).map (scale type multiplier offset pSource)
  | .bitField | .bool | .char => (List.range type.bytes).map pSource

def writeElements (type : VarType) (multiplier offset : F) :
    Nat → (Nat → V) → ℤ → List (ℤ × V)
  | 0, _, _ => []
  | count + 1, pSource, pDest =>
    stores pDest (element scale type multiplier offset pSource) ++
      writeElements type multiplier offset count (fun j => pSource (type.bytes + j)) (pDest + type.bytes)

/-- The stores of `writeVar`. -/
def writeVar (count : ℤ) (type : VarType) (multiplier offset : F) (pSource : Nat → V) (pDest : ℤ) :
    List (ℤ × V) :=
  if count > 0 then
    if isScaled type multiplier offset then
      writeElements scale type multiplier offset count.toNat pSource pDest
    else stores pDest ((List.range (type.bytes * count.toNat)).map pSource)
  else []

/-- The stores of a variable into the row at `pBase`. -/
def Var.write (v : Var F α) (var : Nat → V) (pBase : ℤ) : List (ℤ × V) :=
  writeVar scale v.header.count v.header.type v.helper.multiplier v.helper.offset var
    (pBase + v.header.offset)

/-- The stores of a poll. `program` is the memory of the program. -/
def pollStores (vars : List (Var F α)) (program : α → Nat → V) (pBase : ℤ) : List (ℤ × V) :=
  vars.flatMap fun v => (v.helper.varPtr.map fun varPtr => v.write scale (program varPtr) pBase).getD []

end

/-! ## Names -/

/-- The first of the variables. -1 stands for none. -/
def nameIndex (name : Str) (headers : List VarHeader) : ℤ :=
  ((headers.findIdx? fun rec => isSameString name rec.name irsdkMaxString).map (↑)).getD (-1)

def headers (s : MemServer F α V) : List VarHeader := s.vars.map Var.header

def varNameToIndex (s : MemServer F α V) (name : Str) : ℤ :=
  if s.isInitialized then nameIndex name s.headers else -1

/-! ## Calls -/

def isVar (s : MemServer F α V) (index : ℤ) : Bool := 0 ≤ index ∧ index < s.vars.length

def reRegVarAt (s : MemServer F α V) (index : ℤ) (var : Option α) : Bool × MemServer F α V :=
  if s.isInitialized && s.isVar index then
    (true, { s with vars := s.vars.modify index.toNat fun v => { v with helper.varPtr := var } })
  else (false, s)

def reRegVar (s : MemServer F α V) (name : Str) (var : Option α) : ℤ × MemServer F α V :=
  let index := s.varNameToIndex name
  let (isDone, s) := s.reRegVarAt index var
  (if isDone then index else -1, s)

/-- A new variable takes the end of the row. -/
def addVar (s : MemServer F α V) (name : Str) (var : Option α) (type : VarType) (count : ℤ)
    (desc unit : Str) (multiplier offset : F) : ℤ × MemServer F α V :=
  let usedLen := type.bytes * count + s.bufLen
  if usedLen < bufLength then
    let v : Var F α := {
      header := {
        type
        offset := s.bufLen
        count
        name := copyString name irsdkMaxString
        desc := copyString desc irsdkMaxDesc
        unit := copyString unit irsdkMaxString }
      helper := { multiplier, offset, varPtr := var } }
    (s.vars.length, { s with vars := s.vars ++ [v], bufLen := usedLen })
  else (-1, s)

def regVar (s : MemServer F α V) (name : Str) (var : Option α) (type : VarType) (count : ℤ)
    (desc unit : Str) (multiplier offset : F) : ℤ × MemServer F α V :=
  if s.isInitialized then
    let (index, s) := s.reRegVar name var
    if index ≥ 0 then (index, s)
    else if !s.isHeaderFinalized && decide (s.vars.length < irsdkMaxVars) then
      s.addVar name var type count desc unit multiplier offset
    else (-1, s)
  else (-1, s)

def finalizeHeader (s : MemServer F α V) : MemServer F α V :=
  if s.isInitialized && !s.isHeaderFinalized then
    { s with
      isHeaderFinalized := true
      pHeader :=
        { isConnected := true
          sessionInfoUpdate := s.sessionInfoUpdate
          varHeader := s.headers
          bufLen := s.bufLen
          tickCount := s.tickCount } }
  else s

/-- The text at an address, up to the zero behind it. -/
def stringAt [DecidableEq V] [Zero V] (m : ℤ → V) (base : ℤ) (size : Nat) : List V :=
  (load m base size).takeWhile (· ≠ 0)

/-- `str` is a text without a zero in it. -/
def regSessionInfo [DecidableEq V] [Zero V] (s : MemServer F α V) (str : List V) : MemServer F α V :=
  if s.isInitialized then
    if str.take sessionInfoLen ≠ stringAt s.sharedMem sessionInfoOffset sessionInfoLen then
      let text := str.take (sessionInfoLen - 1)
      { s with
        sharedMem := Memory.apply s.sharedMem
          (stores sessionInfoOffset (text ++ List.replicate (sessionInfoLen - text.length) 0))
        sessionInfoUpdate := s.sessionInfoUpdate + 1
        pHeader.sessionInfoUpdate := s.sessionInfoUpdate + 1 }
    else s
  else s

def resetSampleVars [Zero V] (s : MemServer F α V) : MemServer F α V :=
  if s.isInitialized then
    { s with
      sharedMem := Memory.apply s.sharedMem (stores (bufOffset s.curBuf) (List.replicate bufLength 0)) }
  else s

section

variable [DecidableEq F] [One F] [Zero F] (scale : VarType → F → F → (Nat → V) → Nat → V)

def setVarAt (s : MemServer F α V) (index : ℤ) (var : Option (Nat → V)) : Bool × MemServer F α V :=
  match var, s.vars[index.toNat]? with
  | some var, some v =>
    if s.isInitialized && s.isVar index then
      (true, { s with
        sharedMem := Memory.apply s.sharedMem (v.write scale var (bufOffset s.curBuf)) })
    else (false, s)
  | _, _ => (false, s)

def setVar (s : MemServer F α V) (name : Str) (var : Option (Nat → V)) : ℤ × MemServer F α V :=
  let index := s.varNameToIndex name
  let (isDone, s) := s.setVarAt scale index var
  (if isDone then index else -1, s)

def pollSampleVars (s : MemServer F α V) (program : α → Nat → V) : MemServer F α V :=
  if s.isInitialized then
    { s with
      sharedMem := Memory.apply s.sharedMem (pollStores scale s.vars program (bufOffset s.curBuf))
      tickCount := Function.update s.tickCount s.curBuf s.count
      pHeader.tickCount := Function.update s.pHeader.tickCount s.curBuf s.count
      curBuf := (s.curBuf + 1) % bufCount
      count := s.count + 1 }
  else s

end

/-! ## The client -/

def irsdk_varNameToIndex (h : SharedHeader) (name : Str) : ℤ := nameIndex name h.varHeader

def irsdk_varNameToOffset (h : SharedHeader) (name : Str) : ℤ :=
  ((h.varHeader.find? fun pVar => isSameString name pVar.name irsdkMaxString).map
    VarHeader.offset).getD (-1)

/-! ## Runs -/

inductive Call (F α V : Type*) where
  | regVar (name : Str) (var : Option α) (type : VarType) (count : ℤ) (desc unit : Str)
      (multiplier offset : F)
  | reRegVar (name : Str) (var : Option α)
  | reRegVarAt (index : ℤ) (var : Option α)
  | setVar (name : Str) (var : Option (Nat → V))
  | setVarAt (index : ℤ) (var : Option (Nat → V))
  | regSessionInfo (str : List V)
  | finalizeHeader
  | resetSampleVars
  | pollSampleVars (program : α → Nat → V)

section

variable [DecidableEq F] [One F] [Zero F] [DecidableEq V] [Zero V]
variable (scale : VarType → F → F → (Nat → V) → Nat → V)

def step (s : MemServer F α V) : Call F α V → MemServer F α V
  | .regVar name var type count desc unit multiplier offset =>
    (s.regVar name var type count desc unit multiplier offset).2
  | .reRegVar name var => (s.reRegVar name var).2
  | .reRegVarAt index var => (s.reRegVarAt index var).2
  | .setVar name var => (s.setVar scale name var).2
  | .setVarAt index var => (s.setVarAt scale index var).2
  | .regSessionInfo str => s.regSessionInfo str
  | .finalizeHeader => s.finalizeHeader
  | .resetSampleVars => s.resetSampleVars
  | .pollSampleVars program => s.pollSampleVars scale program

/-- The server after its start, with or without the shared memory. -/
def init (isInitialized : Bool) : MemServer F α V := { isInitialized, sharedMem := fun _ => 0 }

end

end MemServer

end IrPitCrew
