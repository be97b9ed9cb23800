import IrPitCrew.Lib.Ring
import IrPitCrew.Lib.Run

/-!
# irsdk_getNewData: a client reads while the simulator writes

The simulator fills one buffer of the shared memory after the other. A client
picks the newest one, copies it cell by cell and looks at its tick before and
after. Nothing keeps the simulator from writing in between: each access of the
shared memory is a step of its own.
-/

open IrPitCrew.Run

namespace IrPitCrew.NewData

def intMax : Int := 2147483647

/-! ## The client -/

/-- Where the client is in `irsdk_getNewData`. The cells that are left to copy are in the order of
`memcpy`. -/
inductive Place (ι : Type*) where
  | returned (result : Bool)
  | scan (latest i : Nat)
  | scanned (latest i : Nat) (latestTick : Int)
  | newer (latest : Nat)
  | mark (latest : Nat)
  | tick (latest count : Nat)
  | copy (latest count : Nat) (curTickCount : Int) (left : List ι)
  | older (latest : Nat)
  | reset (latest : Nat)

def Place.result {ι : Type*} : Place ι → Option Bool
  | .returned result => some result
  | _ => none

/-- `hasData` says whether the call has a place for the data. -/
structure Client (ι V : Type*) where
  place : Place ι := .returned false
  lastTickCount : Int := intMax
  hasData : Bool := false
  data : ι → V

variable {ι V : Type*} [DecidableEq ι]

namespace Client

/-- The start of a call. A client inside a call makes no other one. -/
def call (connected hasData : Bool) (c : Client ι V) : Client ι V :=
  match c.place with
  | .returned _ =>
    if connected then { c with hasData, place := .scan 0 1 }
    else { c with lastTickCount := intMax, place := .returned false }
  | _ => c

/-- One access of the shared memory. -/
def read (numBuf : Nat) (cells : List ι) (mem : Ring ι V) (c : Client ι V) : Client ι V :=
  match c.place with
  | .returned _ => c
  | .scan latest i =>
    if i < numBuf then { c with place := .scanned latest i (mem.tick latest) }
    else { c with place := .newer latest }
  | .scanned latest i latestTick =>
    { c with place := .scan (if latestTick < mem.tick i then i else latest) (i + 1) }
  | .newer latest =>
    if c.lastTickCount < mem.tick latest then
      { c with place := if c.hasData then .tick latest 0 else .mark latest }
    else { c with place := .older latest }
  | .mark latest => { c with lastTickCount := mem.tick latest, place := .returned true }
  | .tick latest count =>
    if count < 2 then { c with place := .copy latest count (mem.tick latest) cells }
    else { c with place := .returned false } -- The data changed out from under us.
  | .copy latest count curTickCount [] =>
    if curTickCount = mem.tick latest then
      { c with lastTickCount := curTickCount, place := .returned true }
    else { c with place := .tick latest (count + 1) }
  | .copy latest count curTickCount (i :: left) =>
    { c with
      data := Function.update c.data i (mem.cell latest i)
      place := .copy latest count curTickCount left }
  | .older latest =>
    if c.lastTickCount > mem.tick latest then { c with place := .reset latest }
    else { c with place := .returned false }
  | .reset latest => { c with lastTickCount := mem.tick latest, place := .returned false }

end Client

/-! ## The system -/

structure System (ι V : Type*) where
  mem : Ring ι V
  connected : Bool
  client : Client ι V

inductive Action (ι V : Type*) where
  | write (i : ι) (v : V)
  | commit
  | setStatus (connected : Bool)
  | call (hasData : Bool)
  | read

def step (numBuf : Nat) (cells : List ι) (s : System ι V) : Action ι V → System ι V
  | .write i v => { s with mem := s.mem.write numBuf i v }
  | .commit => { s with mem := s.mem.commit numBuf }
  | .setStatus connected => { s with connected }
  | .call hasData => { s with client := s.client.call s.connected hasData }
  | .read => { s with client := s.client.read numBuf cells s.mem }

/-- The system before the first image. -/
def init (cell : Nat → ι → V) (data : ι → V) : System ι V where
  mem := .init cell
  connected := false
  client := { data }

/-- The images that are finished. A tick is an `int`, so the code has at most `intMax` of them. -/
def commits (actions : List (Action ι V)) : Nat :=
  actions.countP fun
    | .commit => true
    | _ => false

def reads (actions : List (Action ι V)) : Nat :=
  actions.countP fun
    | .read => true
    | _ => false

/-- The ticks of the calls that return true. -/
def received (numBuf : Nat) (cells : List ι) : System ι V → List (Action ι V) → List Int
  | _, [] => []
  | s, a :: actions =>
    let s' := step numBuf cells s a
    if s.client.place.result = none ∧ s'.client.place.result = some true then
      s'.client.lastTickCount :: received numBuf cells s' actions
    else received numBuf cells s' actions

def IsCall : Action ι V → Prop
  | .call _ => True
  | _ => False

instance IsCall.instDecidable : ∀ a : Action ι V, Decidable (IsCall a)
  | .call _ => isTrue trivial
  | .write _ _ | .commit | .setStatus _ | .read => isFalse id

end IrPitCrew.NewData
