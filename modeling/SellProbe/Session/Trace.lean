import SellProbe.Json.Mismatch
import SellProbe.Json.Wire
import SellProbe.Session.Error

/-!
# Execution traces

The step by step record of a transaction. A step that loads from storage carries a snapshot of what
its contract has touched so far, under keys in hex that may lack leading zeros.
-/

namespace SellProbe

structure TraceStep where
  counter : UInt64
  op : String
  /-- How deep in calls between contracts the step is. -/
  depth : UInt64
  /-- Storage of the running contract, by raw key. -/
  storage : Option (Directory String)

structure ExecutionTrace where
  gas : UInt64
  failed : Bool
  returnValue : String
  steps : List TraceStep

/-- A step of which not everything has been read yet. -/
structure TraceStep.Draft where
  counter : UInt64 := 0
  op : Option String := none
  depth : UInt64 := 0
  storage : Option (Directory String) := none

def TraceStep.layout : Json.Layout TraceStep.Draft where
  name := "TraceStep"
  blank := {}
  fields := [
    ("pc", fun d j => return { d with counter := ← Json.expectUInt64 j }),
    ("op", fun d j => return { d with op := some (← Json.expectText j) }),
    ("depth", fun d j => return { d with depth := ← Json.expectUInt64 j }),
    ("storage", fun d j => do
      let storage ← Json.expectOptional (Json.expectMembers Json.expectText) j
      return { d with storage := storage.map Directory.ofList })]

/-- Reads a step. Only the operation has to be there. -/
def TraceStep.ofJson (j : Json) : Except Json.Mismatch TraceStep := do
  let d ← layout.expect j
  match d.op with
  | some op => return { counter := d.counter, op, depth := d.depth, storage := d.storage }
  | none => throw (layout.lack 1 j)

namespace ExecutionTrace

def blank : ExecutionTrace := { gas := 0, failed := false, returnValue := "", steps := [] }

def layout : Json.Layout ExecutionTrace where
  name := "ExecutionTrace"
  blank := blank
  fields := [
    ("gas", fun t j => return { t with gas := ← Json.expectUInt64 j }),
    ("failed", fun t j => return { t with failed := ← Json.expectBool j }),
    ("returnValue", fun t j => return { t with returnValue := ← Json.expectText j }),
    ("structLogs", fun t j => return { t with steps := ← Json.expectList TraceStep.ofJson j })]

/-- Reads a trace as a table keeps it. Whatever is left out is empty. -/
def ofJson (j : Json) : Except Json.Mismatch ExecutionTrace := layout.expect j.settle

/-- The storage of the last step that loads from storage and shows it. -/
def lastSnapshot? (t : ExecutionTrace) : Option (Directory String) :=
  ((t.steps.filter fun s => s.op == "SLOAD").filterMap (·.storage)).getLast?

def readKey (key : String) : Except ProbeError Hash :=
  match Hash.ofHex? key with
  | some h => .ok h
  | none => .error (.trace ("chave de storage inválida: " ++ key))

/-- The keys of the last snapshot, in the order of their raw text. -/
def loadedKeys (t : ExecutionTrace) : Except ProbeError (List Hash) :=
  match t.lastSnapshot? with
  | none => .ok []
  | some storage => storage.names.mapM readKey

end ExecutionTrace

end SellProbe
