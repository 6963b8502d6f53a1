import SellProbe.Bytes

/-!
# Instructions

Deployed code as a list of instructions. The linear sweep reads an opcode, and behind a push opcode
the operand of the width that the opcode declares; code may end inside the last operand. `assemble`
puts a list of instructions together again, and `WellFormed` says which lists are a disassembly.
-/

namespace SellProbe.Bytecode

def push1 : UInt8 := 0x60

def push4 : UInt8 := 0x63

def push20 : UInt8 := 0x73

def push32 : UInt8 := 0x7f

def isPush (opcode : UInt8) : Bool := push1 ≤ opcode && opcode ≤ push32

def pushWidth (opcode : UInt8) : Nat :=
  if isPush opcode then opcode.toNat - push1.toNat + 1 else 0

structure Instruction where
  opcode : UInt8
  /-- The operand; shorter than declared when the code ends in it. -/
  operand : Bytes
  /-- Where the opcode stands in the code. -/
  position : Nat
deriving DecidableEq

namespace Instruction

def isPush (i : Instruction) : Bool := Bytecode.isPush i.opcode

def width (i : Instruction) : Nat := pushWidth i.opcode

/-- Whether the code ends before the operand does. -/
def isTruncated (i : Instruction) : Bool := i.operand.length < i.width

end Instruction

/-- The instructions of code that stands at `position`. -/
def disassembleFrom (position : Nat) : Bytes → List Instruction
  | [] => []
  | opcode :: rest =>
    let operand := rest.take (pushWidth opcode)
    ⟨opcode, operand, position⟩
      :: disassembleFrom (position + 1 + operand.length) (rest.drop (pushWidth opcode))
termination_by code => code.length
decreasing_by simp only [List.length_drop, List.length_cons]; omega

def disassemble (code : Bytes) : List Instruction := disassembleFrom 0 code

def assemble (is : List Instruction) : Bytes := is.flatMap fun i => i.opcode :: i.operand

/-- Instructions that follow each other from `position` on, each with the operand that its opcode
declares, except that the last operand may be cut short. -/
inductive WellFormed : Nat → List Instruction → Prop
  | nil (position : Nat) : WellFormed position []
  | last (i : Instruction) (h : i.operand.length ≤ i.width) : WellFormed i.position [i]
  | cons (i : Instruction) (rest : List Instruction) (h : i.operand.length = i.width)
      (hrest : WellFormed (i.position + 1 + i.operand.length) rest) :
      WellFormed i.position (i :: rest)

/-- An offset of the code that a sweep from the start reaches. -/
inductive Boundary (code : Bytes) : Nat → Prop
  | start : Boundary code 0
  | next {offset : Nat} {opcode : UInt8} (h : Boundary code offset)
      (hop : code[offset]? = some opcode) : Boundary code (offset + 1 + pushWidth opcode)

end SellProbe.Bytecode
