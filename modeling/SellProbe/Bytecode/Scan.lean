import SellProbe.Bytecode.Instruction
import SellProbe.Keccak
import SellProbe.Text.Utf8

/-!
# Constants in code

What the linear sweep finds in a contract: the selectors that its dispatcher compares with, the
constants that may be storage slots, and the addresses that it mentions. Each list keeps the order
in which its elements first appear, and has each of them once.
-/

namespace SellProbe.Bytecode

structure Scan where
  /-- Operands of whole selector pushes, without the mask of ones. -/
  selectors : List Selector
  /-- Operands of one-byte and one-word pushes, as words. -/
  slots : List Hash
  /-- Operands of whole address pushes, without the mask of ones. -/
  addresses : List Address
deriving DecidableEq

def selectorOf? (i : Instruction) : Option Selector :=
  if i.opcode = push4 then
    (FixedBytes.ofList? 4 i.operand).filter (· ≠ FixedBytes.fill 4 0xff)
  else none

/-- The slot candidate that an instruction pushes; an operand that is cut short counts as it is. -/
def slotOf? (i : Instruction) : Option Hash :=
  if i.opcode = push1 ∨ i.opcode = push32 then
    FixedBytes.ofList? 32 (Bytes.padLeft 32 i.operand)
  else none

def addressOf? (i : Instruction) : Option Address :=
  if i.opcode = push20 then
    (FixedBytes.ofList? 20 i.operand).filter (· ≠ FixedBytes.fill 20 0xff)
  else none

def Scan.ofInstructions (is : List Instruction) : Scan where
  selectors := (is.filterMap selectorOf?).eraseDups
  slots := (is.filterMap slotOf?).eraseDups
  addresses := (is.filterMap addressOf?).eraseDups

/-- The constants of some code. -/
def scan (code : Bytes) : Scan := .ofInstructions (disassemble code)

def selector (signature : String) : Selector :=
  FixedBytes.high 4 (keccak256 (Utf8.encode signature)) (by decide)

/-- Whether the contract compares with the selector of a signature. -/
def Scan.hasFunction (s : Scan) (signature : String) : Bool :=
  s.selectors.contains (selector signature)

end SellProbe.Bytecode
