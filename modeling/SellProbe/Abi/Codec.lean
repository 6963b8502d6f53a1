import SellProbe.Word
import SellProbe.Text.Utf8

/-!
# The contract codec

Arguments and results of contract calls. Every value has a head of one word: a number or an address
itself, or for a list or a text the offset of its body, which starts with its length. Reading is
lenient: what follows the last part read is ignored, and an address takes the low bytes of its word.
Offsets and lengths have to be below `2 ^ 32`, and everything read has to lie inside the data.
-/

namespace SellProbe.Abi

inductive Value
  | address (a : Address)
  | uint (w : Word)
  | addresses (as : List Address)
  | text (s : String)

def word (n : Nat) : Bytes := Bytes.bigEndian 32 n

/-- Zeros behind a byte string up to a whole number of words. -/
def padRight (bs : Bytes) : Bytes := bs ++ List.replicate ((32 - bs.length % 32) % 32) 0

def Value.body? : Value → Option Bytes
  | .address _ | .uint _ => none
  | .addresses as => some (word as.length ++ as.flatMap fun a => a.toHash.toList)
  | .text s => some (word (Utf8.encode s).length ++ padRight (Utf8.encode s))

/-- The head of a value whose body, if it has one, stands at `offset`. -/
def Value.head (offset : Nat) : Value → Bytes
  | .address a => a.toHash.toList
  | .uint w => w.toHash.toList
  | .addresses _ | .text _ => word offset

/-- The heads of some values, of which the first body stands at `offset`. -/
def heads (offset : Nat) : List Value → Bytes
  | [] => []
  | v :: vs => v.head offset ++ heads (offset + (v.body?.getD []).length) vs

theorem length_heads (offset : Nat) (vs : List Value) :
    (heads offset vs).length = 32 * vs.length := by
  induction vs generalizing offset with
  | nil => rfl
  | cons v vs ih =>
    have hhead : (v.head offset).length = 32 := by
      cases v with
      | address a => exact a.toHash.length_toList
      | uint w => exact w.toHash.length_toList
      | addresses as => exact Bytes.length_bigEndian 32 offset
      | text s => exact Bytes.length_bigEndian 32 offset
    rw [heads, List.length_append, hhead, ih, List.length_cons]
    omega

def bodies (vs : List Value) : Bytes := vs.flatMap fun v => v.body?.getD []

/-- The encoding of some values: all heads, then all bodies. -/
def encode (vs : List Value) : Bytes := heads (32 * vs.length) vs ++ bodies vs

inductive DecodeError
  | noData
  | invalidData
deriving DecidableEq

def DecodeError.message : DecodeError → String
  | .noData =>
    "Invalid name: please ensure the contract and method you're calling exist! "
      ++ "failed to decode empty bytes. if you're using jsonrpc this is likely due to "
      ++ "jsonrpc returning \x600x\x60 in case contract or method don't exist"
  | .invalidData => "Invalid data"

/-- The `n` bytes at `offset`, if they lie inside the data. -/
def slice? (data : Bytes) (offset n : Nat) : Option Bytes :=
  if offset + n ≤ data.length then some ((data.drop offset).take n) else none

def wordAt? (data : Bytes) (offset : Nat) : Option Word := (slice? data offset 32).map Word.ofBytes

def sizeAt? (data : Bytes) (offset : Nat) : Option Nat := do
  let w ← wordAt? data offset
  if w.toNat < 0x100000000 then some w.toNat else none

def readUint? (data : Bytes) : Option Word := wordAt? data 0

def readAddress? (data : Bytes) : Option Address :=
  (wordAt? data 0).map fun w => w.toHash.toAddress

def wordsAt? (data : Bytes) : (offset n : Nat) → Option (List Word)
  | _, 0 => some []
  | offset, n + 1 => do
    let w ← wordAt? data offset
    let ws ← wordsAt? data (offset + 32) n
    return w :: ws

def readUints? (data : Bytes) : Option (List Word) := do
  let offset ← sizeAt? data 0
  let n ← sizeAt? data offset
  wordsAt? data (offset + 32) n

/-- The bytes of the first result, as a text. -/
def readTextBytes? (data : Bytes) : Option Bytes := do
  let offset ← sizeAt? data 0
  let n ← sizeAt? data offset
  slice? data (offset + 32) n

/-- Reads a result, telling missing data from bad data. -/
def decode {α : Type} (read : Bytes → Option α) (data : Bytes) : Except DecodeError α :=
  if data.isEmpty then .error .noData
  else match read data with
    | some a => .ok a
    | none => .error .invalidData

/-- The text of a result that a codec reads as a string, or else one word with a text behind which
come zeros. -/
def decodeTextBy (read : Bytes → Option Bytes) (data : Bytes) : Option String :=
  match decode read data with
  | .ok bs => some (Utf8.decodeLossy bs)
  | .error _ =>
    if data.length = 32 then Utf8.decode? (data.takeWhile (· != 0)) else none

/-- The text of a result, read with the codec at hand. -/
def decodeText? (data : Bytes) : Option String := decodeTextBy readTextBytes? data

end SellProbe.Abi
