/-!
# Bytes

Byte strings, and byte strings of a fixed length: addresses, hashes and selectors. Numbers are
written big-endian.
-/

namespace SellProbe

abbrev Bytes := List UInt8

namespace Bytes

/-- The number that a big-endian byte string denotes. -/
def toNat (bs : Bytes) : Nat :=
  bs.foldl (fun acc b => acc * 256 + b.toNat) 0

/-- The low `n` bytes of `v`, most significant first. -/
def bigEndian : Nat → Nat → Bytes
  | 0, _ => []
  | n + 1, v => bigEndian n (v / 256) ++ [UInt8.ofNat v]

/-- Zeros on the left up to length `n`; a longer string is left as it is. -/
def padLeft (n : Nat) (bs : Bytes) : Bytes :=
  List.replicate (n - bs.length) 0 ++ bs

@[simp] theorem length_bigEndian (n v : Nat) : (bigEndian n v).length = n := by
  induction n generalizing v with
  | zero => rfl
  | succ n ih => simp [bigEndian, ih]

theorem length_padLeft {n : Nat} {bs : Bytes} (h : bs.length ≤ n) :
    (padLeft n bs).length = n := by
  simp only [padLeft, List.length_append, List.length_replicate]
  omega

end Bytes

/-- A byte string of exactly `n` bytes. -/
structure FixedBytes (n : Nat) where
  toList : Bytes
  length_toList : toList.length = n
deriving DecidableEq

namespace FixedBytes

variable {n : Nat}

@[ext] theorem ext {a b : FixedBytes n} (h : a.toList = b.toList) : a = b := by
  cases a; cases b; cases h; rfl

/-- The bytes themselves, when there are exactly `n` of them. -/
def ofList? (n : Nat) (bs : Bytes) : Option (FixedBytes n) :=
  if h : bs.length = n then some ⟨bs, h⟩ else none

def ofNat (n v : Nat) : FixedBytes n :=
  ⟨Bytes.bigEndian n v, Bytes.length_bigEndian n v⟩

def toNat (b : FixedBytes n) : Nat := Bytes.toNat b.toList

def fill (n : Nat) (b : UInt8) : FixedBytes n :=
  ⟨List.replicate n b, List.length_replicate⟩

def zero (n : Nat) : FixedBytes n := fill n 0

/-- The bytes behind zeros, in a longer string. -/
def widen (m : Nat) (b : FixedBytes n) (h : n ≤ m) : FixedBytes m :=
  ⟨Bytes.padLeft m b.toList, Bytes.length_padLeft (by rw [b.length_toList]; exact h)⟩

def low (m : Nat) (b : FixedBytes n) (h : m ≤ n) : FixedBytes m :=
  ⟨b.toList.drop (n - m), by rw [List.length_drop, b.length_toList]; omega⟩

def high (m : Nat) (b : FixedBytes n) (h : m ≤ n) : FixedBytes m :=
  ⟨b.toList.take m, by rw [List.length_take, b.length_toList]; omega⟩

def isZero (b : FixedBytes n) : Bool := b.toList.all (· == 0)

end FixedBytes

abbrev Address := FixedBytes 20

/-- A Keccak digest, a storage key, a storage value or a log topic. -/
abbrev Hash := FixedBytes 32

/-- The first four bytes of call data, which choose the function. -/
abbrev Selector := FixedBytes 4

/-- An address as a 32-byte word, behind twelve zeros. -/
def Address.toHash (a : Address) : Hash := FixedBytes.widen 32 a (by decide)

/-- The low 20 bytes of a 32-byte word. -/
def Hash.toAddress (h : Hash) : Address := FixedBytes.low 20 h (by decide)

end SellProbe
