import SellProbe.Bytes

/-!
# Keccak-256

The sponge over the permutation of 25 lanes of 64 bits, with the padding that Ethereum uses (a
first byte `01`). A state is five rows of five lanes, and each step of a round works on whole rows.
-/

namespace SellProbe.Keccak

/-- Five rows of five lanes. -/
abbrev State := List (List UInt64)

def roundConstants : List UInt64 :=
  [0x0000000000000001, 0x0000000000008082, 0x800000000000808a, 0x8000000080008000,
   0x000000000000808b, 0x0000000080000001, 0x8000000080008081, 0x8000000000008009,
   0x000000000000008a, 0x0000000000000088, 0x0000000080008009, 0x000000008000000a,
   0x000000008000808b, 0x800000000000008b, 0x8000000000008089, 0x8000000000008003,
   0x8000000000008002, 0x8000000000000080, 0x000000000000800a, 0x800000008000000a,
   0x8000000080008081, 0x8000000000008080, 0x0000000080000001, 0x8000000080008008]

/-- How far each lane turns, row by row. -/
def rotations : List (List UInt64) :=
  [[0, 1, 62, 28, 27], [36, 44, 6, 55, 20], [3, 10, 43, 25, 39], [41, 45, 15, 21, 8],
   [18, 2, 61, 56, 14]]

def turn (lane n : UInt64) : UInt64 :=
  if n = 0 then lane else (lane <<< n) ||| (lane >>> (64 - n))

def addRows (a b : List UInt64) : List UInt64 := List.zipWith (· ^^^ ·) a b

/-- Each lane takes in the parities of the column before it and of the turned column after it. -/
def mixColumns (s : State) : State :=
  let parity := s.foldl addRows [0, 0, 0, 0, 0]
  let change := List.zipWith (fun before after => before ^^^ turn after 1)
    (parity.rotateRight 1) (parity.rotateLeft 1)
  s.map (addRows change)

def turnLanes (s : State) : State :=
  List.zipWith (List.zipWith turn) s rotations

/-- Lane `x` of row `y` comes from row `x`, lane `x + 3 y`. -/
def moveLanes (s : State) : State :=
  (List.range 5).map fun y =>
    (List.range 5).map fun x => ((s.getD x []).getD ((x + 3 * y) % 5) 0)

def mixRow (row : List UInt64) : List UInt64 :=
  addRows row (List.zipWith (fun b c => ~~~b &&& c) (row.rotateLeft 1) (row.rotateLeft 2))

def addConstant (k : UInt64) : State → State
  | (lane :: row) :: rows => ((lane ^^^ k) :: row) :: rows
  | s => s

def round (s : State) (k : UInt64) : State :=
  addConstant k ((moveLanes (turnLanes (mixColumns s))).map mixRow)

def permute (s : State) : State := roundConstants.foldl round s

/-- Bytes taken in between two permutations. -/
def rate : Nat := 136

/-- A lane from eight bytes, least significant first. -/
def laneOfBytes (bs : Bytes) : UInt64 :=
  bs.foldr (fun b acc => acc <<< 8 ||| b.toUInt64) 0

def bytesOfLane (lane : UInt64) : Bytes :=
  (List.range 8).map fun i => (lane >>> (8 * i).toUInt64).toUInt8

def groups {α : Type} (k : Nat) : Nat → List α → List (List α)
  | 0, _ => []
  | n + 1, xs => xs.take k :: groups k n (xs.drop k)

/-- A block as a state: its 17 lanes fill the rows from the start. -/
def stateOfBlock (block : Bytes) : State :=
  groups 5 5 ((groups 8 25 block).map laneOfBytes)

/-- The message behind its padding: a byte `01`, zeros, and `80` added to the last byte. -/
def pad (message : Bytes) : Bytes :=
  let missing := rate - message.length % rate
  if missing = 1 then message ++ [0x81]
  else message ++ 0x01 :: List.replicate (missing - 2) 0 ++ [0x80]

def absorb (s : State) (block : Bytes) : State :=
  permute (List.zipWith addRows s (stateOfBlock block))

/-- The state before any input. -/
def start : State := List.replicate 5 (List.replicate 5 0)

def finish (message : Bytes) : State :=
  (groups rate (message.length / rate + 1) (pad message)).foldl absorb start

end SellProbe.Keccak

namespace SellProbe

/-- The Keccak-256 digest of a message: the first four lanes of its final state. -/
def keccak256 (message : Bytes) : Hash :=
  FixedBytes.ofNat 32
    (Bytes.toNat (((Keccak.finish message).flatten.take 4).flatMap Keccak.bytesOfLane))

end SellProbe
