import SellProbe.Keccak

/-!
# Storage slots of mappings

Where a mapping keeps the entry of an account, and which of the candidate mappings a transaction has
read. More than one mapping read for one balance is the mark of a reflection token.
-/

namespace SellProbe.Storage

/-- The slot of an account's entry in the mapping at a candidate slot. -/
def mappingSlot (owner : Address) (candidate : Hash) : Hash :=
  keccak256 (owner.toHash.toList ++ candidate.toList)

/-- The slots of one list that are also in another, in the order of the first. -/
def intersect (computed used : List Hash) : List Hash := computed.filter (used.contains ·)

/-- What is known about where a token keeps balances. -/
structure Discovery where
  /-- Slots that may be those of mappings, in the order of the code. -/
  candidates : List Hash
  /-- Entries of the owner in these mappings that were read. -/
  matched : List Hash
deriving DecidableEq

namespace Discovery

/-- Compares the entries of an owner with the keys that were read. -/
def ofKeys (owner : Address) (candidates used : List Hash) : Discovery where
  candidates
  matched := intersect (candidates.map (mappingSlot owner)) used

/-- Whether more than one mapping was read. -/
def isReflection (d : Discovery) : Bool := d.matched.length > 1

/-- The entry that counts as the balance: the last one. -/
def balanceSlot? (d : Discovery) : Option Hash := d.matched.getLast?

end Discovery

end SellProbe.Storage
