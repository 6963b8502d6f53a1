import Mathlib.Data.List.Nodup
import SellProbe.Proofs.Constants
import SellProbe.Storage.Slot

/-!
# Which mappings were read

A discovery keeps the candidates whose entry for the owner was read, in the order of the candidates,
and takes the last of them for the balance. The candidates of a scan are distinct; so a token counts
as a reflection token exactly when the entries of two different candidates were read, and as long as
the hash tells these entries apart none is counted twice (`ofKeys_scan`).
-/

namespace SellProbe.Storage

variable {owner : Address} {candidates used : List Hash} {c slot : Hash}

def readMappings (owner : Address) (candidates used : List Hash) : List Hash :=
  candidates.filter fun c => mappingSlot owner c ∈ used

/-- The last candidate whose entry for the owner was read. -/
def IsLastRead (owner : Address) (candidates used : List Hash) (c : Hash) : Prop :=
  ∃ before behind, candidates = before ++ c :: behind ∧ mappingSlot owner c ∈ used ∧
    ∀ c' ∈ behind, mappingSlot owner c' ∉ used

theorem mem_readMappings :
    c ∈ readMappings owner candidates used ↔ c ∈ candidates ∧ mappingSlot owner c ∈ used := by
  simp [readMappings]

theorem getLast?_readMappings :
    (readMappings owner candidates used).getLast? = some c ↔
      IsLastRead owner candidates used c := by
  unfold readMappings IsLastRead
  rw [List.getLast?_eq_some_iff]
  constructor
  · rintro ⟨read, hread⟩
    obtain ⟨before, rest, rfl, -, hrest⟩ := List.filter_eq_append_iff.1 hread
    obtain ⟨skipped, behind, rfl, -, hc, hbehind⟩ := List.filter_eq_cons_iff.1 hrest
    refine ⟨before ++ skipped, behind, (List.append_assoc _ _ _).symm, of_decide_eq_true hc, ?_⟩
    simpa using hbehind
  · rintro ⟨before, behind, rfl, hc, hbehind⟩
    have hnone : (behind.filter fun c => mappingSlot owner c ∈ used) = [] := by simpa using hbehind
    exact ⟨before.filter fun c => mappingSlot owner c ∈ used, by simp [hc, hnone]⟩

namespace Discovery

theorem matched_ofKeys :
    (ofKeys owner candidates used).matched =
      (readMappings owner candidates used).map (mappingSlot owner) := by
  rw [ofKeys, intersect, List.filter_map, readMappings]
  simp only [Function.comp_def, List.contains_eq_mem]

/-- How often and in what order keys were read does not matter. -/
theorem ofKeys_congr {used' : List Hash} (h : ∀ k, k ∈ used' ↔ k ∈ used) :
    ofKeys owner candidates used' = ofKeys owner candidates used := by
  simp only [ofKeys, intersect, List.contains_eq_mem, h]

theorem balanceSlot?_ofKeys :
    (ofKeys owner candidates used).balanceSlot? =
      (readMappings owner candidates used).getLast?.map (mappingSlot owner) := by
  rw [balanceSlot?, matched_ofKeys, List.getLast?_map]

theorem balanceSlot?_eq_some_iff :
    (ofKeys owner candidates used).balanceSlot? = some slot ↔
      ∃ c, IsLastRead owner candidates used c ∧ mappingSlot owner c = slot := by
  simp only [balanceSlot?_ofKeys, Option.map_eq_some_iff, getLast?_readMappings]

theorem balanceSlot?_eq_none_iff :
    (ofKeys owner candidates used).balanceSlot? = none ↔
      ∀ c ∈ candidates, mappingSlot owner c ∉ used := by
  rw [balanceSlot?_ofKeys, Option.map_eq_none_iff, List.getLast?_eq_none_iff]
  simp [readMappings]

theorem isReflection_ofKeys :
    (ofKeys owner candidates used).isReflection = true ↔
      1 < (readMappings owner candidates used).length := by
  rw [isReflection, matched_ofKeys, List.length_map, decide_eq_true_iff]

end Discovery

/-- A list without repetitions has two elements if and only if it has two different ones. -/
theorem one_lt_length_iff_of_nodup {α : Type} {xs : List α} (h : xs.Nodup) :
    1 < xs.length ↔ ∃ x ∈ xs, ∃ y ∈ xs, x ≠ y := by
  constructor
  · intro hlength
    match xs, h with
    | x :: y :: rest, h =>
      have hxy : x ≠ y := fun hxy => (List.nodup_cons.1 h).1 (hxy ▸ List.mem_cons_self)
      exact ⟨x, by simp, y, by simp, hxy⟩
  · rintro ⟨x, hx, y, hy, hxy⟩
    match xs with
    | [z] =>
      rw [List.mem_singleton] at hx hy
      exact absurd (hx.trans hy.symm) hxy
    | _ :: _ :: _ => simp

/-- **A reflection token is one of which two different mappings were read.** Suppose that the hash
tells the entries of the candidates in some code apart. Then the discovery has the entries that were
read, in the order of the candidates and without repetitions, and the last of them is taken for the
balance; the order and the number of readings do not matter. -/
theorem ofKeys_scan (code : Bytes) (owner : Address) (used : List Hash)
    (hapart : ∀ c ∈ (Bytecode.scan code).slots, ∀ c' ∈ (Bytecode.scan code).slots,
      keccak256 (owner.toHash.toList ++ c.toList) = keccak256 (owner.toHash.toList ++ c'.toList) →
        owner.toHash.toList ++ c.toList = owner.toHash.toList ++ c'.toList) :
    let candidates := (Bytecode.scan code).slots
    let d := Discovery.ofKeys owner candidates used
    d.matched.Nodup ∧ d.matched = (readMappings owner candidates used).map (mappingSlot owner) ∧
      (d.isReflection = true ↔ ∃ c ∈ candidates, ∃ c' ∈ candidates, c ≠ c' ∧
        mappingSlot owner c ∈ used ∧ mappingSlot owner c' ∈ used) ∧
      (∀ slot, d.balanceSlot? = some slot ↔
        ∃ c, IsLastRead owner candidates used c ∧ mappingSlot owner c = slot) ∧
      (d.balanceSlot? = none ↔ ∀ c ∈ candidates, mappingSlot owner c ∉ used) ∧
      ∀ used', (∀ k, k ∈ used' ↔ k ∈ used) → Discovery.ofKeys owner candidates used' = d := by
  intro candidates d
  have hnodup : (readMappings owner candidates used).Nodup :=
    (Bytecode.scan_lists code).2.2.nodup.filter _
  refine ⟨?_, Discovery.matched_ofKeys, ?_, fun slot => Discovery.balanceSlot?_eq_some_iff,
    Discovery.balanceSlot?_eq_none_iff, fun used' => Discovery.ofKeys_congr⟩
  · rw [Discovery.matched_ofKeys]
    refine hnodup.map_on fun c hc c' hc' hslot => FixedBytes.ext ?_
    exact List.append_cancel_left
      (hapart c (mem_readMappings.1 hc).1 c' (mem_readMappings.1 hc').1 hslot)
  · rw [Discovery.isReflection_ofKeys, one_lt_length_iff_of_nodup hnodup]
    simp only [mem_readMappings]
    constructor
    · rintro ⟨c, ⟨hc, hread⟩, c', ⟨hc', hread'⟩, hne⟩
      exact ⟨c, hc, c', hc', hne, hread, hread'⟩
    · rintro ⟨c, hc, c', hc', hne, hread, hread'⟩
      exact ⟨c, ⟨hc, hread⟩, c', ⟨hc', hread'⟩, hne⟩

/-- Two mappings are read, and the one that stands last in the code has the balance. -/
theorem ofKeys_scan_sample :
    let owner : Address := FixedBytes.fill 20 0xde
    let code : Bytes := [0x60, 0x02, 0x60, 0x03, 0x60, 0x02]
    let entry (n : Nat) := mappingSlot owner (FixedBytes.ofNat 32 n)
    let d := Discovery.ofKeys owner (Bytecode.scan code).slots [entry 3, entry 7, entry 2, entry 3]
    (∀ c ∈ (Bytecode.scan code).slots, ∀ c' ∈ (Bytecode.scan code).slots,
      keccak256 (owner.toHash.toList ++ c.toList) = keccak256 (owner.toHash.toList ++ c'.toList) →
        owner.toHash.toList ++ c.toList = owner.toHash.toList ++ c'.toList) ∧
      d.matched.Nodup ∧ d.isReflection = true ∧ d.balanceSlot? = some (entry 3) := by
  intro owner code entry d
  have hslots : (Bytecode.scan code).slots = [FixedBytes.ofNat 32 2, FixedBytes.ofNat 32 3] := by
    decide +kernel
  have hapart : ∀ c ∈ (Bytecode.scan code).slots, ∀ c' ∈ (Bytecode.scan code).slots,
      keccak256 (owner.toHash.toList ++ c.toList) = keccak256 (owner.toHash.toList ++ c'.toList) →
        owner.toHash.toList ++ c.toList = owner.toHash.toList ++ c'.toList := by
    rw [hslots]
    decide +kernel
  obtain ⟨hnodup, -, hreflection, hbalance, -⟩ :=
    ofKeys_scan code owner [entry 3, entry 7, entry 2, entry 3] hapart
  have htwo : FixedBytes.ofNat 32 2 ∈ (Bytecode.scan code).slots := by simp [hslots]
  have hthree : FixedBytes.ofNat 32 3 ∈ (Bytecode.scan code).slots := by simp [hslots]
  have hlast : IsLastRead owner (Bytecode.scan code).slots
      [entry 3, entry 7, entry 2, entry 3] (FixedBytes.ofNat 32 3) :=
    ⟨[FixedBytes.ofNat 32 2], [], hslots, by simp [entry], by simp⟩
  refine ⟨hapart, hnodup, hreflection.2 ?_, (hbalance (entry 3)).2 ⟨_, hlast, rfl⟩⟩
  exact ⟨_, htwo, _, hthree, by decide, by simp [entry], by simp [entry]⟩

end SellProbe.Storage
