import Mathlib.Data.List.Nodup
import SellProbe.Bytecode.Scan
import SellProbe.Proofs.Disassembly

/-!
# What a scan reports

A scan lists the constants that the pushes at the boundaries of some code have as operands: all of
them and nothing else, each once, in the order of the first pushes of each (`scan_lists`). Selectors
and addresses count only if the whole operand is in the code; a slot candidate counts also if it is
cut short.
-/

namespace SellProbe.Bytecode

/-- All things that occur at some place, each once, in the order of their first places. -/
structure Lists {α : Type} (occurs : Nat → α → Prop) (xs : List α) : Prop where
  mem_iff : ∀ x, x ∈ xs ↔ ∃ place, occurs place x
  nodup : xs.Nodup
  /-- The one before has a place before all places of the one behind. -/
  ordered : xs.Pairwise fun x y =>
    ∃ place, occurs place x ∧ ∀ place', occurs place' y → place < place'

section Lists

variable {α : Type} {occurs occurs' : Nat → α → Prop} {xs : List α}

theorem Lists.congr (h : Lists occurs xs) (hsame : ∀ place x, occurs place x ↔ occurs' place x) :
    Lists occurs' xs := by
  obtain rfl : occurs = occurs' := funext fun place => funext fun x => propext (hsame place x)
  exact h

/-- One thing that occurs before all others, and then a list of the others. -/
theorem Lists.cons {a : α} {first : Nat}
    (hothers : Lists (fun place x => occurs place x ∧ x ≠ a) xs) (ha : occurs first a)
    (hfirst : ∀ place x, occurs place x → x ≠ a → first < place) : Lists occurs (a :: xs) := by
  have hne : ∀ x ∈ xs, x ≠ a := fun x hx => ((hothers.mem_iff x).1 hx).choose_spec.2
  refine ⟨fun x => ?_, List.nodup_cons.2 ⟨fun h => hne a h rfl, hothers.nodup⟩,
    List.pairwise_cons.2 ⟨fun y hy => ⟨first, ha, fun place hplace => ?_⟩, ?_⟩⟩
  · rw [List.mem_cons, hothers.mem_iff]
    constructor
    · rintro (rfl | ⟨place, hplace, -⟩)
      · exact ⟨first, ha⟩
      · exact ⟨place, hplace⟩
    · rintro ⟨place, hplace⟩
      by_cases hxa : x = a
      · exact .inl hxa
      · exact .inr ⟨place, hplace, hxa⟩
  · exact hfirst place y hplace (hne y hy)
  · refine hothers.ordered.imp_of_mem fun {x y} hx hy hxy => ?_
    obtain ⟨place, ⟨hplace, -⟩, hbefore⟩ := hxy
    exact ⟨place, hplace, fun place' h => hbefore place' ⟨h, hne y hy⟩⟩

/-- One thing more, at a place behind all others, if it is not in the list yet. -/
theorem Lists.concat [DecidableEq α] {a : α} {last : Nat} (h : Lists occurs xs)
    (hlast : ∀ place x, occurs place x → place < last) :
    Lists (fun place x => occurs place x ∨ place = last ∧ x = a)
      (if a ∈ xs then xs else xs ++ [a]) := by
  have hmem : ∀ x, (∃ place, occurs place x ∨ place = last ∧ x = a) ↔ x ∈ xs ∨ x = a := by
    intro x
    simp only [h.mem_iff, exists_or, exists_eq_left]
  have hkeep : ∀ {x y}, (∃ place, occurs place x ∧ ∀ place', occurs place' y → place < place') →
      ∃ place, (occurs place x ∨ place = last ∧ x = a) ∧
        ∀ place', occurs place' y ∨ place' = last ∧ y = a → place < place' := by
    rintro x y ⟨place, hplace, hbefore⟩
    refine ⟨place, .inl hplace, fun place' hplace' => ?_⟩
    rcases hplace' with hplace' | ⟨rfl, -⟩
    · exact hbefore place' hplace'
    · exact hlast place x hplace
  by_cases ha : a ∈ xs
  · rw [if_pos ha]
    refine ⟨fun x => ?_, h.nodup, h.ordered.imp hkeep⟩
    rw [hmem, or_iff_left_of_imp]
    rintro rfl
    exact ha
  · rw [if_neg ha]
    refine ⟨fun x => ?_, List.concat_eq_append ▸ .concat ha h.nodup, List.pairwise_append.2
      ⟨h.ordered.imp hkeep, List.pairwise_singleton _ _, fun x hx y hy => hkeep ?_⟩⟩
    · rw [hmem, List.mem_append, List.mem_singleton]
    · obtain rfl := List.mem_singleton.1 hy
      obtain ⟨place, hplace⟩ := (h.mem_iff x).1 hx
      exact ⟨place, hplace, fun place' hplace' => absurd ((h.mem_iff y).2 ⟨place', hplace'⟩) ha⟩

/-- There is only one such list. -/
theorem Lists.eq {ys : List α} (h : Lists occurs xs) (h' : Lists occurs ys) : xs = ys := by
  refine List.Perm.eq_of_pairwise (fun x y _ _ hxy hyx => ?_) h.ordered h'.ordered
    ((List.perm_ext_iff_of_nodup h.nodup h'.nodup).2 fun x => ?_)
  · obtain ⟨place, hplace, hbefore⟩ := hxy
    obtain ⟨place', hplace', hbefore'⟩ := hyx
    exact absurd (hbefore place' hplace') (Nat.lt_asymm (hbefore' place hplace))
  · rw [h.mem_iff, h'.mem_iff]

/-- What instructions in the order of the code bring up, without repetitions. -/
theorem lists_eraseDups [DecidableEq α] {is : List Instruction}
    (hsorted : is.Pairwise (·.position < ·.position)) (f : Instruction → Option α) :
    Lists (fun place x => ∃ i ∈ is, i.position = place ∧ f i = some x)
      (is.filterMap f).eraseDups := by
  induction is generalizing f with
  | nil => exact ⟨by simp, by simp, by simp⟩
  | cons i is ih =>
    obtain ⟨hfirst, hrest⟩ := List.pairwise_cons.1 hsorted
    cases hi : f i with
    | none =>
      rw [List.filterMap_cons_none hi]
      refine (ih hrest f).congr fun place x => ?_
      simp [hi]
    | some a =>
      rw [List.filterMap_cons_some hi, List.eraseDups_cons, List.filter_filterMap]
      refine .cons ((ih hrest _).congr fun place x => ?_) ⟨i, List.mem_cons_self, rfl, hi⟩ ?_
      · by_cases hxa : x = a
        · simp [hxa, Option.filter_eq_some_iff]
        · simp [hxa, Ne.symm hxa, hi, Option.filter_eq_some_iff]
      · rintro _ x ⟨j, hj, rfl, hjx⟩ hxa
        rcases List.mem_cons.1 hj with rfl | hj
        · exact absurd (Option.some.inj (hjx.symm.trans hi)) hxa
        · exact hfirst j hj

end Lists

/-! ## The three kinds of constants -/

/-- A whole selector push stands at an offset of the code, and not the mask. -/
def SelectorAt (code : Bytes) (offset : Nat) (s : Selector) : Prop :=
  StandsIn code ⟨push4, s.toList, offset⟩ ∧ s ≠ FixedBytes.fill 4 0xff

/-- A whole address push stands at an offset of the code, and not the mask. -/
def AddressAt (code : Bytes) (offset : Nat) (a : Address) : Prop :=
  StandsIn code ⟨push20, a.toList, offset⟩ ∧ a ≠ FixedBytes.fill 20 0xff

/-- A one-byte or one-word push stands at an offset of the code, possibly cut short, and its operand
behind zeros is the slot. -/
def SlotAt (code : Bytes) (offset : Nat) (slot : Hash) : Prop :=
  ∃ opcode operand, (opcode = push1 ∨ opcode = push32) ∧
    StandsIn code ⟨opcode, operand, offset⟩ ∧ Bytes.padLeft 32 operand = slot.toList

theorem ofList?_eq_some_iff {n : Nat} {bs : Bytes} {b : FixedBytes n} :
    FixedBytes.ofList? n bs = some b ↔ bs = b.toList := by
  unfold FixedBytes.ofList?
  constructor
  · intro h
    split at h <;> cases h
    rfl
  · rintro rfl
    exact dif_pos b.length_toList

theorem selectorOf?_eq_some_iff {i : Instruction} {s : Selector} :
    selectorOf? i = some s ↔
      i.opcode = push4 ∧ i.operand = s.toList ∧ s ≠ FixedBytes.fill 4 0xff := by
  unfold selectorOf?
  split <;> simp [*, Option.filter_eq_some_iff, ofList?_eq_some_iff]

theorem addressOf?_eq_some_iff {i : Instruction} {a : Address} :
    addressOf? i = some a ↔
      i.opcode = push20 ∧ i.operand = a.toList ∧ a ≠ FixedBytes.fill 20 0xff := by
  unfold addressOf?
  split <;> simp [*, Option.filter_eq_some_iff, ofList?_eq_some_iff]

theorem slotOf?_eq_some_iff {i : Instruction} {slot : Hash} :
    slotOf? i = some slot ↔
      (i.opcode = push1 ∨ i.opcode = push32) ∧ Bytes.padLeft 32 i.operand = slot.toList := by
  unfold slotOf?
  split <;> simp [*, ofList?_eq_some_iff]

/-- What the instructions at a place of the code bring up, in terms of the code. -/
theorem lists_disassemble {α : Type} [DecidableEq α] (code : Bytes) (f : Instruction → Option α) :
    Lists (fun place x => ∃ i, StandsIn code i ∧ i.position = place ∧ f i = some x)
      ((disassemble code).filterMap f).eraseDups := by
  have hsorted : (disassemble code).Pairwise (·.position < ·.position) :=
    (wellFormed_disassembleFrom 0 code).pairwise.imp fun h => by omega
  refine (lists_eraseDups hsorted f).congr fun place x => ?_
  simp only [mem_disassemble_iff]

/-- **A scan reports exactly the constants of the linear sweep.** Its selectors, addresses and slots
are those that pushes at the boundaries of the code carry, each once, in the order of the first
boundary of each. -/
theorem scan_lists (code : Bytes) :
    Lists (SelectorAt code) (scan code).selectors ∧
      Lists (AddressAt code) (scan code).addresses ∧
      Lists (SlotAt code) (scan code).slots := by
  refine ⟨(lists_disassemble code selectorOf?).congr fun place s => ?_,
    (lists_disassemble code addressOf?).congr fun place a => ?_,
    (lists_disassemble code slotOf?).congr fun place slot => ?_⟩
  · constructor
    · rintro ⟨⟨opcode, operand, _⟩, hstands, rfl, hs⟩
      obtain ⟨rfl, rfl, hmask⟩ := selectorOf?_eq_some_iff.1 hs
      exact ⟨hstands, hmask⟩
    · rintro ⟨hstands, hmask⟩
      exact ⟨_, hstands, rfl, selectorOf?_eq_some_iff.2 ⟨rfl, rfl, hmask⟩⟩
  · constructor
    · rintro ⟨⟨opcode, operand, _⟩, hstands, rfl, ha⟩
      obtain ⟨rfl, rfl, hmask⟩ := addressOf?_eq_some_iff.1 ha
      exact ⟨hstands, hmask⟩
    · rintro ⟨hstands, hmask⟩
      exact ⟨_, hstands, rfl, addressOf?_eq_some_iff.2 ⟨rfl, rfl, hmask⟩⟩
  · constructor
    · rintro ⟨⟨opcode, operand, _⟩, hstands, rfl, hslot⟩
      obtain ⟨hopcode, hpadded⟩ := slotOf?_eq_some_iff.1 hslot
      exact ⟨opcode, operand, hopcode, hstands, hpadded⟩
    · rintro ⟨opcode, operand, hopcode, hstands, hpadded⟩
      exact ⟨_, hstands, rfl, slotOf?_eq_some_iff.2 ⟨hopcode, hpadded⟩⟩

/-- The same number as a byte and as a word is one slot. -/
example : (scan ([0x60, 0x02, 0x7f] ++ List.replicate 31 0x00 ++ [0x02])).slots =
    [FixedBytes.ofNat 32 2] := by decide +kernel

end SellProbe.Bytecode
