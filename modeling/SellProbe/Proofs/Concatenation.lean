import SellProbe.Proofs.Constants

/-!
# Code behind other code

If code ends with a whole instruction, then a sweep over it and what is put behind it is a sweep
over either, the second at its place behind the first. That holds for all that can be put behind it,
and for no code that ends inside an operand (`disassemble_append_iff`). So the constants of both
together are those of the first and then those of the second that are new (`scan_append`).
-/

namespace SellProbe.Bytecode

/-! ## First occurrences -/

section FirstOccurrences

variable {α : Type} [BEq α] [LawfulBEq α]

theorem filter_eraseDups (p : α → Bool) (xs : List α) :
    xs.eraseDups.filter p = (xs.filter p).eraseDups := by
  cases xs with
  | nil => rfl
  | cons x xs =>
    have ih := filter_eraseDups p (xs.filter fun y => !y == x)
    rw [List.eraseDups_cons, List.filter_cons, List.filter_cons, ih, List.filter_filter]
    by_cases hx : p x = true
    · simp only [if_pos hx, List.eraseDups_cons, List.filter_filter, Bool.and_comm]
    · have hother : ∀ y ∈ xs, (p y && !y == x) = p y := by
        intro y _
        by_cases hy : y = x
        · simp [hy, hx]
        · simp [hy]
      rw [if_neg hx, if_neg hx, List.filter_congr hother]
termination_by xs.length
decreasing_by exact Nat.lt_succ_of_le (List.length_filter_le _ xs)

theorem eraseDups_eraseDups (xs : List α) : xs.eraseDups.eraseDups = xs.eraseDups := by
  cases xs with
  | nil => rfl
  | cons x xs =>
    have ih := eraseDups_eraseDups (xs.filter fun y => !y == x)
    rw [List.eraseDups_cons, List.eraseDups_cons, filter_eraseDups, List.filter_filter]
    simp only [Bool.and_self]
    rw [ih]
termination_by xs.length
decreasing_by exact Nat.lt_succ_of_le (List.length_filter_le _ xs)

theorem eraseDups_append_eraseDups (xs ys : List α) :
    (xs.eraseDups ++ ys.eraseDups).eraseDups = (xs ++ ys).eraseDups := by
  have hseen : ys.removeAll xs.eraseDups = ys.removeAll xs :=
    List.filter_congr fun y _ => by simp [List.mem_eraseDups]
  have hnew : ys.eraseDups.removeAll xs.eraseDups = (ys.removeAll xs).eraseDups := by
    rw [← hseen]
    exact filter_eraseDups _ ys
  rw [List.eraseDups_append, List.eraseDups_append, eraseDups_eraseDups, hnew, eraseDups_eraseDups]

theorem eraseDups_append_self (xs : List α) : (xs ++ xs).eraseDups = xs.eraseDups := by
  have hnone : xs.removeAll xs = [] := List.filter_eq_nil_iff.2 fun x hx => by simp [hx]
  rw [List.eraseDups_append, hnone]
  exact List.append_nil _

end FirstOccurrences

/-! ## The seam -/

def Instruction.shift (distance : Nat) (i : Instruction) : Instruction :=
  { i with position := i.position + distance }

/-- Whether code ends where its last instruction does. -/
def EndsWhole (code : Bytes) : Prop := ∀ i ∈ (disassemble code).getLast?, i.isTruncated = false

variable {a b : Bytes} {is js : List Instruction} {position : Nat}

theorem assemble_append (is js : List Instruction) :
    assemble (is ++ js) = assemble is ++ assemble js := List.flatMap_append

theorem assemble_shift (distance : Nat) (is : List Instruction) :
    assemble (is.map (·.shift distance)) = assemble is := by
  rw [assemble, List.flatMap_map]
  rfl

theorem assemble_disassemble (code : Bytes) : assemble (disassemble code) = code :=
  assemble_disassembleFrom 0 code

theorem wellFormed_disassemble (code : Bytes) : WellFormed 0 (disassemble code) :=
  wellFormed_disassembleFrom 0 code

theorem disassemble_eq_nil_iff : disassemble b = [] ↔ b = [] := by
  constructor
  · intro h
    rw [← assemble_disassemble b, h]
    rfl
  · rintro rfl
    exact disassembleFrom.eq_1 0

theorem EndsWhole.isTruncated_eq_false (h : EndsWhole a) :
    ∀ i ∈ disassemble a, i.isTruncated = false := by
  intro i hi
  obtain ⟨last, hlast⟩ : ∃ last, (disassemble a).getLast? = some last :=
    ⟨_, List.getLast?_eq_some_getLast (List.ne_nil_of_mem hi)⟩
  obtain ⟨before, hsplit⟩ := List.getLast?_eq_some_iff.1 hlast
  have hbefore := (wellFormed_disassemble a).isTruncated_eq_false
  rw [hsplit, List.dropLast_concat] at hbefore
  rw [hsplit] at hi
  rcases List.mem_append.1 hi with hi | hi
  · exact hbefore i hi
  · rw [List.mem_singleton.1 hi]
    exact h last hlast

theorem WellFormed.shift (h : WellFormed position is) (distance : Nat) :
    WellFormed (position + distance) (is.map (·.shift distance)) := by
  induction h with
  | nil position => exact .nil _
  | last i h => exact .last (i.shift distance) h
  | cons i rest h _ ih =>
    have hnext : i.position + 1 + i.operand.length + distance =
        (i.shift distance).position + 1 + (i.shift distance).operand.length := by
      simp only [Instruction.shift]
      omega
    rw [hnext] at ih
    exact .cons (i.shift distance) _ h ih

theorem WellFormed.append (h : WellFormed position is) (hwhole : ∀ i ∈ is, i.isTruncated = false)
    (hbehind : WellFormed (position + (assemble is).length) js) :
    WellFormed position (is ++ js) := by
  have hfull : ∀ i : Instruction, i.isTruncated = false → ¬ i.operand.length < i.width :=
    fun i => of_decide_eq_false
  induction h with
  | nil position => exact hbehind
  | last i h =>
    have := hfull i (hwhole i (List.mem_singleton_self i))
    have hend : i.position + (assemble [i]).length = i.position + 1 + i.operand.length := by
      rw [assemble_cons]
      simp only [List.length_cons, List.length_append, assemble, List.flatMap_nil, List.length_nil]
      omega
    rw [hend] at hbehind
    exact .cons i js (by omega) hbehind
  | cons i rest h _ ih =>
    have hend : i.position + (assemble (i :: rest)).length =
        i.position + 1 + i.operand.length + (assemble rest).length := by
      rw [assemble_cons, List.length_cons, List.length_append]
      omega
    rw [hend] at hbehind
    exact .cons i _ h (ih (fun j hj => hwhole j (List.mem_cons_of_mem i hj)) hbehind)

theorem disassemble_append (h : EndsWhole a) (b : Bytes) :
    disassemble (a ++ b) = disassemble a ++ (disassemble b).map (·.shift a.length) := by
  rw [disassemble_eq_iff]
  constructor
  · refine (wellFormed_disassemble a).append h.isTruncated_eq_false ?_
    rw [assemble_disassemble]
    exact (wellFormed_disassemble b).shift a.length
  · rw [assemble_append, assemble_shift, assemble_disassemble, assemble_disassemble]

/-- Code that ends inside an operand cannot be swept apart from any byte behind it. -/
theorem disassemble_append_iff :
    disassemble (a ++ b) = disassemble a ++ (disassemble b).map (·.shift a.length) ↔
      EndsWhole a ∨ b = [] := by
  constructor
  · intro hsweep
    by_cases hb : b = []
    · exact .inr hb
    · have hbehind : (disassemble b).map (·.shift a.length) ≠ [] :=
        fun h => hb (disassemble_eq_nil_iff.1 (List.map_eq_nil_iff.1 h))
      have hwhole := (wellFormed_disassemble (a ++ b)).isTruncated_eq_false
      rw [hsweep, List.dropLast_append_of_ne_nil hbehind] at hwhole
      exact .inl fun i hi => hwhole i (List.mem_append_left _ (List.mem_of_getLast? hi))
  · rintro (ha | rfl)
    · exact disassemble_append ha b
    · simp [disassemble_eq_nil_iff.2]

/-! ## The constants of both -/

/-- The constants of code, and then those that are new in code behind it. -/
def Scan.followedBy (s t : Scan) : Scan where
  selectors := (s.selectors ++ t.selectors).eraseDups
  slots := (s.slots ++ t.slots).eraseDups
  addresses := (s.addresses ++ t.addresses).eraseDups

theorem Scan.ofInstructions_append (is js : List Instruction) :
    ofInstructions (is ++ js) = (ofInstructions is).followedBy (ofInstructions js) := by
  simp only [ofInstructions, followedBy, List.filterMap_append, eraseDups_append_eraseDups]

theorem Scan.ofInstructions_shift (distance : Nat) (is : List Instruction) :
    ofInstructions (is.map (·.shift distance)) = ofInstructions is := by
  simp only [ofInstructions, List.filterMap_map]
  rfl

theorem Scan.followedBy_self (is : List Instruction) :
    (ofInstructions is).followedBy (ofInstructions is) = ofInstructions is := by
  simp only [ofInstructions, followedBy, eraseDups_append_self, eraseDups_eraseDups]

/-- **Scanning goes piece by piece.** The sweep over code and what is behind it is the sweep over
either, the second moved behind the first, just when the first ends with a whole instruction or
nothing is behind it. In code that ends whole the constants are those of the first piece and then
the new ones of the second, and the same piece once more brings nothing new. -/
theorem scan_append (a b : Bytes) :
    (disassemble (a ++ b) = disassemble a ++ (disassemble b).map (·.shift a.length) ↔
      EndsWhole a ∨ b = []) ∧
    (EndsWhole a → scan (a ++ b) = (scan a).followedBy (scan b) ∧ scan (a ++ a) = scan a) := by
  refine ⟨disassemble_append_iff, fun ha => ?_⟩
  have hscan : ∀ c, scan (a ++ c) = (scan a).followedBy (scan c) := by
    intro c
    rw [scan, disassemble_append ha c, Scan.ofInstructions_append, Scan.ofInstructions_shift]
    rfl
  refine ⟨hscan b, ?_⟩
  rw [hscan a]
  exact Scan.followedBy_self (disassemble a)

/-- One slot that both pieces have, one that only the second has, and one that is cut short. -/
theorem scan_append_sample :
    let a : Bytes := [0x60, 0x02, 0x00]
    let b : Bytes := [0x60, 0x03, 0x60, 0x02, 0x7f, 0xaa]
    EndsWhole a ∧ ¬ EndsWhole b ∧ scan (a ++ b) = (scan a).followedBy (scan b) ∧
      (scan (a ++ b)).slots = [2, 3, 0xaa].map (FixedBytes.ofNat 32) ∧ scan (a ++ a) = scan a := by
  intro a b
  have ha : EndsWhole a := by unfold EndsWhole; decide +kernel
  have hb : ¬ EndsWhole b := by unfold EndsWhole; decide +kernel
  obtain ⟨hscan, hself⟩ := (scan_append a b).2 ha
  exact ⟨ha, hb, hscan, by decide +kernel, hself⟩

end SellProbe.Bytecode
