import Mathlib.Data.List.Infix
import SellProbe.Proofs.ByteOrder
import SellProbe.Proofs.Searching

/-!
# Searching in bytes

A place in a text can be counted in bytes, and then it need not be one where a character begins. A
search always ends at the beginning of a character: the first byte of a pattern leads a character,
and no other byte of a character does. So cutting the text where a search ends cannot fail, and what
is behind the cut is what a search by characters finds (`sliceFrom?_firstByte?`).
-/

open scoped List

namespace SellProbe.Utf8

variable {c : Char} {cs : List Char}

/-- How many bytes stand before the first place where a pattern stands among some bytes. -/
def find? (pattern : Bytes) : Bytes → Option Nat
  | [] => if pattern.isPrefixOf [] then some 0 else none
  | b :: bs => if pattern.isPrefixOf (b :: bs) then some 0 else (find? pattern bs).map (· + 1)

/-- How many bytes stand before the first place where one of the patterns stands in a text. -/
def firstByte? (patterns : List (List Char)) (cs : List Char) : Option Nat :=
  (patterns.filterMap fun p => find? (encodeChars p) (encodeChars cs)).min?

/-- The text behind so many bytes, if a character begins or the text ends there. -/
def sliceFrom? : Nat → List Char → Option (List Char)
  | 0, cs => some cs
  | _ + 1, [] => none
  | n + 1, c :: cs => if c.utf8Size ≤ n + 1 then sliceFrom? (n + 1 - c.utf8Size) cs else none

theorem sliceFrom?_add (n : Nat) : sliceFrom? (n + c.utf8Size) (c :: cs) = sliceFrom? n cs := by
  have hpos : 0 < n + c.utf8Size := Nat.add_pos_right n c.utf8Size_pos
  obtain ⟨k, hk⟩ := Nat.exists_eq_succ_of_ne_zero (Nat.ne_of_gt hpos)
  rw [hk, sliceFrom?, ← Nat.succ_eq_add_one, ← hk, if_pos (Nat.le_add_left _ _), Nat.add_sub_cancel]

/-! ## Patterns at the beginning of a character -/

theorem encodeChar_append_inj {c d : Char} {x y : Bytes}
    (h : String.utf8EncodeChar c ++ x = String.utf8EncodeChar d ++ y) : c = d ∧ x = y := by
  rcases Nat.lt_trichotomy c.toNat d.toNat with hlt | heq | hlt
  · exact absurd (h ▸ encodeChar_append_lt hlt x y) (List.lt_irrefl _)
  · obtain rfl := Char.toNat_inj.1 heq
    exact ⟨rfl, List.append_cancel_left h⟩
  · exact absurd (h ▸ encodeChar_append_lt hlt y x) (List.lt_irrefl _)

/-- A text begins with a pattern just when its bytes begin with those of the pattern. -/
theorem encodeChars_prefix_iff {p : List Char} : encodeChars p <+: encodeChars cs ↔ p <+: cs := by
  constructor
  · rintro ⟨rest, hrest⟩
    induction p generalizing cs with
    | nil => exact List.nil_prefix
    | cons d p ih =>
      rw [encodeChars, List.flatMap_cons, List.append_assoc] at hrest
      cases cs with
      | nil =>
        have hlead := congrArg List.length hrest
        rw [List.length_append, String.length_utf8EncodeChar] at hlead
        have := d.utf8Size_pos
        simp only [encodeChars, List.flatMap_nil, List.length_nil] at hlead
        omega
      | cons c cs =>
        obtain ⟨rfl, htail⟩ := encodeChar_append_inj hrest
        exact List.cons_prefix_cons.2 ⟨rfl, ih htail⟩
  · rintro ⟨rest, rfl⟩
    rw [encodeChars, encodeChars, List.flatMap_append]
    exact List.prefix_append _ _

/-! ## Bytes where no character begins -/

/-- A byte of a character that is not its first one. -/
def IsTrailing (b : UInt8) : Prop := 128 ≤ b.toNat ∧ b.toNat < 192

theorem isTrailing_of_mem_trail {k v : Nat} {b : UInt8} (h : b ∈ trail k v) : IsTrailing b := by
  induction k with
  | zero => cases h
  | succ k ih =>
    rcases List.mem_cons.1 h with rfl | h
    · rw [IsTrailing, UInt8.toNat_ofNat_of_lt' (by simp only [UInt8.size]; omega)]
      omega
    · exact ih h

theorem not_isTrailing_lead (c : Char) : ¬ IsTrailing (UInt8.ofNat (lead c.toNat)) := by
  have hlt := lead_lt (toNat_lt c)
  rw [IsTrailing, UInt8.toNat_ofNat_of_lt' hlt]
  unfold lead
  split_ifs <;> omega

/-- A pattern whose first byte leads a character stands behind all trailing bytes. -/
theorem find?_trailing {q : Bytes} {b : UInt8} (hb : ¬ IsTrailing b) {ts bs : Bytes}
    (hts : ∀ t ∈ ts, IsTrailing t) :
    find? (b :: q) (ts ++ bs) = (find? (b :: q) bs).map (· + ts.length) := by
  induction ts with
  | nil => simp
  | cons t ts ih =>
    obtain ⟨ht, hts⟩ := List.forall_mem_cons.1 hts
    have hne : ¬ (b :: q).isPrefixOf (t :: (ts ++ bs)) = true := by
      rw [List.isPrefixOf_iff_prefix, List.cons_prefix_cons]
      rintro ⟨rfl, -⟩
      exact hb ht
    rw [List.cons_append, find?, if_neg hne, ih hts, Option.map_map]
    rfl

/-- A pattern that does not stand at a character is looked for at the next one. -/
theorem find?_cons_of_not_begins {p : List Char} (h : ¬ p <+: c :: cs) :
    find? (encodeChars p) (encodeChars (c :: cs)) =
      (find? (encodeChars p) (encodeChars cs)).map (· + c.utf8Size) := by
  have hbegins : ¬ (encodeChars p).isPrefixOf (encodeChars (c :: cs)) = true := by
    rwa [List.isPrefixOf_iff_prefix, encodeChars_prefix_iff]
  obtain ⟨d, q, rfl⟩ : ∃ d q, p = d :: q := List.exists_cons_of_ne_nil (by
    rintro rfl
    exact h List.nil_prefix)
  have hbytes : ∀ d q, encodeChars (d :: q) =
      UInt8.ofNat (lead d.toNat) :: (trail (extra d.toNat) d.toNat ++ encodeChars q) := by
    intro d q
    rw [encodeChars, List.flatMap_cons, utf8EncodeChar_eq, List.cons_append]
    rfl
  have hsize : c.utf8Size = (trail (extra c.toNat) c.toNat).length + 1 := by
    rw [← String.length_utf8EncodeChar, utf8EncodeChar_eq, List.length_cons]
  rw [hbytes c] at hbegins ⊢
  rw [find?, if_neg hbegins, hbytes d,
    find?_trailing (not_isTrailing_lead d) fun t ht => isTrailing_of_mem_trail ht, Option.map_map,
    hsize]
  rfl

/-! ## The first of several patterns -/

theorem min?_map_add (l : List Nat) (k : Nat) : (l.map (· + k)).min? = l.min?.map (· + k) := by
  cases hmin : l.min? with
  | none =>
    rw [List.min?_eq_none_iff] at hmin
    rw [hmin]
    rfl
  | some m =>
    obtain ⟨hmem, hle⟩ := List.min?_eq_some_iff.1 hmin
    refine List.min?_eq_some_iff.2 ⟨List.mem_map_of_mem hmem, fun n hn => ?_⟩
    obtain ⟨m', hm', rfl⟩ := List.mem_map.1 hn
    exact Nat.add_le_add_right (hle m' hm') k

theorem find?_of_begins {p : List Char} (h : p <+: cs) :
    find? (encodeChars p) (encodeChars cs) = some 0 := by
  have hbegins : (encodeChars p).isPrefixOf (encodeChars cs) = true :=
    List.isPrefixOf_iff_prefix.2 (encodeChars_prefix_iff.2 h)
  generalize encodeChars cs = bs at hbegins
  cases bs <;> exact if_pos hbegins

theorem firstByte?_of_begins {patterns : List (List Char)} {p : List Char} (hp : p ∈ patterns)
    (h : p <+: cs) : firstByte? patterns cs = some 0 :=
  List.min?_eq_some_iff.2
    ⟨List.mem_filterMap.2 ⟨p, hp, find?_of_begins h⟩, fun _ _ => Nat.zero_le _⟩

theorem firstByte?_cons_of_not_begins {patterns : List (List Char)}
    (h : ∀ p ∈ patterns, ¬ p <+: c :: cs) :
    firstByte? patterns (c :: cs) = (firstByte? patterns cs).map (· + c.utf8Size) := by
  rw [firstByte?, firstByte?, ← min?_map_add, List.map_filterMap]
  exact congrArg List.min? (List.filterMap_congr fun p hp => find?_cons_of_not_begins (h p hp))

/-- **Cutting where a search ends.** The first place in bytes where one of the patterns stands is
one where the text can be cut, and what is behind it is what the search by characters finds. -/
theorem sliceFrom?_firstByte? (patterns : List (List Char)) (cs : List Char) :
    (firstByte? patterns cs).map (sliceFrom? · cs) = (Text.fromFirst? patterns cs).map some := by
  induction cs with
  | nil =>
    by_cases hstarts : ∃ p ∈ patterns, p <+: []
    · obtain ⟨p, hp, hbegins⟩ := hstarts
      rw [firstByte?_of_begins hp hbegins, Text.fromFirst?_of_begins hp hbegins]
      rfl
    · have hnone : ∀ p ∈ patterns, find? (encodeChars p) (encodeChars []) = none := by
        intro p hp
        refine if_neg fun hbegins => hstarts ⟨p, hp, ?_⟩
        exact encodeChars_prefix_iff.1 (List.isPrefixOf_iff_prefix.1 hbegins)
      have hfirst : firstByte? patterns [] = none := by
        rw [firstByte?, List.min?_eq_none_iff, List.filterMap_eq_nil_iff]
        exact hnone
      rw [hfirst, Text.fromFirst?, if_neg (fun h => hstarts (Text.any_isPrefixOf_iff.1 h))]
      rfl
  | cons c cs ih =>
    by_cases hstarts : ∃ p ∈ patterns, p <+: c :: cs
    · obtain ⟨p, hp, hbegins⟩ := hstarts
      rw [firstByte?_of_begins hp hbegins, Text.fromFirst?_of_begins hp hbegins]
      rfl
    · have hfirst : ∀ p ∈ patterns, ¬ p <+: c :: cs := fun p hp hbegins =>
        hstarts ⟨p, hp, hbegins⟩
      rw [firstByte?_cons_of_not_begins hfirst, Text.fromFirst?_cons_of_not_begins hfirst, ← ih,
        Option.map_map]
      congr 1
      funext n
      exact sliceFrom?_add n

end SellProbe.Utf8
