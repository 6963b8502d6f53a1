import SellProbe.Hex

/-!
# Hex digits

The digits of either case and their values. Digits are single bytes of text, neither gaps nor part
of a mark, and reading them one by one gives their values. Bytes are written as two digits each, and
the values of these digits are packed into the same bytes again.
-/

namespace SellProbe

namespace Utf8

theorem length_cons (c : Char) (cs : List Char) : length (c :: cs) = c.utf8Size + length cs := by
  rw [length, encodeChars, List.flatMap_cons, List.length_append, String.length_utf8EncodeChar]
  rfl

theorem le_length (cs : List Char) : cs.length ≤ length cs := by
  induction cs with
  | nil => exact Nat.le_refl _
  | cons c cs ih =>
    have hc := c.utf8Size_pos
    rw [length_cons, List.length_cons]
    omega

end Utf8

namespace Hex

def IsDigit (c : Char) : Prop :=
  ('0' ≤ c ∧ c ≤ '9') ∨ ('a' ≤ c ∧ c ≤ 'f') ∨ ('A' ≤ c ∧ c ≤ 'F')

def value (c : Char) : Nat :=
  if c ≤ '9' then c.toNat - '0'.toNat
  else if c ≤ 'F' then c.toNat - 'A'.toNat + 10
  else c.toNat - 'a'.toNat + 10

variable {c : Char} {ds : List Char} {vs : List Nat} {bs : Bytes}

/-! ## Digits in a text -/

theorem isDigit_iff : IsDigit c ↔ (48 ≤ c.toNat ∧ c.toNat ≤ 57) ∨
    (97 ≤ c.toNat ∧ c.toNat ≤ 102) ∨ (65 ≤ c.toNat ∧ c.toNat ≤ 70) := Iff.rfl

theorem value_eq (c : Char) : value c =
    if c.toNat ≤ 57 then c.toNat - 48 else if c.toNat ≤ 70 then c.toNat - 65 + 10
    else c.toNat - 97 + 10 := rfl

theorem digit?_eq (c : Char) : digit? c =
    if 48 ≤ c.toNat ∧ c.toNat ≤ 57 then some (c.toNat - 48)
    else if 97 ≤ c.toNat ∧ c.toNat ≤ 102 then some (c.toNat - 87)
    else if 65 ≤ c.toNat ∧ c.toNat ≤ 70 then some (c.toNat - 55)
    else none := rfl

theorem digit?_eq_some_iff {v : Nat} : digit? c = some v ↔ IsDigit c ∧ value c = v := by
  rw [digit?_eq, isDigit_iff, value_eq]
  generalize c.toNat = n
  grind

theorem value_lt (h : IsDigit c) : value c < 16 := by
  rw [isDigit_iff] at h
  rw [value_eq]
  generalize c.toNat = n at h
  grind

theorem utf8Size_of_isDigit (h : IsDigit c) : c.utf8Size = 1 := by
  have hle : c.toNat ≤ 127 := by
    rcases isDigit_iff.1 h with h | h | h <;> omega
  exact Char.utf8Size_eq_one_iff.2 hle

theorem ne_x_of_isDigit (h : IsDigit c) : c ≠ 'x' := by
  rintro rfl
  revert h
  unfold IsDigit
  decide

theorem isGap_of_isDigit (h : IsDigit c) : isGap c = false := by
  rw [Bool.eq_false_iff]
  intro hgap
  simp only [isGap, Bool.or_eq_true, beq_iff_eq] at hgap
  rcases hgap with ((rfl | rfl) | rfl) | rfl <;> revert h <;> unfold IsDigit <;> decide

theorem utf8Length_eq (h : ∀ c ∈ ds, IsDigit c) : Utf8.length ds = ds.length := by
  induction ds with
  | nil => rfl
  | cons d ds ih =>
    obtain ⟨hd, hds⟩ := List.forall_mem_cons.1 h
    rw [Utf8.length_cons, utf8Size_of_isDigit hd, ih hds, List.length_cons, Nat.add_comm]

theorem mapM_digit?_eq_some_iff :
    ds.mapM digit? = some vs ↔ (∀ c ∈ ds, IsDigit c) ∧ vs = ds.map value := by
  induction ds generalizing vs with
  | nil => simp [eq_comm]
  | cons d ds ih =>
    rw [List.mapM_cons]
    simp only [Option.bind_eq_bind, Option.bind_eq_some_iff, digit?_eq_some_iff, ih,
      List.forall_mem_cons, List.map_cons]
    constructor
    · rintro ⟨v, ⟨hd, rfl⟩, vs, ⟨hds, rfl⟩, h⟩
      exact ⟨⟨hd, hds⟩, (Option.some.inj h).symm⟩
    · rintro ⟨⟨hd, hds⟩, rfl⟩
      exact ⟨_, ⟨hd, rfl⟩, _, ⟨hds, rfl⟩, rfl⟩

def withoutGaps (cs : List Char) : List Char := cs.filter (· ∉ [' ', '\r', '\n', '\t'])

theorem filter_isGap (cs : List Char) : (cs.filter fun c => !isGap c) = withoutGaps cs :=
  List.filter_congr fun c _ => by rw [Bool.eq_iff_iff]; simp [isGap, and_assoc]

theorem values?_eq (cs : List Char) : values? cs = (withoutGaps cs).mapM digit? := by
  rw [values?, filter_isGap]

theorem withoutGaps_of_digits (h : ∀ c ∈ ds, IsDigit c) : withoutGaps ds = ds := by
  rw [← filter_isGap, List.filter_eq_self]
  intro c hc
  rw [isGap_of_isDigit (h c hc)]
  rfl

/-! ## Digits of bytes -/

theorem digit?_digitChar : ∀ n, n < 16 → digit? (digitChar n) = some n := by decide

def halves (bs : Bytes) : List Nat := bs.flatMap fun b => [b.toNat / 16, b.toNat % 16]

theorem lt_of_mem_halves {n : Nat} (h : n ∈ halves bs) : n < 16 := by
  obtain ⟨b, -, hb⟩ := List.mem_flatMap.1 h
  have hlt : b.toNat < 256 := b.toNat_lt
  have hcases : n = b.toNat / 16 ∨ n = b.toNat % 16 := by simpa using hb
  omega

theorem digits_eq_map (bs : Bytes) : digits bs = (halves bs).map digitChar := by
  rw [digits, halves, List.map_flatMap]
  rfl

theorem isDigit_of_mem_digits (h : c ∈ digits bs) : IsDigit c := by
  rw [digits_eq_map] at h
  obtain ⟨n, hn, rfl⟩ := List.mem_map.1 h
  exact (digit?_eq_some_iff.1 (digit?_digitChar n (lt_of_mem_halves hn))).1

theorem map_value_digits (bs : Bytes) : (digits bs).map value = halves bs := by
  have hvalue : ∀ n ∈ halves bs, (value ∘ digitChar) n = id n := fun n hn =>
    (digit?_eq_some_iff.1 (digit?_digitChar n (lt_of_mem_halves hn))).2
  rw [digits_eq_map, List.map_map, List.map_congr_left hvalue, List.map_id]

@[simp] theorem length_digits (bs : Bytes) : (digits bs).length = 2 * bs.length := by
  induction bs with
  | nil => rfl
  | cons b bs ih =>
    rw [digits, List.flatMap_cons, List.length_append, ← digits, ih, List.length_cons]
    simp only [List.length_cons, List.length_nil]
    omega

theorem pack_halves (bs : Bytes) : pack (halves bs) = bs := by
  induction bs with
  | nil => rfl
  | cons b bs ih =>
    have hb : b.toNat / 16 * 16 + b.toNat % 16 = b.toNat := Nat.div_add_mod' b.toNat 16
    show UInt8.ofNat (b.toNat / 16 * 16 + b.toNat % 16) :: pack (halves bs) = b :: bs
    rw [ih, hb, UInt8.ofNat_toNat]

theorem values?_digits (bs : Bytes) : values? (digits bs) = some (halves bs) := by
  have hdigits : ∀ c ∈ digits bs, IsDigit c := fun c => isDigit_of_mem_digits
  rw [values?_eq, withoutGaps_of_digits hdigits]
  exact mapM_digit?_eq_some_iff.2 ⟨hdigits, (map_value_digits bs).symm⟩

theorem utf8Length_digits (bs : Bytes) : Utf8.length (digits bs) = 2 * bs.length := by
  rw [utf8Length_eq fun c => isDigit_of_mem_digits, length_digits]

end Hex

theorem FixedBytes.ofList?_toList {n : Nat} (b : FixedBytes n) : ofList? n b.toList = some b :=
  dif_pos b.length_toList

end SellProbe
