import Mathlib.Data.List.DropRight
import SellProbe.Bytecode.HexText
import SellProbe.Proofs.ByteOrder
import SellProbe.Proofs.HexReading

/-!
# Code as hex text

Blanks around the text are trimmed first, then all marks in front are dropped, and what is left is
read byte by byte. A character that is no digit may have several bytes, and not all of them are
digits, so the bytes are digits just when the characters are, and then there are as many. So a text
is code if and only if an even number of digits is left, and otherwise the error says what is wrong
with the bytes that are left (`hex_decoding_exact`).
-/

open scoped List

namespace SellProbe

/-- Blanks around a text without blanks are trimmed, and nothing else is. -/
theorem Text.trim_append {before cs behind : List Char} (hbefore : ∀ c ∈ before, isBlank c = true)
    (hcs : ∀ c ∈ cs, isBlank c = false) (hbehind : ∀ c ∈ behind, isBlank c = true) :
    trim (before ++ cs ++ behind) = cs := by
  have hleft : trimLeft (before ++ cs ++ behind) = trimLeft (cs ++ behind) := by
    rw [List.append_assoc]
    exact List.dropWhile_append_of_pos hbefore
  rw [trim, hleft]
  cases cs with
  | nil =>
    have hnil : trimLeft ([] ++ behind) = [] := List.dropWhile_eq_nil_iff.2 hbehind
    rw [hnil]
    rfl
  | cons c cs =>
    have hc : ¬ isBlank c = true := by simp [hcs c List.mem_cons_self]
    have hfirst : trimLeft (c :: cs ++ behind) = c :: cs ++ behind :=
      List.dropWhile_cons_of_neg hc
    have hright : trimRight (c :: cs ++ behind) = trimRight (c :: cs) := by
      have hreverse : ∀ d ∈ behind.reverse, isBlank d = true := by simpa using hbehind
      rw [trimRight, List.reverse_append, List.dropWhile_append_of_pos hreverse]
      rfl
    rw [hfirst, hright]
    refine List.rdropWhile_eq_self_iff.2 fun hne => ?_
    simp [hcs _ (List.getLast_mem hne)]

namespace Hex

/-! ## Bytes -/

section Bytes

variable {b : UInt8} {bs before : Bytes} {position : Nat}

def IsDigitByte (b : UInt8) : Prop := IsDigit (Char.ofNat b.toNat)

def byteValue (b : UInt8) : Nat := value (Char.ofNat b.toNat)

/-- What is wrong with the bytes of a hex text: their number is odd, or it is even and one of them
is the first that is no digit. -/
inductive Fault (bs : Bytes) : Error → Prop
  | oddLength (h : bs.length % 2 = 1) : Fault bs .oddLength
  | badByte (before : Bytes) (b : UInt8) (behind : Bytes) (heven : bs.length % 2 = 0)
      (hbs : bs = before ++ b :: behind) (hbefore : ∀ d ∈ before, IsDigitByte d)
      (hb : ¬ IsDigitByte b) : Fault bs (.badByte b before.length)

theorem byteDigits_cons (hb : IsDigitByte b) :
    byteDigits position (b :: bs) = (byteDigits (position + 1) bs).map (byteValue b :: ·) := by
  have hvalue : byteDigit? b = some (byteValue b) := digit?_eq_some_iff.2 ⟨hb, rfl⟩
  rw [byteDigits, hvalue]

theorem byteDigits_cons_of_not (hb : ¬ IsDigitByte b) :
    byteDigits position (b :: bs) = .error (.badByte b position) := by
  have hvalue : byteDigit? b = none :=
    Option.eq_none_iff_forall_ne_some.2 fun v hv => hb (digit?_eq_some_iff.1 hv).1
  rw [byteDigits, hvalue]

theorem byteDigits_append (hbefore : ∀ d ∈ before, IsDigitByte d) :
    byteDigits position (before ++ bs) =
      (byteDigits (position + before.length) bs).map (before.map byteValue ++ ·) := by
  induction before generalizing position with
  | nil => cases h : byteDigits position bs <;> simp [h, Except.map]
  | cons d before ih =>
    obtain ⟨hd, hbefore⟩ := List.forall_mem_cons.1 hbefore
    have hplace : position + 1 + before.length = position + (d :: before).length := by
      rw [List.length_cons]
      omega
    rw [List.cons_append, byteDigits_cons hd, ih hbefore, hplace]
    cases byteDigits (position + (d :: before).length) bs <;> rfl

theorem digitBytes_or_first (bs : Bytes) : (∀ b ∈ bs, IsDigitByte b) ∨
    ∃ before b behind, bs = before ++ b :: behind ∧ (∀ d ∈ before, IsDigitByte d) ∧
      ¬ IsDigitByte b := by
  induction bs with
  | nil => exact .inl (List.forall_mem_nil _)
  | cons d bs ih =>
    by_cases hd : IsDigitByte d
    · rcases ih with hall | ⟨before, b, behind, rfl, hbefore, hb⟩
      · exact .inl (List.forall_mem_cons.2 ⟨hd, hall⟩)
      · exact .inr ⟨d :: before, b, behind, rfl, List.forall_mem_cons.2 ⟨hd, hbefore⟩, hb⟩
    · exact .inr ⟨[], d, bs, rfl, List.forall_mem_nil _, hd⟩

end Bytes

/-! ## Characters -/

section Characters

variable {c : Char} {cs ds : List Char} {e : Error}

theorem encodeChar_of_isDigit (h : IsDigit c) :
    String.utf8EncodeChar c = [UInt8.ofNat c.toNat] ∧
      Char.ofNat (UInt8.ofNat c.toNat).toNat = c := by
  have hsmall : c.toNat ≤ 127 := Char.utf8Size_eq_one_iff.1 (utf8Size_of_isDigit h)
  have hbyte : (UInt8.ofNat c.toNat).toNat = c.toNat :=
    UInt8.toNat_ofNat_of_lt' (by simp only [UInt8.size]; omega)
  constructor
  · rw [Utf8.utf8EncodeChar_eq, Utf8.lead, Utf8.extra, if_pos hsmall, if_pos hsmall]
    rfl
  · rw [hbyte, Char.ofNat_toNat]

/-- A digit is one byte, and the first byte of another character is none. -/
theorem isDigitByte_encodeChar_iff :
    (∀ b ∈ String.utf8EncodeChar c, IsDigitByte b) ↔ IsDigit c := by
  constructor
  · intro h
    have hlt : Utf8.lead c.toNat < 256 := Utf8.lead_lt (Utf8.toNat_lt c)
    have hlead : IsDigit (Char.ofNat (Utf8.lead c.toNat)) := by
      have hfirst := h _ (Utf8.utf8EncodeChar_eq c ▸ List.mem_cons_self)
      rwa [IsDigitByte, UInt8.toNat_ofNat_of_lt' hlt] at hfirst
    have hcode : (Char.ofNat (Utf8.lead c.toNat)).toNat = Utf8.lead c.toNat := by
      have hvalid : (Utf8.lead c.toNat).isValidChar := .inl (by omega)
      rw [Char.ofNat, dif_pos hvalid]
      rfl
    have hsmall : Utf8.lead c.toNat ≤ 102 := by
      rcases isDigit_iff.1 hlead with h | h | h <;> omega
    have hsingle : Utf8.lead c.toNat = c.toNat := by
      unfold Utf8.lead at hsmall ⊢
      split_ifs at hsmall ⊢ <;> omega
    rwa [hsingle, Char.ofNat_toNat] at hlead
  · intro h b hb
    obtain ⟨hbytes, hchar⟩ := encodeChar_of_isDigit h
    rw [hbytes, List.mem_singleton] at hb
    rw [hb, IsDigitByte, hchar]
    exact h

theorem isDigitByte_encodeChars_iff :
    (∀ b ∈ Utf8.encodeChars cs, IsDigitByte b) ↔ ∀ c ∈ cs, IsDigit c := by
  simp only [Utf8.encodeChars, List.forall_mem_flatMap, isDigitByte_encodeChar_iff]

theorem map_byteValue_encodeChars (h : ∀ c ∈ ds, IsDigit c) :
    (Utf8.encodeChars ds).map byteValue = ds.map value := by
  induction ds with
  | nil => rfl
  | cons c ds ih =>
    obtain ⟨hc, hds⟩ := List.forall_mem_cons.1 h
    obtain ⟨hbytes, hchar⟩ := encodeChar_of_isDigit hc
    rw [Utf8.encodeChars, List.flatMap_cons, hbytes]
    show byteValue _ :: (Utf8.encodeChars ds).map byteValue = value c :: ds.map value
    rw [ih hds, byteValue, hchar]

/-- Either an even number of digits, or a text with something wrong. -/
theorem digits_or_fault (cs : List Char) :
    (cs.length % 2 = 0 ∧ ∀ c ∈ cs, IsDigit c) ∨ ∃ e, Fault (Utf8.encodeChars cs) e := by
  rcases Nat.mod_two_eq_zero_or_one (Utf8.encodeChars cs).length with heven | hodd
  · rcases digitBytes_or_first (Utf8.encodeChars cs) with hall | ⟨before, b, behind, hbs, hfirst⟩
    · have hdigits := isDigitByte_encodeChars_iff.1 hall
      exact .inl ⟨utf8Length_eq hdigits ▸ heven, hdigits⟩
    · exact .inr ⟨_, .badByte before b behind heven hbs hfirst.1 hfirst.2⟩
  · exact .inr ⟨_, .oddLength hodd⟩

theorem decodeStrict_of_digits (heven : ds.length % 2 = 0) (h : ∀ c ∈ ds, IsDigit c) :
    decodeStrict ds = .ok (pack (ds.map value)) := by
  have hlength : ¬ (Utf8.encodeChars ds).length % 2 = 1 := by
    have hbytes : (Utf8.encodeChars ds).length = ds.length := utf8Length_eq h
    omega
  have hvalues : byteDigits 0 (Utf8.encodeChars ds ++ []) = _ :=
    byteDigits_append (isDigitByte_encodeChars_iff.2 h)
  rw [List.append_nil, map_byteValue_encodeChars h] at hvalues
  rw [decodeStrict, if_neg hlength, hvalues]
  simp [byteDigits, Except.map]

theorem decodeStrict_of_fault (h : Fault (Utf8.encodeChars cs) e) : decodeStrict cs = .error e := by
  cases h with
  | oddLength h => exact if_pos h
  | badByte before b behind heven hbs hbefore hb =>
    have hlength : ¬ (Utf8.encodeChars cs).length % 2 = 1 := by omega
    rw [decodeStrict, if_neg hlength, hbs, byteDigits_append hbefore, byteDigits_cons_of_not hb,
      Nat.zero_add]
    rfl

theorem exists_decodeStrict_iff :
    (∃ bs, decodeStrict cs = .ok bs) ↔ cs.length % 2 = 0 ∧ ∀ c ∈ cs, IsDigit c := by
  constructor
  · rintro ⟨bs, h⟩
    refine (digits_or_fault cs).resolve_right ?_
    rintro ⟨e, he⟩
    rw [decodeStrict_of_fault he] at h
    cases h
  · rintro ⟨heven, hdigits⟩
    exact ⟨_, decodeStrict_of_digits heven hdigits⟩

theorem decodeStrict_eq_error_iff : decodeStrict cs = .error e ↔ Fault (Utf8.encodeChars cs) e := by
  refine ⟨fun h => ?_, decodeStrict_of_fault⟩
  rcases digits_or_fault cs with ⟨heven, hdigits⟩ | ⟨e', he'⟩
  · rw [decodeStrict_of_digits heven hdigits] at h
    cases h
  · rw [decodeStrict_of_fault he'] at h
    cases h
    exact he'

end Characters

/-! ## Digits of either case -/

theorem toNat_toLower (c : Char) :
    c.toLower.toNat = if 65 ≤ c.toNat ∧ c.toNat ≤ 90 then c.toNat + 32 else c.toNat := by
  unfold Char.toLower
  by_cases h : c.val ≥ 'A'.val ∧ c.val ≤ 'Z'.val
  · have hupper : 65 ≤ c.toNat ∧ c.toNat ≤ 90 := h
    rw [dif_pos h, if_pos hupper]
    show (c.val + ('a'.val - 'A'.val)).toNat = c.toNat + 32
    rw [UInt32.toNat_add]
    show (c.toNat + 32) % 4294967296 = c.toNat + 32
    omega
  · have hother : ¬ (65 ≤ c.toNat ∧ c.toNat ≤ 90) := h
    rw [dif_neg h, if_neg hother]

theorem isDigit_of_toLower {c : Char} (h : IsDigit c.toLower) :
    IsDigit c ∧ value c.toLower = value c := by
  rw [isDigit_iff, toNat_toLower] at h
  rw [isDigit_iff, value_eq, value_eq, toNat_toLower]
  generalize c.toNat = n at h ⊢
  grind

/-- Digits that are those of some bytes but for their case have the same values. -/
theorem isDigit_of_map_toLower {ds : List Char} {bs : Bytes} (h : ds.map Char.toLower = digits bs) :
    (∀ c ∈ ds, IsDigit c) ∧ ds.map value = halves bs := by
  have hlower : ∀ c ∈ ds, IsDigit c ∧ value c.toLower = value c := by
    intro c hc
    apply isDigit_of_toLower
    exact isDigit_of_mem_digits (h ▸ List.mem_map_of_mem hc)
  refine ⟨fun c hc => (hlower c hc).1, ?_⟩
  rw [← map_value_digits, ← h, List.map_map]
  exact List.map_congr_left fun c hc => (hlower c hc).2.symm

/-! ## Marks -/

section Marks

variable {cs ds : List Char} {k : Nat}

theorem dropMarks_of_not_begins (h : ¬ ['0', 'x'] <+: cs) : dropMarks cs = cs := by
  unfold dropMarks
  split
  next rest => exact absurd (List.prefix_append ['0', 'x'] rest) h
  next => rfl

theorem not_begins_dropMarks (cs : List Char) : ¬ ['0', 'x'] <+: dropMarks cs := by
  fun_induction dropMarks cs with
  | case1 rest ih => exact ih
  | case2 cs hother =>
    rintro ⟨rest, hrest⟩
    exact hother rest hrest.symm

theorem isBlank_of_isDigit {c : Char} (h : IsDigit c) : Text.isBlank c = false := by
  rw [Bool.eq_false_iff]
  intro hblank
  rw [isDigit_iff] at h
  simp only [Text.isBlank, Bool.or_eq_true, Bool.and_eq_true, decide_eq_true_eq, beq_iff_eq]
    at hblank
  omega

theorem isBlank_of_mem_marks_append (hds : ∀ c ∈ ds, IsDigit c) :
    ∀ c ∈ marks k ++ ds, Text.isBlank c = false := by
  intro c hc
  rcases List.mem_append.1 hc with hmark | hdigit
  · obtain ⟨mark, hmark, hc⟩ := List.mem_flatten.1 hmark
    rw [List.eq_of_mem_replicate hmark] at hc
    have hchars : ∀ d ∈ ['0', 'x'], Text.isBlank d = false :=
      List.forall_mem_cons.2 ⟨rfl, List.forall_mem_singleton.2 rfl⟩
    exact hchars c hc
  · exact isBlank_of_isDigit (hds c hdigit)

theorem dropMarks_marks_append_digits (hds : ∀ c ∈ ds, IsDigit c) :
    dropMarks (marks k ++ ds) = ds :=
  dropMarks_marks_append k (dropMarks_of_notMem fun hx => ne_x_of_isDigit (hds 'x' hx) rfl)

end Marks

section Decoding

variable {s : String} {e : Error}

theorem exists_decode_iff : (∃ bs, decode s = .ok bs) ↔
    ∃ k ds, Text.trim s.toList = marks k ++ ds ∧ ds.length % 2 = 0 ∧ ∀ c ∈ ds, IsDigit c := by
  unfold decode
  rw [exists_decodeStrict_iff]
  constructor
  · intro h
    obtain ⟨k, hk⟩ := exists_marks (Text.trim s.toList)
    exact ⟨k, _, hk, h⟩
  · rintro ⟨k, ds, htrim, heven, hdigits⟩
    rw [htrim, dropMarks_marks_append_digits hdigits]
    exact ⟨heven, hdigits⟩

theorem decode_eq_error_iff : decode s = .error e ↔
    ∃ k rest, Text.trim s.toList = marks k ++ rest ∧ ¬ ['0', 'x'] <+: rest ∧
      Fault (Utf8.encodeChars rest) e := by
  rw [decode, decodeStrict_eq_error_iff]
  constructor
  · intro h
    obtain ⟨k, hk⟩ := exists_marks (Text.trim s.toList)
    exact ⟨k, _, hk, not_begins_dropMarks _, h⟩
  · rintro ⟨k, rest, htrim, hrest, h⟩
    rw [htrim, dropMarks_marks_append k (dropMarks_of_not_begins hrest)]
    exact h

theorem decode_spelled {bs : Bytes} {before behind ds : List Char} (k : Nat)
    (hbefore : ∀ c ∈ before, Text.isBlank c = true) (hbehind : ∀ c ∈ behind, Text.isBlank c = true)
    (h : ds.map Char.toLower = digits bs) :
    decode (String.ofList (before ++ (marks k ++ ds) ++ behind)) = .ok bs := by
  obtain ⟨hdigits, hvalues⟩ := isDigit_of_map_toLower h
  have hlength : ds.length = 2 * bs.length := by
    rw [← length_digits, ← h, List.length_map]
  rw [decode, String.toList_ofList,
    Text.trim_append hbefore (isBlank_of_mem_marks_append hdigits) hbehind,
    dropMarks_marks_append_digits hdigits, decodeStrict_of_digits (by omega) hdigits, hvalues,
    pack_halves]

end Decoding

end Hex

theorem Bytecode.scanText_of_decode {s : String} {code : Bytes} (h : Hex.decode s = .ok code) :
    scanText s = if code = [] then .error .emptyCode else .ok (scan code) := by
  rw [scanText, h]
  exact if_congr List.isEmpty_iff rfl rfl

theorem Bytecode.scanText_eq_invalidHex_iff {s detail : String} :
    scanText s = .error (.invalidHex detail) ↔
      ∃ e, Hex.decode s = .error e ∧ e.message = detail := by
  cases h : Hex.decode s with
  | ok code =>
    rw [scanText_of_decode h]
    split <;> simp
  | error e =>
    rw [scanText, h]
    simp

/-- **Hex text is decoded exactly.** A text is code if and only if, without the blanks around it, it
is marks and an even number of digits. The digits of some bytes, in either case, with any marks in
front of them and any blanks around that, are decoded to these bytes. A text that is none fails with
what is wrong with the bytes behind its marks: their odd number, or else the first that is no digit
and its place. Scanning the text is scanning the code, unless there is none, and fails for invalid
hex just when decoding does. -/
theorem hex_decoding_exact :
    (∀ s : String, (∃ bs, Hex.decode s = .ok bs) ↔
      ∃ k ds, Text.trim s.toList = Hex.marks k ++ ds ∧ ds.length % 2 = 0 ∧
        ∀ c ∈ ds, Hex.IsDigit c) ∧
    (∀ (bs : Bytes) (before behind ds : List Char) (k : Nat),
      (∀ c ∈ before, Text.isBlank c = true) → (∀ c ∈ behind, Text.isBlank c = true) →
      ds.map Char.toLower = Hex.digits bs →
      Hex.decode (String.ofList (before ++ (Hex.marks k ++ ds) ++ behind)) = .ok bs ∧
        Bytecode.scanText (String.ofList (before ++ (Hex.marks k ++ ds) ++ behind)) =
          if bs = [] then .error .emptyCode else .ok (Bytecode.scan bs)) ∧
    (∀ (s : String) (e : Hex.Error), Hex.decode s = .error e ↔
      ∃ k rest, Text.trim s.toList = Hex.marks k ++ rest ∧ ¬ ['0', 'x'] <+: rest ∧
        Hex.Fault (Utf8.encodeChars rest) e) ∧
    ∀ s detail : String, Bytecode.scanText s = .error (.invalidHex detail) ↔
      ∃ e, Hex.decode s = .error e ∧ e.message = detail := by
  refine ⟨fun s => Hex.exists_decode_iff, ?_, fun s e => Hex.decode_eq_error_iff,
    fun s detail => Bytecode.scanText_eq_invalidHex_iff⟩
  intro bs before behind ds k hbefore hbehind h
  have hdecode := Hex.decode_spelled k hbefore hbehind h
  exact ⟨hdecode, Bytecode.scanText_of_decode hdecode⟩

/-- Two marks, digits of either case, and blanks of one and of several bytes. -/
theorem hex_decoding_exact_spelled :
    (∀ c ∈ [' ', '\n'], Text.isBlank c = true) ∧ (∀ c ∈ ['\u3000'], Text.isBlank c = true) ∧
      ['0', 'a', 'F', 'f'].map Char.toLower = Hex.digits [0x0a, 0xff] ∧
      Hex.decode " \n0x0x0aFf\u3000" = .ok [0x0a, 0xff] ∧
      Bytecode.scanText " \n0x0x0aFf\u3000" = .ok (Bytecode.scan [0x0a, 0xff]) := by
  have hbefore : ∀ c ∈ [' ', '\n'], Text.isBlank c = true :=
    List.forall_mem_cons.2 ⟨rfl, List.forall_mem_singleton.2 rfl⟩
  have hbehind : ∀ c ∈ ['\u3000'], Text.isBlank c = true := List.forall_mem_singleton.2 rfl
  have hdigits : ['0', 'a', 'F', 'f'].map Char.toLower = Hex.digits [0x0a, 0xff] := by decide
  obtain ⟨-, hspelled, -⟩ := hex_decoding_exact
  obtain ⟨hdecode, hscan⟩ := hspelled [0x0a, 0xff] _ _ _ 2 hbefore hbehind hdigits
  exact ⟨hbefore, hbehind, hdigits, hdecode, hscan⟩

/-- A character of two bytes makes the number of digits odd, or is no digit at its first byte. -/
example : Hex.decode "0x1é" = .error .oddLength ∧ Hex.decode "0x1é1" = .error (.badByte 0xc3 1) :=
  ⟨rfl, rfl⟩

end SellProbe
