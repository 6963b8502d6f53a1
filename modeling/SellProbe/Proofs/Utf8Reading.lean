import SellProbe.Proofs.ByteOrder

/-!
# Reading UTF-8 is exact

Some bytes are read as a text if and only if they are the bytes of that text
(`decode?_eq_some_iff`). What a lead byte announces, with the range of the byte behind it, leaves
exactly the codes of characters that are written with that many further bytes
(`Announces.isValidChar`), so a character is read just where its bytes stand (`next_eq_some_iff`).
-/

namespace SellProbe.Utf8

variable {k v acc : Nat} {lo hi b : UInt8} {bs rest : Bytes} {c : Char} {cs : List Char}

/-! ## Further bytes -/

/-- The byte for a digit in base 64. -/
theorem toNat_digitByte (d : Nat) : (UInt8.ofNat (d % 64 + 128)).toNat = d % 64 + 128 :=
  UInt8.toNat_ofNat_of_lt' (by simp only [UInt8.size]; omega)

/-- A further byte carries the next digit of a code of which the higher digits are known. -/
theorem digit_iff : (128 ≤ b.toNat ∧ b.toNat < 192) ∧ v / weight k = acc * 64 + payload b ↔
    b = UInt8.ofNat (v / weight k % 64 + 128) ∧ v / weight (k + 1) = acc := by
  rw [← UInt8.toNat_inj, toNat_digitByte, weight, ← Nat.div_div_eq_div_mul, payload]
  omega

theorem continuation_cons_iff : continuation (k + 1) lo hi acc (b :: bs) = (some v, rest) ↔
    (lo ≤ b ∧ b ≤ hi) ∧ continuation k 0x80 0xbf (acc * 64 + payload b) bs = (some v, rest) := by
  rw [continuation]
  split <;> simp [*]

/-- Further bytes are read as the lowest digits of a code that has the higher ones. -/
def ReadsTrail (k v : Nat) (rest : Bytes) : Prop := ∀ acc bs,
  continuation k 0x80 0xbf acc bs = (some v, rest) ↔ bs = trail k v ++ rest ∧ v / weight k = acc

theorem ReadsTrail.succ (h : ReadsTrail k v rest) (hlo : 128 ≤ lo.toNat) (hhi : hi.toNat < 192) :
    continuation (k + 1) lo hi acc bs = (some v, rest) ↔
      bs = trail (k + 1) v ++ rest ∧ v / weight (k + 1) = acc ∧
        lo.toNat ≤ v / weight k % 64 + 128 ∧ v / weight k % 64 + 128 ≤ hi.toNat := by
  cases bs with
  | nil => simp [continuation, trail]
  | cons b bs =>
    rw [continuation_cons_iff, h, trail, List.cons_append, List.cons.injEq,
      UInt8.le_iff_toNat_le, UInt8.le_iff_toNat_le]
    constructor
    · rintro ⟨hrange, hbs, hdiv⟩
      obtain ⟨rfl, hacc⟩ := digit_iff.1 ⟨⟨by omega, by omega⟩, hdiv⟩
      rw [toNat_digitByte] at hrange
      exact ⟨⟨rfl, hbs⟩, hacc, hrange⟩
    · rintro ⟨⟨rfl, hbs⟩, hacc, hrange⟩
      rw [toNat_digitByte]
      exact ⟨hrange, hbs, (digit_iff.2 ⟨rfl, hacc⟩).2⟩

theorem readsTrail (k v : Nat) (rest : Bytes) : ReadsTrail k v rest := by
  induction k with
  | zero =>
    intro acc bs
    rw [continuation, trail, weight, Nat.div_one, Prod.mk.injEq, Option.some.injEq,
      List.nil_append, and_comm, eq_comm (a := acc)]
  | succ k ih =>
    intro acc bs
    have hdigit := Nat.mod_lt (v / weight k) (show 64 > 0 by decide)
    have hlo : (0x80 : UInt8).toNat = 128 := rfl
    have hhi : (0xbf : UInt8).toNat = 191 := rfl
    rw [ih.succ (by decide) (by decide)]
    exact and_congr_right fun _ => and_iff_left ⟨by omega, by omega⟩

/-! ## Lead bytes -/

/-- A lead byte announces `k + 1` further bytes, the first of them between `lo` and `hi`, and a code
fits to that. -/
structure Announces (b : UInt8) (k : Nat) (lo hi : UInt8) (v : Nat) : Prop where
  announced : announced? b = some (k + 1, lo, hi)
  /-- The lead byte carries the digits of the code that the further bytes do not carry. -/
  bits : v / weight (k + 1) = leadBits (k + 1) b
  first : lo.toNat ≤ v / weight k % 64 + 128 ∧ v / weight k % 64 + 128 ≤ hi.toNat

theorem announced?_eq (b : UInt8) : announced? b =
    if 0xc2 ≤ b.toNat ∧ b.toNat ≤ 0xdf then some (1, 0x80, 0xbf)
    else if b.toNat = 0xe0 then some (2, 0xa0, 0xbf)
    else if b.toNat = 0xed then some (2, 0x80, 0x9f)
    else if 0xe1 ≤ b.toNat ∧ b.toNat ≤ 0xef then some (2, 0x80, 0xbf)
    else if b.toNat = 0xf0 then some (3, 0x90, 0xbf)
    else if 0xf1 ≤ b.toNat ∧ b.toNat ≤ 0xf3 then some (3, 0x80, 0xbf)
    else if b.toNat = 0xf4 then some (3, 0x80, 0x8f)
    else none := by
  simp only [announced?, UInt8.le_iff_toNat_le, ← UInt8.toNat_inj, UInt8.reduceToNat]

/-- The rows of the table, read from left to right. -/
theorem announced?_rows (h : announced? b = some (k, lo, hi)) :
    (0xc2 ≤ b.toNat ∧ b.toNat ≤ 0xdf) ∧ k = 1 ∧ lo = 0x80 ∧ hi = 0xbf ∨
      b.toNat = 0xe0 ∧ k = 2 ∧ lo = 0xa0 ∧ hi = 0xbf ∨
      b.toNat = 0xed ∧ k = 2 ∧ lo = 0x80 ∧ hi = 0x9f ∨
      (0xe1 ≤ b.toNat ∧ b.toNat ≤ 0xef ∧ b.toNat ≠ 0xed) ∧ k = 2 ∧ lo = 0x80 ∧ hi = 0xbf ∨
      b.toNat = 0xf0 ∧ k = 3 ∧ lo = 0x90 ∧ hi = 0xbf ∨
      (0xf1 ≤ b.toNat ∧ b.toNat ≤ 0xf3) ∧ k = 3 ∧ lo = 0x80 ∧ hi = 0xbf ∨
      b.toNat = 0xf4 ∧ k = 3 ∧ lo = 0x80 ∧ hi = 0x8f := by
  rw [announced?_eq] at h
  split_ifs at h <;> cases h <;> simp [*]

theorem exists_of_announced? (h : announced? b = some (k, lo, hi)) :
    ∃ j, k = j + 1 ∧ 128 ≤ lo.toNat ∧ hi.toNat < 192 := by
  rcases announced?_rows h with ⟨-, rfl, rfl, rfl⟩ | ⟨-, rfl, rfl, rfl⟩ | ⟨-, rfl, rfl, rfl⟩ |
    ⟨-, rfl, rfl, rfl⟩ | ⟨-, rfl, rfl, rfl⟩ | ⟨-, rfl, rfl, rfl⟩ | ⟨-, rfl, rfl, rfl⟩ <;>
    exact ⟨_, rfl, by decide, by decide⟩

theorem toNat_lead (h : v.isValidChar) : (UInt8.ofNat (lead v)).toNat = lead v :=
  UInt8.toNat_ofNat_of_lt' (lead_lt (by rcases h with h | h <;> omega))

/-- Beyond the first 128 characters there are three ranges of codes, one for each number of further
bytes. -/
theorem extra_lead_cases (h : 127 < v) :
    extra v = 1 ∧ lead v = v / 64 + 192 ∧ v ≤ 2047 ∨
      extra v = 2 ∧ lead v = v / 4096 + 224 ∧ 2047 < v ∧ v ≤ 65535 ∨
      extra v = 3 ∧ lead v = v / 262144 + 240 ∧ 65535 < v := by
  unfold extra lead
  split_ifs <;> omega

/-- The lead byte of a character beyond the first 128 announces its further bytes. -/
theorem exists_announces (h : v.isValidChar) (hlarge : 127 < v) :
    ∃ k lo hi, extra v = k + 1 ∧ Announces (UInt8.ofNat (lead v)) k lo hi v := by
  have hlt : v < 0x110000 ∧ ¬ (0xd7ff < v ∧ v < 0xe000) := by rcases h with h | h <;> omega
  have hbyte := toNat_lead h
  have htable := announced?_eq (UInt8.ofNat (lead v))
  rw [hbyte] at htable
  have hcases := extra_lead_cases hlarge
  split_ifs at htable
  all_goals first
    | refine ⟨_, _, _, by omega, htable, ?_, ?_⟩ <;>
        simp only [leadBits, hbyte, weight, UInt8.reduceToNat] <;> omega
    | omega

/-- The codes that fit to what a lead byte announces are those of the characters that it leads. -/
theorem Announces.isValidChar (h : Announces b k lo hi v) :
    v.isValidChar ∧ extra v = k + 1 ∧ UInt8.ofNat (lead v) = b := by
  obtain ⟨htable, hbits, hfirst⟩ := h
  have hb := b.toNat_lt
  rcases announced?_rows htable with ⟨hrow, hk, rfl, rfl⟩ | ⟨hrow, hk, rfl, rfl⟩ |
    ⟨hrow, hk, rfl, rfl⟩ | ⟨hrow, hk, rfl, rfl⟩ | ⟨hrow, hk, rfl, rfl⟩ | ⟨hrow, hk, rfl, rfl⟩ |
    ⟨hrow, hk, rfl, rfl⟩ <;> cases hk <;>
    simp only [leadBits, weight, UInt8.reduceToNat] at hbits hfirst
  all_goals
    have hvalid : v.isValidChar := by
      rw [Nat.isValidChar]
      omega
  all_goals
    have hcases := extra_lead_cases (show 127 < v by omega)
    refine ⟨hvalid, by omega, UInt8.toNat_inj.1 ?_⟩
    rw [toNat_lead hvalid]
    omega

/-! ## Characters and texts -/

theorem encodeChar_ofNat (h : v.isValidChar) :
    String.utf8EncodeChar (Char.ofNat v) = UInt8.ofNat (lead v) :: trail (extra v) v := by
  have hcode : (Char.ofNat v).toNat = v := by
    rw [Char.ofNat, dif_pos h]
    rfl
  rw [utf8EncodeChar_eq, hcode]

theorem encodeChar_of_next (h : next b bs = (some c, rest)) :
    b :: bs = String.utf8EncodeChar c ++ rest := by
  unfold next at h
  split at h
  next hsmall =>
    rw [UInt8.lt_iff_toNat_lt] at hsmall
    obtain ⟨hc, rfl⟩ := Prod.mk.inj h
    obtain rfl := Option.some.inj hc
    have hle : b.toNat ≤ 127 := Nat.le_of_lt_succ hsmall
    rw [encodeChar_ofNat (.inl (by omega)), lead, extra, if_pos hle, if_pos hle, UInt8.ofNat_toNat]
    rfl
  next =>
    split at h
    next => cases h
    next k' lo hi hannounced =>
      obtain ⟨k, rfl, hlo, hhi⟩ := exists_of_announced? hannounced
      obtain ⟨value, rest', hread⟩ : ∃ value rest', continuation (k + 1) lo hi
          (leadBits (k + 1) b) bs = (value, rest') := ⟨_, _, rfl⟩
      rw [hread] at h
      obtain ⟨hc, rfl⟩ := Prod.mk.inj h
      obtain ⟨v, rfl, rfl⟩ := Option.map_eq_some_iff.1 hc
      obtain ⟨rfl, hbits, hfirst⟩ := ((readsTrail k v rest').succ hlo hhi).1 hread
      obtain ⟨hvalid, hextra, hlead⟩ := Announces.isValidChar ⟨hannounced, hbits, hfirst⟩
      rw [encodeChar_ofNat hvalid, hextra, hlead, List.cons_append]

theorem next_encodeChar (c : Char) (rest : Bytes) :
    next (UInt8.ofNat (lead c.toNat)) (trail (extra c.toNat) c.toNat ++ rest) = (some c, rest) := by
  have hvalid : c.toNat.isValidChar := c.valid
  have hbyte := toNat_lead hvalid
  unfold next
  by_cases hle : c.toNat ≤ 127
  · have hsmall : UInt8.ofNat (lead c.toNat) < 0x80 := by
      rw [UInt8.lt_iff_toNat_lt, hbyte, lead, if_pos hle]
      exact Nat.lt_succ_of_le hle
    rw [if_pos hsmall, hbyte, lead, extra, if_pos hle, if_pos hle, Char.ofNat_toNat]
    rfl
  · obtain ⟨k, lo, hi, hextra, hann⟩ := exists_announces hvalid (by omega)
    obtain ⟨j, hj, hlo, hhi⟩ := exists_of_announced? hann.announced
    have hread := ((readsTrail k c.toNat rest).succ hlo hhi).2 ⟨rfl, hann.bits, hann.first⟩
    have hlarge : ¬ UInt8.ofNat (lead c.toNat) < 0x80 := by
      rw [UInt8.lt_iff_toNat_lt, hbyte, lead]
      simp only [UInt8.reduceToNat]
      split_ifs <;> omega
    rw [if_neg hlarge, hann.announced, hextra]
    simp only [hread, Option.map_some, Char.ofNat_toNat]

/-- **A character is read exactly where its bytes stand.** -/
theorem next_eq_some_iff :
    next b bs = (some c, rest) ↔ b :: bs = String.utf8EncodeChar c ++ rest := by
  refine ⟨encodeChar_of_next, fun h => ?_⟩
  rw [utf8EncodeChar_eq, List.cons_append, List.cons.injEq] at h
  obtain ⟨rfl, rfl⟩ := h
  exact next_encodeChar c rest

theorem pieces_eq_map_some_iff : pieces bs = cs.map some ↔ bs = encodeChars cs := by
  induction cs generalizing bs with
  | nil =>
    cases bs with
    | nil => simp [pieces, encodeChars]
    | cons b bs => simp [pieces, encodeChars]
  | cons c cs ih =>
    have hcons : encodeChars (c :: cs) = String.utf8EncodeChar c ++ encodeChars cs :=
      List.flatMap_cons
    rw [hcons, List.map_cons]
    cases bs with
    | nil => simp [pieces, utf8EncodeChar_eq]
    | cons b bs =>
      rw [pieces, List.cons.injEq, ih, ← next_eq_some_iff, Prod.ext_iff]

theorem mapM_id_eq_some_iff {ps : List (Option Char)} :
    ps.mapM id = some cs ↔ ps = cs.map some := by
  induction ps generalizing cs with
  | nil => cases cs <;> simp
  | cons p ps ih =>
    cases p with
    | none => cases cs <;> simp [List.mapM_cons]
    | some c =>
      have hcons : (some c :: ps).mapM id = (ps.mapM id).map (c :: ·) := by
        rw [List.mapM_cons]
        cases ps.mapM id <;> rfl
      simp only [hcons, Option.map_eq_some_iff, ih]
      constructor
      · rintro ⟨cs, rfl, rfl⟩
        rfl
      · intro h
        cases cs with
        | nil => cases h
        | cons d cs =>
          obtain ⟨hc, hps⟩ := List.cons.inj h
          exact ⟨cs, hps, by rw [Option.some.inj hc]⟩

/-- **Some bytes are read as a text exactly if they are its bytes.** -/
theorem decode?_eq_some_iff {s : String} : decode? bs = some s ↔ bs = encode s := by
  unfold decode? encode
  rw [Option.map_eq_some_iff]
  constructor
  · rintro ⟨cs, hcs, rfl⟩
    rw [String.toList_ofList]
    exact pieces_eq_map_some_iff.1 (mapM_id_eq_some_iff.1 hcs)
  · rintro rfl
    exact ⟨s.toList, mapM_id_eq_some_iff.2 (pieces_eq_map_some_iff.2 rfl), String.ofList_toList⟩

/-- Nothing is lost or replaced in the bytes of a text. -/
theorem decodeLossy_encode (s : String) : decodeLossy (encode s) = s := by
  have hpieces : pieces (encode s) = s.toList.map some := pieces_eq_map_some_iff.2 rfl
  rw [decodeLossy, hpieces, List.map_map]
  exact (congrArg String.ofList (List.map_id _)).trans String.ofList_toList

end SellProbe.Utf8
