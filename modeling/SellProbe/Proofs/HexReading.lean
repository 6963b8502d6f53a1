import SellProbe.Proofs.BigEndian
import SellProbe.Proofs.HexDigits

/-!
# What the hex readers accept

Both readers take a text that is any number of marks and then digits, and answer with the number
that the digits denote (`hex_readers_exact`). A storage key has at most 64 digits and nothing among
them: the reader fills it up to 64 characters, and if it then skipped anything, be it a blank or one
more mark, fewer than 64 digits would be left. An address has 40 digits and may have gaps among
them.
-/

namespace SellProbe

namespace Hex

def number (ds : List Char) : Nat := ds.foldl (fun n c => n * 16 + value c) 0

def marks (k : Nat) : List Char := (List.replicate k ['0', 'x']).flatten

variable {c : Char} {cs ds : List Char} {n : Nat}

/-! ## Numbers -/

theorem number_concat (ds : List Char) (c : Char) :
    number (ds ++ [c]) = number ds * 16 + value c := by
  rw [number, List.foldl_append]
  rfl

theorem number_append (xs ys : List Char) :
    number (xs ++ ys) = number xs * 16 ^ ys.length + number ys := by
  induction ys using List.reverseRecOn with
  | nil => simp [number]
  | append_singleton ys c ih =>
    rw [← List.append_assoc, number_concat, number_concat, ih, List.length_append,
      List.length_singleton, pow_succ]
    ring

theorem number_zeros_append (k : Nat) (ds : List Char) :
    number (List.replicate k '0' ++ ds) = number ds := by
  have hzeros : number (List.replicate k '0') = 0 := by
    induction k with
    | zero => rfl
    | succ k ih => rw [List.replicate_succ', number_concat, ih]; rfl
  rw [number_append, hzeros, Nat.zero_mul, Nat.zero_add]

theorem toNat_pack (h : ds.length = 2 * n) (hdigits : ∀ c ∈ ds, IsDigit c) :
    (pack (ds.map value)).length = n ∧ Bytes.toNat (pack (ds.map value)) = number ds := by
  induction n generalizing ds with
  | zero =>
    obtain rfl : ds = [] := List.eq_nil_of_length_eq_zero h
    exact ⟨rfl, rfl⟩
  | succ n ih =>
    obtain ⟨hi, lo, rest, rfl⟩ : ∃ hi lo rest, ds = hi :: lo :: rest := by
      match ds, h with
      | hi :: lo :: rest, _ => exact ⟨hi, lo, rest, rfl⟩
    have hrest : rest.length = 2 * n := by
      simp only [List.length_cons] at h
      omega
    obtain ⟨hhi, hlo, hdigits⟩ : IsDigit hi ∧ IsDigit lo ∧ ∀ c ∈ rest, IsDigit c := by
      simpa only [List.forall_mem_cons] using hdigits
    obtain ⟨hlength, hnumber⟩ := ih hrest hdigits
    have hbyte : (UInt8.ofNat (value hi * 16 + value lo)).toNat = number [hi, lo] := by
      have hhi := value_lt hhi
      have hlo := value_lt hlo
      simp only [UInt8.toNat_ofNat', number, List.foldl_cons, List.foldl_nil]
      omega
    have hpack : pack ((hi :: lo :: rest).map value) =
        UInt8.ofNat (value hi * 16 + value lo) :: pack (rest.map value) := rfl
    have hbase : 16 ^ rest.length = 256 ^ n := by rw [hrest, show 256 = 16 ^ 2 from rfl, pow_mul]
    refine ⟨by rw [hpack, List.length_cons, hlength], ?_⟩
    calc Bytes.toNat (pack ((hi :: lo :: rest).map value))
      _ = number [hi, lo] * 256 ^ n + number rest := by
        rw [hpack, Bytes.toNat_cons, hlength, hnumber, hbyte]
      _ = number ([hi, lo] ++ rest) := by rw [number_append, hbase]

theorem ofList?_pack (h : ds.length = 2 * n) (hdigits : ∀ c ∈ ds, IsDigit c) :
    FixedBytes.ofList? n (pack (ds.map value)) = some (FixedBytes.ofNat n (number ds)) := by
  obtain ⟨hlength, hnumber⟩ := toNat_pack h hdigits
  rw [← hnumber, FixedBytes.ofList?, dif_pos hlength, Option.some.injEq]
  exact (FixedBytes.ofNat_toNat ⟨_, hlength⟩).symm

/-! ## Marks -/

theorem marks_succ (k : Nat) : marks (k + 1) = '0' :: 'x' :: marks k := rfl

theorem dropMark_of_notMem (h : 'x' ∉ cs) : dropMark cs = cs := by
  unfold dropMark
  split
  · simp at h
  · rfl

theorem dropMarks_of_notMem (h : 'x' ∉ cs) : dropMarks cs = cs := by
  unfold dropMarks
  split
  · simp at h
  · rfl

theorem dropMarks_marks_append (k : Nat) (h : dropMarks cs = cs) :
    dropMarks (marks k ++ cs) = cs := by
  induction k with
  | zero => exact h
  | succ k ih =>
    rw [marks_succ, List.cons_append, List.cons_append, dropMarks]
    exact ih

theorem exists_marks (cs : List Char) : ∃ k, cs = marks k ++ dropMarks cs := by
  fun_induction dropMarks cs with
  | case1 rest ih =>
    obtain ⟨k, hk⟩ := ih
    exact ⟨k + 1, by rw [marks_succ, List.cons_append, List.cons_append, ← hk]⟩
  | case2 cs hother => exact ⟨0, rfl⟩

theorem dropMark_dropMarks (cs : List Char) : dropMark (dropMarks cs) = dropMarks cs := by
  fun_induction dropMarks cs with
  | case1 rest ih => exact ih
  | case2 cs hother =>
    unfold dropMark
    split
    next rest => exact (hother rest rfl).elim
    next => rfl

theorem dropMark_eq_or (cs : List Char) :
    dropMark cs = cs ∨ (dropMark cs).length + 2 = cs.length := by
  unfold dropMark
  split
  · exact .inr rfl
  · exact .inl rfl

end Hex

theorem FixedBytes.ofHex?_eq_some_iff {n : Nat} {cs : List Char} {b : FixedBytes n} :
    ofHex? n cs = some b ↔ (Hex.withoutGaps (Hex.dropMark cs)).length = 2 * n ∧
      (∀ c ∈ Hex.withoutGaps (Hex.dropMark cs), Hex.IsDigit c) ∧
      b = ofNat n (Hex.number (Hex.withoutGaps (Hex.dropMark cs))) := by
  rw [ofHex?, Hex.values?_eq]
  generalize Hex.withoutGaps (Hex.dropMark cs) = ds
  simp only [Option.bind_eq_bind, Option.bind_eq_some_iff, Hex.mapM_digit?_eq_some_iff]
  constructor
  · rintro ⟨vs, ⟨hdigits, rfl⟩, h⟩
    rw [List.length_map] at h
    split at h
    next hlength =>
      rw [Hex.ofList?_pack hlength hdigits] at h
      exact ⟨hlength, hdigits, (Option.some.inj h).symm⟩
    next => cases h
  · rintro ⟨hlength, hdigits, rfl⟩
    refine ⟨_, ⟨hdigits, rfl⟩, ?_⟩
    rw [List.length_map, if_pos hlength, Hex.ofList?_pack hlength hdigits]

/-! ## Addresses -/

/-- A text of marks, and 40 digits with gaps anywhere among them, that denote this address. -/
def Address.IsSpelledBy (a : Address) (s : String) : Prop :=
  ∃ k cs, s.toList = Hex.marks k ++ cs ∧ (Hex.withoutGaps cs).length = 40 ∧
    (∀ c ∈ Hex.withoutGaps cs, Hex.IsDigit c) ∧
    a = FixedBytes.ofNat 20 (Hex.number (Hex.withoutGaps cs))

theorem Hex.x_notMem_of_withoutGaps {cs : List Char} (h : ∀ c ∈ withoutGaps cs, IsDigit c) :
    'x' ∉ cs := fun hx =>
  ne_x_of_isDigit (h 'x' (List.mem_filter.2 ⟨hx, by decide⟩)) rfl

theorem Address.ofHex?_eq_some_iff {s : String} {a : Address} :
    ofHex? s = some a ↔ a.IsSpelledBy s := by
  unfold ofHex?
  rw [FixedBytes.ofHex?_eq_some_iff, Hex.dropMark_dropMarks]
  constructor
  · rintro ⟨hlength, hdigits, ha⟩
    obtain ⟨k, hk⟩ := Hex.exists_marks s.toList
    exact ⟨k, _, hk, hlength, hdigits, ha⟩
  · rintro ⟨k, cs, hs, hlength, hdigits, ha⟩
    have hx : 'x' ∉ cs := Hex.x_notMem_of_withoutGaps hdigits
    rw [hs, Hex.dropMarks_marks_append k (Hex.dropMarks_of_notMem hx)]
    exact ⟨hlength, hdigits, ha⟩

/-! ## Storage keys -/

/-- A text of marks and at most 64 digits that denote this storage key. -/
def Hash.IsSpelledBy (h : Hash) (s : String) : Prop :=
  ∃ k ds, s.toList = Hex.marks k ++ ds ∧ ds.length ≤ 64 ∧ (∀ c ∈ ds, Hex.IsDigit c) ∧
    h = FixedBytes.ofNat 32 (Hex.number ds)

/-- If as many characters are left as there were, nothing has been skipped. -/
theorem Hex.withoutGaps_dropMark_of_length {cs : List Char}
    (h : (withoutGaps (dropMark cs)).length = cs.length) : withoutGaps (dropMark cs) = cs := by
  have hgaps : (withoutGaps (dropMark cs)).length ≤ (dropMark cs).length :=
    List.length_filter_le _ _
  have hmark : dropMark cs = cs := (dropMark_eq_or cs).resolve_right (by omega)
  rw [hmark] at h ⊢
  exact List.filter_eq_self.2 (List.length_filter_eq_length_iff.1 h)

theorem Hex.isDigit_of_mem_zeros_append {ds : List Char} (h : ∀ c ∈ ds, IsDigit c) (k : Nat) :
    ∀ c ∈ List.replicate k '0' ++ ds, IsDigit c := by
  intro c hc
  rcases List.mem_append.1 hc with hc | hc
  · rw [List.eq_of_mem_replicate hc]
    exact .inl (by decide)
  · exact h c hc

theorem Hash.ofHex?_eq_some_iff {s : String} {h : Hash} : ofHex? s = some h ↔ h.IsSpelledBy s := by
  unfold ofHex?
  constructor
  · intro hread
    obtain ⟨k, hk⟩ := Hex.exists_marks s.toList
    generalize Hex.dropMarks s.toList = ds at hread hk
    dsimp only at hread
    split at hread
    next hbytes =>
      have hds : ds.length ≤ 64 := Nat.le_trans (Utf8.le_length ds) hbytes
      have hlength : (List.replicate (64 - ds.length) '0' ++ ds).length = 64 := by
        rw [List.length_append, List.length_replicate]
        omega
      obtain ⟨hkept, hdigits, hvalue⟩ := FixedBytes.ofHex?_eq_some_iff.1 hread
      -- The reader keeps 64 of 64 characters: there was no gap, and no mark after the padding.
      rw [Hex.withoutGaps_dropMark_of_length (hkept.trans hlength.symm)] at hdigits hvalue
      rw [Hex.number_zeros_append] at hvalue
      exact ⟨k, ds, hk, hds, fun c hc => hdigits c (List.mem_append_right _ hc), hvalue⟩
    next => cases hread
  · rintro ⟨k, ds, hs, hds, hdigits, rfl⟩
    have hx : 'x' ∉ ds := fun hx => Hex.ne_x_of_isDigit (hdigits 'x' hx) rfl
    have hpadded := Hex.isDigit_of_mem_zeros_append hdigits (64 - ds.length)
    have hxPadded : 'x' ∉ List.replicate (64 - ds.length) '0' ++ ds :=
      fun hx => Hex.ne_x_of_isDigit (hpadded 'x' hx) rfl
    rw [hs, Hex.dropMarks_marks_append k (Hex.dropMarks_of_notMem hx)]
    dsimp only
    rw [if_pos (by rw [Hex.utf8Length_eq hdigits]; exact hds), FixedBytes.ofHex?_eq_some_iff,
      Hex.dropMark_of_notMem hxPadded, Hex.withoutGaps_of_digits hpadded,
      Hex.number_zeros_append]
    refine ⟨?_, hpadded, rfl⟩
    rw [List.length_append, List.length_replicate]
    omega

/-! ## Written keys and numbers -/

theorem Hex.number_digits (bs : Bytes) : number (digits bs) = Bytes.toNat bs := by
  have hlength : (digits bs).length = 2 * bs.length := length_digits bs
  rw [← (toNat_pack hlength fun c => isDigit_of_mem_digits).2, map_value_digits, pack_halves]

theorem Hash.ofHex?_toHex (h : Hash) : Hash.ofHex? h.toHex = some h := by
  refine Hash.ofHex?_eq_some_iff.2 ⟨1, Hex.digits h.toList, ?_, ?_, ?_, ?_⟩
  · rw [FixedBytes.toHex, Hex.encode, String.toList_ofList]
    rfl
  · rw [Hex.length_digits, h.length_toList]
  · exact fun c => Hex.isDigit_of_mem_digits
  · rw [Hex.number_digits]
    exact (FixedBytes.ofNat_toNat h).symm

theorem Hex.isDigit_natDigitChar : ∀ n, n < 16 → IsDigit n.digitChar ∧ value n.digitChar = n := by
  unfold IsDigit
  decide

theorem Hex.toDigits_spells (n : Nat) :
    (∀ c ∈ Nat.toDigits 16 n, IsDigit c) ∧ number (Nat.toDigits 16 n) = n := by
  induction n using Nat.strongRecOn with
  | ind n ih =>
    by_cases hn : n < 16
    · obtain ⟨hdigit, hvalue⟩ := isDigit_natDigitChar n hn
      rw [Nat.toDigits_of_lt_base hn]
      refine ⟨List.forall_mem_singleton.2 hdigit, ?_⟩
      rw [number, List.foldl_cons, List.foldl_nil, hvalue, Nat.zero_mul, Nat.zero_add]
    · obtain ⟨hhigh, hnumber⟩ := ih (n / 16) (by omega)
      obtain ⟨hdigit, hvalue⟩ := isDigit_natDigitChar (n % 16) (by omega)
      rw [Nat.toDigits_of_base_le (by decide) (by omega)]
      refine ⟨List.forall_mem_append.2 ⟨hhigh, List.forall_mem_singleton.2 hdigit⟩, ?_⟩
      rw [number_concat, hnumber, hvalue]
      omega

/-- **The readers of hex text accept exactly this.** A storage key is marks and at most 64 digits,
an address marks and 40 digits with gaps among them, and either is read as the number that the
digits denote. So a key as it is written is read back, a word in digits behind any number of zeros
that fits is read as that word, and words and keys are the same thing. -/
theorem hex_readers_exact :
    (∀ (s : String) (h : Hash), Hash.ofHex? s = some h ↔ h.IsSpelledBy s) ∧
    (∀ (s : String) (a : Address), Address.ofHex? s = some a ↔ a.IsSpelledBy s) ∧
    (∀ h : Hash, Hash.ofHex? h.toHex = some h) ∧
    (∀ (w : Word) (k zeros : Nat), zeros + (Nat.toDigits 16 w.toNat).length ≤ 64 →
      Hash.ofHex? (String.ofList
        (Hex.marks k ++ (List.replicate zeros '0' ++ Nat.toDigits 16 w.toNat))) = some w.toHash) ∧
    (∀ w : Word, w.toHash.toWord = w) ∧ ∀ h : Hash, h.toWord.toHash = h := by
  refine ⟨fun s h => Hash.ofHex?_eq_some_iff, fun s a => Address.ofHex?_eq_some_iff,
    Hash.ofHex?_toHex, fun w k zeros hfits => ?_, Hash.toWord_toHash, Word.toHash_toWord⟩
  obtain ⟨hdigits, hnumber⟩ := Hex.toDigits_spells w.toNat
  refine Hash.ofHex?_eq_some_iff.2 ⟨k, _, String.toList_ofList, ?_,
    Hex.isDigit_of_mem_zeros_append hdigits zeros, ?_⟩
  · rw [List.length_append, List.length_replicate]
    exact hfits
  · rw [Hex.number_zeros_append, hnumber]
    rfl

/-- Two marks and three zeros in front of the digits. -/
theorem hex_readers_exact_padded :
    3 + (Nat.toDigits 16 (0x1f : Word).toNat).length ≤ 64 ∧
      Hash.ofHex? "0x0x0001f" = some (Word.toHash 0x1f) := by
  have hfits : 3 + (Nat.toDigits 16 (0x1f : Word).toNat).length ≤ 64 := by decide
  obtain ⟨-, -, -, hread, -⟩ := hex_readers_exact
  have htext : String.ofList (Hex.marks 2 ++
      (List.replicate 3 '0' ++ Nat.toDigits 16 (0x1f : Word).toNat)) = "0x0x0001f" := by decide
  exact ⟨hfits, htext ▸ hread 0x1f 2 3 hfits⟩

/-- A mark that appears only behind the padding leaves too few digits. -/
example : Hash.ofHex? (String.ofList ('x' :: List.replicate 62 '1')) = none := by decide +kernel

end SellProbe
