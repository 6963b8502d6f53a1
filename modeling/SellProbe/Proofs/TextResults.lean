import SellProbe.Proofs.Precedence
import SellProbe.Proofs.Utf8Reading

/-!
# Two encodings of a text

A token answers with its name in one of two encodings, and nothing in the answer says which. It may
be a string of the codec, an offset and at that offset a length with the bytes behind it, or it may
be one word with the bytes at its start and zeros behind them. With any codec that reads such
strings both are read back (`decodeTextBy_reads_both`): the codec is tried first, but it takes the
only word that it can read at all, that of zeros, for the same text. The codec at hand reads such
strings as long as the data is shorter than `2 ^ 32` bytes (`readTextBytes?_eq_some_iff`).
-/

namespace SellProbe

namespace Utf8

/-- No byte of a digit is zero. -/
theorem zero_not_mem_trail (k v : Nat) : 0 ∉ trail k v := by
  induction k with
  | zero => exact List.not_mem_nil
  | succ k ih =>
    rw [trail, List.mem_cons, not_or]
    refine ⟨fun h => ?_, ih⟩
    have hbyte := toNat_digitByte (v / weight k)
    rw [← h] at hbyte
    simp at hbyte

/-- The only character with a zero among its bytes is the first one. -/
theorem eq_zero_of_mem_encodeChar {c : Char} (h : 0 ∈ String.utf8EncodeChar c) :
    c = Char.ofNat 0 := by
  rw [utf8EncodeChar_eq, List.mem_cons] at h
  rcases h with h | h
  · have hlead := congrArg UInt8.toNat h
    have hvalid : c.toNat.isValidChar := c.valid
    rw [toNat_lead hvalid] at hlead
    have hcode : c.toNat = 0 := by
      revert hlead
      unfold lead
      split_ifs <;> simp only [UInt8.toNat_zero] <;> omega
    exact Char.toNat_inj.1 hcode
  · exact absurd h (zero_not_mem_trail _ _)

theorem zero_not_mem_encode {s : String} (h : Char.ofNat 0 ∉ s.toList) : 0 ∉ encode s := by
  intro hmem
  obtain ⟨c, hc, hzero⟩ := List.mem_flatMap.1 hmem
  exact h (eq_zero_of_mem_encodeChar hzero ▸ hc)

end Utf8

namespace Abi

variable {read : Bytes → Option Bytes} {data bs : Bytes} {offset n : Nat} {s : String}

/-! ## Strings of the codec -/

/-- Data that holds the bytes of a text as a string of the codec: the word of an offset, and at that
offset the word of the number of bytes and then the bytes. -/
def HoldsText (data bs : Bytes) : Prop := ∃ offset size : Word,
  offset.toHash.toList <+: data ∧ size.toNat = bs.length ∧
    size.toHash.toList ++ bs <+: data.drop offset.toNat

/-- The encoding of a text: an offset of one word, the size, and the bytes with zeros behind them.
-/
def EncodesText (s : String) (data : Bytes) : Prop := ∃ size : Word,
  size.toNat = (Utf8.encode s).length ∧
    data = word 32 ++ (size.toHash.toList ++ padRight (Utf8.encode s))

theorem length_word (n : Nat) : (word n).length = 32 := Bytes.length_bigEndian 32 n

theorem word_toNat (w : Word) : word w.toNat = w.toHash.toList := rfl

theorem EncodesText.holdsText (h : EncodesText s data) : HoldsText data (Utf8.encode s) := by
  obtain ⟨size, hsize, rfl⟩ := h
  refine ⟨32, size, List.prefix_append _ _, hsize, ?_⟩
  change _ <+: List.drop 32 _
  rw [List.drop_left' (length_word 32)]
  exact (List.prefix_append_right_inj _).2 (List.prefix_append _ _)

/-- The encoder at hand encodes every text whose size is a word. -/
theorem encodesText_encode (h : (Utf8.encode s).length < 2 ^ 256) :
    EncodesText s (encode [.text s]) := by
  let size : Word := BitVec.ofNat 256 (Utf8.encode s).length
  have hsize : size.toNat = (Utf8.encode s).length := by
    rw [BitVec.toNat_ofNat, Nat.mod_eq_of_lt h]
  refine ⟨size, hsize, ?_⟩
  rw [← word_toNat, hsize]
  simp [encode, heads, bodies, Value.head, Value.body?]

theorem sizeAt?_eq_some_iff {n : Nat} : sizeAt? data offset = some n ↔
    ∃ w : Word, w.toNat = n ∧ n < 0x100000000 ∧ w.toHash.toList <+: data.drop offset := by
  unfold sizeAt?
  constructor
  · intro h
    obtain ⟨w, hw, h⟩ := Option.bind_eq_some_iff.1 h
    split at h
    · obtain rfl := Option.some.inj h
      exact ⟨w, rfl, ‹_›, wordAt?_eq_some_iff.1 hw⟩
    · cases h
  · rintro ⟨w, rfl, hlt, hword⟩
    rw [wordAt?_eq_some_iff.2 hword, Option.bind_eq_bind, Option.bind_some, if_pos hlt]

theorem slice?_eq_some_iff : slice? data offset n = some bs ↔
    offset ≤ data.length ∧ bs.length = n ∧ bs <+: data.drop offset := by
  unfold slice?
  constructor
  · intro h
    split at h
    · obtain rfl := Option.some.inj h
      refine ⟨by omega, List.length_take_of_le (by rw [List.length_drop]; omega), ?_⟩
      exact List.take_prefix n _
    · cases h
  · rintro ⟨hoffset, rfl, hprefix⟩
    have hlength := hprefix.length_le
    rw [List.length_drop] at hlength
    rw [if_pos (by omega), ← List.prefix_iff_eq_take.1 hprefix]

/-- The size and the bytes of a text at an offset, as one prefix. -/
theorem prefix_text_iff {size : Word} : size.toHash.toList ++ bs <+: data.drop offset ↔
    size.toHash.toList <+: data.drop offset ∧ offset + 32 ≤ data.length ∧
      bs <+: data.drop (offset + 32) := by
  rw [append_isPrefix_iff, size.toHash.length_toList, List.drop_drop]
  constructor
  · rintro ⟨hsize, hbytes⟩
    have hlength := hsize.length_le
    rw [size.toHash.length_toList, List.length_drop] at hlength
    exact ⟨hsize, by omega, hbytes⟩
  · rintro ⟨hsize, -, hbytes⟩
    exact ⟨hsize, hbytes⟩

theorem HoldsText.lt_length (h : HoldsText data bs) :
    ∃ offset size : Word, offset.toNat < data.length ∧ size.toNat < data.length ∧
      offset.toHash.toList <+: data ∧ size.toNat = bs.length ∧
      size.toHash.toList ++ bs <+: data.drop offset.toNat := by
  obtain ⟨offset, size, hoffset, hsize, hbody⟩ := h
  have hlength := hbody.length_le
  rw [List.length_append, size.toHash.length_toList, List.length_drop] at hlength
  exact ⟨offset, size, by omega, by omega, hoffset, hsize, hbody⟩

/-- The codec at hand takes offsets and sizes below `2 ^ 32`. -/
theorem readTextBytes?_eq_some_iff (hdata : data.length ≤ 0x100000000) :
    readTextBytes? data = some bs ↔ HoldsText data bs := by
  unfold readTextBytes?
  simp only [Option.bind_eq_bind, Option.bind_eq_some_iff, sizeAt?_eq_some_iff,
    slice?_eq_some_iff, List.drop_zero]
  constructor
  · rintro ⟨_, ⟨offset, rfl, -, hoffset⟩, _, ⟨size, rfl, -, hsize⟩, hinside, hlength, hbytes⟩
    exact ⟨offset, size, hoffset, hlength.symm, prefix_text_iff.2 ⟨hsize, hinside, hbytes⟩⟩
  · intro h
    obtain ⟨offset, size, hlt, hlt', hoffset, hlength, hbody⟩ := h.lt_length
    obtain ⟨hsize, hinside, hbytes⟩ := prefix_text_iff.1 hbody
    exact ⟨_, ⟨offset, rfl, by omega, hoffset⟩, _, ⟨size, rfl, by omega, hsize⟩, hinside,
      hlength.symm, hbytes⟩

/-- A codec with room for all offsets and sizes that are words. -/
def readAnyText? (data : Bytes) : Option Bytes := do
  let offset ← wordAt? data 0
  let size ← wordAt? data offset.toNat
  slice? data (offset.toNat + 32) size.toNat

theorem readAnyText?_eq_some_iff : readAnyText? data = some bs ↔ HoldsText data bs := by
  unfold readAnyText?
  simp only [Option.bind_eq_bind, Option.bind_eq_some_iff, wordAt?_eq_some_iff,
    slice?_eq_some_iff, List.drop_zero]
  constructor
  · rintro ⟨offset, hoffset, size, hsize, hinside, hlength, hbytes⟩
    exact ⟨offset, size, hoffset, hlength.symm, prefix_text_iff.2 ⟨hsize, hinside, hbytes⟩⟩
  · rintro ⟨offset, size, hoffset, hlength, hbody⟩
    obtain ⟨hsize, hinside, hbytes⟩ := prefix_text_iff.1 hbody
    exact ⟨offset, hoffset, size, hsize, hinside, hlength.symm, hbytes⟩

theorem decode_eq_ok_iff {α : Type} {read : Bytes → Option α} {a : α} :
    decode read data = .ok a ↔ data ≠ [] ∧ read data = some a := by
  unfold decode
  cases data with
  | nil => simp
  | cons b bs => cases read (b :: bs) <;> simp

section

variable (hread : ∀ data bs, read data = some bs ↔ HoldsText data bs)
include hread

theorem decode_eq_ok_iff_holdsText : decode read data = .ok bs ↔ HoldsText data bs := by
  rw [decode_eq_ok_iff, hread]
  refine and_iff_right_of_imp ?_
  rintro h rfl
  obtain ⟨offset, size, hlt, -⟩ := h.lt_length
  exact absurd hlt (Nat.not_lt_zero _)

theorem decodeTextBy_of_holdsText (h : HoldsText data bs) :
    decodeTextBy read data = some (Utf8.decodeLossy bs) := by
  rw [decodeTextBy, (decode_eq_ok_iff_holdsText hread).2 h]

end

/-! ## Texts of one word -/

def beforeZero (bs : Bytes) : Bytes := bs.takeWhile (· != 0)

/-- The only word that holds a string of the codec is zero, and the string is empty. -/
theorem HoldsText.of_word {w : Hash} (h : HoldsText w.toList bs) :
    bs = [] ∧ beforeZero w.toList = [] := by
  obtain ⟨offset, size, hoffset, -, hbody⟩ := h
  have hlength := hbody.length_le
  rw [List.length_append, size.toHash.length_toList, List.length_drop, w.length_toList] at hlength
  obtain ⟨hzero, hbytes⟩ : offset.toNat = 0 ∧ bs.length = 0 := by omega
  obtain rfl : offset = 0 := BitVec.eq_of_toNat_eq hzero
  have hword : (0 : Word).toHash.toList = w.toList :=
    hoffset.eq_of_length ((FixedBytes.length_toList _).trans w.length_toList.symm)
  refine ⟨List.length_eq_zero_iff.1 hbytes, ?_⟩
  rw [← hword]
  rfl

theorem decodeTextBy_word (hread : ∀ data bs, read data = some bs ↔ HoldsText data bs) (w : Hash) :
    decodeTextBy read w.toList = Utf8.decode? (beforeZero w.toList) := by
  unfold decodeTextBy
  cases hdecode : decode read w.toList with
  | ok bs =>
    obtain ⟨rfl, hnone⟩ := ((decode_eq_ok_iff_holdsText hread).1 hdecode).of_word
    have hempty : Utf8.decode? [] = some "" := Utf8.decode?_eq_some_iff.2 rfl
    rw [hnone, hempty]
    exact congrArg some (Utf8.decodeLossy_encode "")
  | error e => exact if_pos w.length_toList

/-- The bytes of a text with zeros behind them. -/
theorem beforeZero_append_zeros (h : 0 ∉ bs) (n : Nat) :
    beforeZero (bs ++ List.replicate n 0) = bs := by
  have hbytes : ∀ b ∈ bs, (b != 0) = true := fun b hb => bne_iff_ne.2 fun h' => h (h' ▸ hb)
  rw [beforeZero, List.takeWhile_append_of_pos hbytes, List.takeWhile_replicate]
  simp

/-- The codec at hand reads data that is not too long as a codec without limits does. -/
theorem decodeText?_eq_decodeTextBy (hread : ∀ data bs, read data = some bs ↔ HoldsText data bs)
    (hdata : data.length ≤ 0x100000000) : decodeText? data = decodeTextBy read data := by
  have hsame : readTextBytes? data = read data := by
    ext bs
    rw [readTextBytes?_eq_some_iff hdata, hread]
  rw [decodeText?, decodeTextBy, decodeTextBy, decode, decode, hsame]

/-- **Both encodings of a text are read back**, with any codec that reads exactly the strings that
data holds: an offset, and at that offset a size and the bytes. Every text is read from all data
that holds its bytes as such a string, as its encoding does. Any word is read as the text of its
bytes before the first zero, if these are the bytes of a text, and as nothing else; where the codec
can read a word, it reads the same. So a text without zeros that fits into a word is read from its
bytes with zeros behind them. The codec at hand does the same with all data of up to `2 ^ 32` bytes.
-/
theorem decodeTextBy_reads_both (read : Bytes → Option Bytes)
    (hread : ∀ data bs, read data = some bs ↔ HoldsText data bs) :
    (∀ (s : String) (data : Bytes), HoldsText data (Utf8.encode s) →
      decodeTextBy read data = some s) ∧
    (∀ (s : String) (data : Bytes), EncodesText s data → decodeTextBy read data = some s) ∧
    (∀ (w : Hash) (s : String),
      decodeTextBy read w.toList = some s ↔ beforeZero w.toList = Utf8.encode s) ∧
    (∀ (w : Hash) (bs : Bytes), HoldsText w.toList bs →
      Utf8.decode? (beforeZero w.toList) = some (Utf8.decodeLossy bs)) ∧
    (∀ s : String, Char.ofNat 0 ∉ s.toList → (Utf8.encode s).length ≤ 32 →
      decodeTextBy read (Utf8.encode s ++ List.replicate (32 - (Utf8.encode s).length) 0) =
        some s) ∧
    ∀ data : Bytes, data.length ≤ 2 ^ 32 → decodeText? data = decodeTextBy read data := by
  have hstring : ∀ (s : String) (data : Bytes), HoldsText data (Utf8.encode s) →
      decodeTextBy read data = some s := fun s data h => by
    rw [decodeTextBy_of_holdsText hread h, Utf8.decodeLossy_encode]
  have hword : ∀ (w : Hash) (s : String),
      decodeTextBy read w.toList = some s ↔ beforeZero w.toList = Utf8.encode s := fun w s => by
    rw [decodeTextBy_word hread, Utf8.decode?_eq_some_iff]
  refine ⟨hstring, fun s data h => hstring s data h.holdsText, hword, fun w bs h => ?_,
    fun s hzero hfits => ?_, fun data => decodeText?_eq_decodeTextBy hread⟩
  · rw [← decodeTextBy_word hread, decodeTextBy_of_holdsText hread h]
  · have hlength : (Utf8.encode s ++
        List.replicate (32 - (Utf8.encode s).length) 0).length = 32 := by
      rw [List.length_append, List.length_replicate]
      omega
    exact (hword ⟨_, hlength⟩ s).2 (beforeZero_append_zeros (Utf8.zero_not_mem_encode hzero) _)

/-- A name in either encoding. -/
theorem decodeTextBy_reads_both_sample :
    EncodesText "WETH" (encode [.text "WETH"]) ∧
    decodeTextBy readAnyText? (encode [.text "WETH"]) = some "WETH" ∧
    decodeText? (encode [.text "WETH"]) = some "WETH" ∧
    decodeTextBy readAnyText? (Utf8.encode "MKR" ++ List.replicate 29 0) = some "MKR" := by
  have hencodes : EncodesText "WETH" (encode [.text "WETH"]) := encodesText_encode (by decide)
  obtain ⟨-, hstring, -, -, hpadded, hsame⟩ :=
    decodeTextBy_reads_both readAnyText? fun _ _ => readAnyText?_eq_some_iff
  have hread := hstring "WETH" _ hencodes
  exact ⟨hencodes, hread, (hsame _ (by decide)).trans hread, hpadded "MKR" (by decide) (by decide)⟩

end Abi

end SellProbe
