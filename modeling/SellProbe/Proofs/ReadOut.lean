import SellProbe.Proofs.BigEndian
import SellProbe.Proofs.Collecting
import SellProbe.Proofs.Constants
import SellProbe.Storage.Survey

/-!
# Reading slots out

What is known of some slots grows with each word that is read: a word other than zero is kept with
its slot, and if it looks like an address that has not come before, this is listed too. What has
been read so far determines both lists (`SlotValues.IsReadOut`), and each further word keeps that
so. A reading of several slots has both lists for the words of all of them, or it ends as the first
reading that fails and asks for no slot behind it (`readSlots_complete`).
-/

namespace SellProbe

theorem FixedBytes.isZero_iff {n : Nat} {b : FixedBytes n} : b.isZero = true ↔ b = zero n := by
  rw [FixedBytes.ext_iff, isZero, zero, fill, List.eq_replicate_iff, List.all_eq_true]
  simp [b.length_toList]

namespace Storage

/-! ## Words that look like addresses -/

/-- The twelve bytes before the address, its first byte, and the rest. -/
theorem exists_parts (word : Hash) : ∃ high first low, word.toList = high ++ first :: low ∧
    high.length = 12 ∧ low.length = 19 := by
  have hword := word.length_toList
  cases hlow : word.toList.drop 12 with
  | nil =>
    have hnone := List.drop_eq_nil_iff.1 hlow
    omega
  | cons first low =>
    have hlength := congrArg List.length hlow
    rw [List.length_drop, List.length_cons] at hlength
    refine ⟨word.toList.take 12, first, low, ?_, ?_, by omega⟩
    · rw [← hlow, List.take_append_drop]
    · rw [List.length_take]
      omega

/-- Twelve zeros and then another byte begin the numbers that have twenty bytes, no fewer and no
more. -/
theorem shape_iff (word : Hash) :
    ((word.toList.take 12).all (· == 0) && word.toList.getD 12 0 != 0) = true ↔
      2 ^ 152 ≤ word.toNat ∧ word.toNat < 2 ^ 160 := by
  obtain ⟨high, first, low, hword, hhigh, hlow⟩ := exists_parts word
  have htake : word.toList.take 12 = high := by rw [hword, List.take_left' hhigh]
  have hget : word.toList.getD 12 0 = first := by
    rw [hword, List.getD_eq_getElem?_getD, List.getElem?_append_right hhigh.le, hhigh]
    rfl
  have hnumber : word.toNat =
      Bytes.toNat high * 256 ^ 20 + (first.toNat * 256 ^ 19 + Bytes.toNat low) := by
    rw [FixedBytes.toNat, hword, Bytes.toNat_append, Bytes.toNat_cons, List.length_cons, hlow]
  have hsmall : Bytes.toNat low < 256 ^ 19 := hlow ▸ Bytes.toNat_lt low
  have hbyte : first.toNat < 256 := first.toNat_lt
  have hfirst : first ≠ 0 ↔ first.toNat ≠ 0 := UInt8.toNat_inj.symm.not
  rw [htake, hget, Bool.and_eq_true, List.all_eq_true, bne_iff_ne, hfirst, hnumber]
  simp only [beq_iff_eq, ← Bytes.toNat_eq_zero_iff]
  omega

theorem asAddress?_eq_some_iff {word : Hash} {a : Address} :
    asAddress? word = some a ↔
      (2 ^ 152 ≤ word.toNat ∧ word.toNat < 2 ^ 160) ∧ word.toAddress = a := by
  rw [asAddress?, ite_eq_iff, shape_iff]
  simp

/-! ## What is known after some readings -/

/-- At a place in a list of slots with their words there is a word that looks like an address, and
its low twenty bytes are the address. -/
def AddressAt (values : List (Hash × Hash)) (place : Nat) (a : Address) : Prop :=
  ∃ slot word, values[place]? = some (slot, word) ∧
    (2 ^ 152 ≤ word.toNat ∧ word.toNat < 2 ^ 160) ∧ word.toAddress = a

namespace SlotValues

variable {known known' : SlotValues} {read : List (Hash × Hash)}

/-- What is to be known of slots when some of them have been read, each with the word in it. -/
structure IsReadOut (read : List (Hash × Hash)) (known : SlotValues) : Prop where
  values_eq : known.values = read.filter fun (_, word) => word ≠ FixedBytes.zero 32
  addresses : Bytecode.Lists (AddressAt known.values) known.addresses

theorem IsReadOut.eq (h : known.IsReadOut read) (h' : known'.IsReadOut read) : known = known' := by
  have hvalues : known.values = known'.values := h.values_eq.trans h'.values_eq.symm
  have haddresses : known.addresses = known'.addresses :=
    h.addresses.eq (hvalues ▸ h'.addresses)
  cases known
  cases known'
  exact congrArg₂ SlotValues.mk hvalues haddresses

theorem isReadOut_nil : IsReadOut [] ⟨[], []⟩ := by
  refine ⟨rfl, fun a => ?_, List.nodup_nil, List.Pairwise.nil⟩
  simp [AddressAt]

theorem lt_length_of_addressAt {values : List (Hash × Hash)} {place : Nat} {a : Address}
    (h : AddressAt values place a) : place < values.length := by
  obtain ⟨slot, word, hplace, -⟩ := h
  exact (List.getElem?_eq_some_iff.1 hplace).1

/-- A further slot with its word stands at a place behind all others. -/
theorem addressAt_concat {values : List (Hash × Hash)} {slot word : Hash} {place : Nat}
    {a : Address} : AddressAt (values ++ [(slot, word)]) place a ↔
      AddressAt values place a ∨ place = values.length ∧ asAddress? word = some a := by
  unfold AddressAt
  rw [asAddress?_eq_some_iff]
  rcases Nat.lt_trichotomy place values.length with hlt | rfl | hgt
  · rw [List.getElem?_append_left hlt]
    simp [hlt.ne]
  · simp
  · have hbehind : (values ++ [(slot, word)])[place]? = none := by
      rw [List.getElem?_eq_none_iff, List.length_append, List.length_singleton]
      omega
    rw [hbehind, List.getElem?_eq_none hgt.le]
    simp [hgt.ne']

theorem IsReadOut.add (h : known.IsReadOut read) (slot word : Hash) :
    (known.add slot word).IsReadOut (read ++ [(slot, word)]) := by
  unfold SlotValues.add
  split
  next hzero =>
    obtain rfl := FixedBytes.isZero_iff.1 hzero
    exact ⟨by simp [h.values_eq], h.addresses⟩
  next hzero =>
    rw [FixedBytes.isZero_iff] at hzero
    refine ⟨by simp [h.values_eq, hzero], ?_⟩
    cases hword : asAddress? word with
    | none =>
      refine h.addresses.congr fun place a => ?_
      rw [addressAt_concat, hword]
      simp
    | some a =>
      have hmore := h.addresses.concat (a := a) fun _ _ => lt_length_of_addressAt
      simp only [List.contains_eq_mem, decide_eq_true_eq]
      refine hmore.congr fun place a' => ?_
      rw [addressAt_concat, hword, Option.some.injEq, eq_comm (a := a)]

def addAll (known : SlotValues) (read : List (Hash × Hash)) : SlotValues :=
  read.foldl (fun known (slot, word) => known.add slot word) known

theorem IsReadOut.addAll {later : List (Hash × Hash)} (h : known.IsReadOut read) :
    (known.addAll later).IsReadOut (read ++ later) := by
  induction later generalizing known read with
  | nil => rwa [List.append_nil]
  | cons p later ih =>
    have hlater := ih (h.add p.1 p.2)
    rwa [List.append_assoc] at hlater

theorem isReadOut_iff : known.IsReadOut read ↔ addAll ⟨[], []⟩ read = known := by
  have hread : (addAll ⟨[], []⟩ read).IsReadOut read := isReadOut_nil.addAll
  constructor
  · intro h
    exact hread.eq h
  · rintro rfl
    exact hread

end SlotValues

/-! ## Runs -/

section

variable {σ : Type} (respond : Responder σ) (address : Address)

def reply (s : σ) (slot : Hash) : Outcome ProbeError Hash := (respond s (.storage address slot)).1

/-- What is replied to readings of some slots, one after the other, whatever the replies are. -/
def replies : σ → List Hash → List (Outcome ProbeError Hash)
  | _, [] => []
  | s, slot :: slots =>
    reply respond address s slot :: replies (respond s (.storage address slot)).2 slots

theorem length_replies (s : σ) (slots : List Hash) :
    (replies respond address s slots).length = slots.length := by
  induction slots generalizing s with
  | nil => rfl
  | cons slot slots ih => rw [replies, List.length_cons, ih, List.length_cons]

def reading (slot : Hash) (reply : Outcome ProbeError Hash) : Event :=
  .asked (.storage address slot) reply

theorem runWith_valueAt (s : σ) (slot : Hash) :
    (valueAt address slot).runWith respond s =
      ⟨reply respond address s slot, [reading address slot (reply respond address s slot)],
        (respond s (.storage address slot)).2⟩ := rfl

theorem gathers_readSlotsFrom (s : σ) (known : SlotValues) (slots : List Hash) :
    Outcome.Gathers (fun words => known.addAll (slots.zip words)) (replies respond address s slots)
      ((readSlotsFrom address known slots).runWith respond s).outcome := by
  refine ⟨?_⟩
  induction slots generalizing s known with
  | nil => rfl
  | cons slot slots ih =>
    rw [readSlotsFrom, Program.toExcept_outcome_bind, runWith_valueAt, replies, List.mapM_cons,
      bind_assoc]
    refine bind_congr fun word => ?_
    rw [ih, bind_assoc]
    rfl

/-- Slots are read up to the first reading that fails. -/
theorem events_readSlotsFrom (s : σ) (known : SlotValues) (slots : List Hash) :
    ((readSlotsFrom address known slots).runWith respond s).events =
      (List.zipWith (reading address) slots (replies respond address s slots)).take
        (((replies respond address s slots).takeWhile Outcome.isValue).length + 1) := by
  induction slots generalizing s known with
  | nil => rfl
  | cons slot slots ih =>
    rw [readSlotsFrom, Program.bind_eq, Program.runWith_bind, runWith_valueAt, replies,
      List.zipWith_cons_cons, List.take_succ_cons, List.takeWhile_cons]
    cases reply respond address s slot with
    | value word => exact congrArg (reading address slot (.value word) :: ·) (ih _ _)
    | error e => rfl
    | panic t => rfl

end

/-- **All words in order, or the first failure.** Whoever answers, a reading of some slots succeeds
exactly if the reading of each does. It then has the slots with a word other than zero, in order and
with repetitions, and of those words that are numbers from `2 ^ 152` up to `2 ^ 160` the low twenty
bytes as addresses, each once, in the order of their first places. Otherwise it ends as the first
reading that fails. It asks for the slots in order, and for none behind that one. -/
theorem readSlots_complete {σ : Type} (respond : Responder σ) (s : σ) (address : Address)
    (slots : List Hash) :
    let answers := replies respond address s slots
    let run := (readSlots address slots).runWith respond s
    ((∃ result, run.outcome = .value result) ↔
      ∀ answer ∈ answers, ∃ word, answer = .value word) ∧
    (∀ result, run.outcome = .value result ↔ ∃ words : List Hash, words.length = slots.length ∧
      answers = words.map .value ∧ result.IsReadOut (slots.zip words)) ∧
    (∀ e, run.outcome = .error e ↔ ∃ before behind, answers = before ++ .error e :: behind ∧
      ∀ answer ∈ before, ∃ word, answer = .value word) ∧
    (∀ t, run.outcome = .panic t ↔ ∃ before behind, answers = before ++ .panic t :: behind ∧
      ∀ answer ∈ before, ∃ word, answer = .value word) ∧
    run.events = (List.zipWith (reading address) slots answers).take
      ((answers.takeWhile Outcome.isValue).length + 1) := by
  intro answers run
  have hgathers := gathers_readSlotsFrom respond address s ⟨[], []⟩ slots
  have hlength := length_replies respond address s slots
  refine ⟨hgathers.exists_value_iff, fun result => ?_, fun e => hgathers.eq_error_iff,
    fun t => hgathers.eq_panic_iff, events_readSlotsFrom respond address s ⟨[], []⟩ slots⟩
  refine hgathers.eq_value_iff.trans (exists_congr fun words => ?_)
  rw [SlotValues.isReadOut_iff]
  constructor
  · rintro ⟨hanswers, hresult⟩
    refine ⟨?_, hanswers, hresult⟩
    rwa [hanswers, List.length_map] at hlength
  · rintro ⟨-, hanswers, hresult⟩
    exact ⟨hanswers, hresult⟩

/-- A slot that is read twice is told twice, and an address in two slots once. -/
example :
    let slot (n : Nat) : Hash := FixedBytes.ofNat 32 n
    let owner : Address := FixedBytes.fill 20 0x11
    SlotValues.addAll ⟨[], []⟩ [(slot 1, owner.toHash), (slot 2, FixedBytes.zero 32),
        (slot 3, slot 18), (slot 1, owner.toHash)] =
      ⟨[(slot 1, owner.toHash), (slot 3, slot 18), (slot 1, owner.toHash)], [owner]⟩ := by
  decide +kernel

end Storage

end SellProbe
