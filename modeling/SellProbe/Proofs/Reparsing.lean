import SellProbe.Json.Reader
import SellProbe.Proofs.Lexing

/-!
# Values there and back

The lexemes of a value lead the reader from any place where a value may stand to the place behind
that value, with the same arrays and objects still open. So a value is read back from its lexemes,
and from its text if its numbers are numbers of the grammar and its strings have a text
(`parse?_print`).
-/

namespace SellProbe.Json

open Lexeme

/-! ## From the lexemes -/

namespace Position

/-- A value where the first element of an array is awaited. -/
theorem step?_firstElement {t : Lexeme} (ht : t ≠ .closeBracket) (frames : List Frame) :
    step? ⟨.firstElement, frames⟩ t = step? ⟨.value, frames⟩ t := by
  cases t with
  | closeBracket => exact absurd rfl ht
  | _ => rfl

theorem exists_lexemes_eq_cons (j : Json) :
    ∃ t ts, j.lexemes = t :: ts ∧ t ≠ .closeBracket := by
  cases j <;> exact ⟨_, _, rfl, nofun⟩

theorem exists_elementLexemes_eq_cons (x : Json) (xs : List Json) :
    ∃ t ts, elementLexemes (x :: xs) = t :: ts ∧ t ≠ .closeBracket := by
  obtain ⟨t, ts, hx, ht⟩ := exists_lexemes_eq_cons x
  cases xs with
  | nil => exact ⟨t, _, by rw [elementLexemes, hx, List.cons_append], ht⟩
  | cons y ys => exact ⟨t, _, by rw [elementLexemes, hx, List.cons_append], ht⟩

theorem foldlM_firstElement (x : Json) (xs : List Json) (frames : List Frame) :
    (elementLexemes (x :: xs)).foldlM step? ⟨.firstElement, frames⟩ =
      (elementLexemes (x :: xs)).foldlM step? ⟨.value, frames⟩ := by
  obtain ⟨t, ts, hlexemes, ht⟩ := exists_elementLexemes_eq_cons x xs
  rw [hlexemes, List.foldlM_cons, List.foldlM_cons, step?_firstElement ht]

/-- The first key of an object is read like any other. -/
theorem foldlM_firstKey (m : Text × Json) (ms : List (Text × Json)) (frames : List Frame) :
    (memberLexemes (m :: ms)).foldlM step? ⟨.firstKey, frames⟩ =
      (memberLexemes (m :: ms)).foldlM step? ⟨.key [], frames⟩ := by
  cases ms <;> rfl

-- Of an open array or object, `done` has been read before, last first. The frames below it stay as
-- they are, so the three statements hold for all frames, and each uses the others on smaller values.
mutual

theorem foldlM_lexemes : ∀ (j : Json) (frames : List Frame),
    j.lexemes.foldlM step? ⟨.value, frames⟩ = some ⟨.next j, frames⟩
  | .null, _ => rfl
  | .bool _, _ => rfl
  | .number _, _ => rfl
  | .string _, _ => rfl
  | .array [], _ => rfl
  | .array (x :: xs), frames => by
    have helements := foldlM_elementLexemes (x :: xs) [] frames (List.cons_ne_nil _ _)
    rw [lexemes, List.foldlM_cons]
    show (elementLexemes (x :: xs)).foldlM step? ⟨.firstElement, .array [] :: frames⟩ = _
    rw [foldlM_firstElement, helements]
    rfl
  | .object [], _ => rfl
  | .object (m :: ms), frames => by
    have hmembers := foldlM_memberLexemes (m :: ms) [] frames (List.cons_ne_nil _ _)
    rw [lexemes, List.foldlM_cons]
    show (memberLexemes (m :: ms)).foldlM step? ⟨.firstKey, frames⟩ = _
    rw [foldlM_firstKey, hmembers]
    rfl

theorem foldlM_elementLexemes : ∀ (xs done : List Json) (frames : List Frame), xs ≠ [] →
    (elementLexemes xs).foldlM step? ⟨.value, .array done :: frames⟩ =
      some ⟨.next (.array (done.reverse ++ xs)), frames⟩
  | [], _, _, h => absurd rfl h
  | [x], done, frames, _ => by
    rw [elementLexemes, List.foldlM_append, foldlM_lexemes x]
    show some (Position.mk (.next (.array (x :: done).reverse)) frames) = _
    rw [List.reverse_cons]
  | x :: y :: ys, done, frames, _ => by
    have hrest := foldlM_elementLexemes (y :: ys) (x :: done) frames (List.cons_ne_nil _ _)
    rw [elementLexemes, List.foldlM_append, foldlM_lexemes x]
    show (elementLexemes (y :: ys)).foldlM step? ⟨.value, .array (x :: done) :: frames⟩ = _
    rw [hrest, List.reverse_cons, List.append_assoc]
    rfl

theorem foldlM_memberLexemes : ∀ (ms done : List (Text × Json)) (frames : List Frame), ms ≠ [] →
    (memberLexemes ms).foldlM step? ⟨.key done, frames⟩ =
      some ⟨.next (.object (done.reverse ++ ms)), frames⟩
  | [], _, _, h => absurd rfl h
  | [(k, v)], done, frames, _ => by
    show (v.lexemes ++ [Lexeme.closeBrace]).foldlM step? ⟨.value, .object done k :: frames⟩ = _
    rw [List.foldlM_append, foldlM_lexemes v]
    show some (Position.mk (.next (.object ((k, v) :: done).reverse)) frames) = _
    rw [List.reverse_cons]
  | (k, v) :: m :: ms, done, frames, _ => by
    have hrest := foldlM_memberLexemes (m :: ms) ((k, v) :: done) frames (List.cons_ne_nil _ _)
    show (v.lexemes ++ Lexeme.comma :: memberLexemes (m :: ms)).foldlM step?
      ⟨.value, .object done k :: frames⟩ = _
    rw [List.foldlM_append, foldlM_lexemes v]
    show (memberLexemes (m :: ms)).foldlM step? ⟨.key ((k, v) :: done), frames⟩ = _
    rw [hrest, List.reverse_cons, List.append_assoc]
    rfl

end

end Position

/-- A value is read back from its lexemes. -/
theorem ofLexemes?_lexemes (j : Json) : ofLexemes? j.lexemes = some j := by
  rw [ofLexemes?, Position.start, Position.foldlM_lexemes]
  rfl

/-! ## From the text -/

/-- A lexeme that is no number may stand anywhere. -/
theorem isChain_append_cons {t : Lexeme} (ht : t.isNumber = false) {ts us : List Lexeme}
    (hts : ts.IsChain Apart) (hus : us.IsChain Apart) : (ts ++ t :: us).IsChain Apart := by
  have hbehind : (t :: us).IsChain Apart :=
    List.isChain_cons.2 ⟨fun u _ hnumber => Bool.noConfusion (ht.symm.trans hnumber), hus⟩
  refine List.isChain_append.2 ⟨hts, hbehind, fun u _ w hw _ => ?_⟩
  cases hw
  exact ht

theorem isChain_cons_of_isNumber {t : Lexeme} (ht : t.isNumber = false) {us : List Lexeme}
    (hus : us.IsChain Apart) : (t :: us).IsChain Apart :=
  isChain_append_cons ht List.isChain_nil hus

-- Brackets, commas and colons keep the numbers of a value apart.
mutual

theorem isChain_lexemes : ∀ j : Json, j.lexemes.IsChain Apart
  | .null => List.isChain_singleton _
  | .bool _ => List.isChain_singleton _
  | .number _ => List.isChain_singleton _
  | .string _ => List.isChain_singleton _
  | .array xs => isChain_cons_of_isNumber rfl (isChain_elementLexemes xs)
  | .object ms => isChain_cons_of_isNumber rfl (isChain_memberLexemes ms)

theorem isChain_elementLexemes : ∀ xs : List Json, (elementLexemes xs).IsChain Apart
  | [] => List.isChain_singleton _
  | [x] => isChain_append_cons rfl (isChain_lexemes x) List.isChain_nil
  | x :: y :: ys =>
    isChain_append_cons rfl (isChain_lexemes x) (isChain_elementLexemes (y :: ys))

theorem isChain_memberLexemes : ∀ ms : List (Text × Json), (memberLexemes ms).IsChain Apart
  | [] => List.isChain_singleton _
  | [(_, v)] => by
    have hvalue := isChain_append_cons (t := .closeBrace) rfl (isChain_lexemes v) List.isChain_nil
    exact isChain_cons_of_isNumber rfl (isChain_cons_of_isNumber rfl hvalue)
  | (_, v) :: m :: ms => by
    have hvalue := isChain_append_cons (t := .comma) rfl (isChain_lexemes v)
      (isChain_memberLexemes (m :: ms))
    exact isChain_cons_of_isNumber rfl (isChain_cons_of_isNumber rfl hvalue)

end

/-- A value that can be read back from its text. -/
def IsProper (j : Json) : Prop := ∀ t ∈ j.lexemes, t.IsProper

theorem parse?_print {j : Json} (hj : j.IsProper) : parse? j.print = some j := by
  have hscan := scan?_write hj (isChain_lexemes j)
  rw [parse?, print, String.toList_ofList, hscan]
  exact ofLexemes?_lexemes j

theorem isProper_text (s : String) : (text s).IsProper := List.forall_mem_singleton.2 rfl

theorem eq_zero_of_head?_toDigits {n : Nat} (h : (Nat.toDigits 10 n).head? = some '0') : n = 0 := by
  have hsmall : ∀ m < 10, Nat.digitChar m = '0' → m = 0 := by decide
  induction n using Nat.strongRecOn with
  | ind n ih =>
    by_cases hn : n < 10
    · rw [Nat.toDigits_of_lt_base hn] at h
      exact hsmall n hn (Option.some.inj h)
    · have hle : 10 ≤ n := Nat.le_of_not_lt hn
      rw [Nat.toDigits_of_base_le (by decide) hle, List.head?_append_of_ne_nil _ Nat.toDigits_ne_nil]
        at h
      have htens : n / 10 = 0 := ih (n / 10) (by omega) h
      omega

/-- A natural number is written as the grammar has it. -/
theorem isProper_ofNat (n : Nat) : (Number.ofNat n).IsProper where
  whole := ⟨Nat.toDigits_ne_nil, fun _ hc => Nat.isDigit_of_mem_toDigits (by decide) (by decide) hc⟩
  whole_of_zero h := by
    show Nat.toDigits 10 n = ['0']
    rw [eq_zero_of_head?_toDigits h, Nat.toDigits_zero]
  fraction := List.forall_mem_nil _
  exponent := nofun

theorem isProper_nat (n : Nat) : (nat n).IsProper := List.forall_mem_singleton.2 (isProper_ofNat n)

theorem isProper_elementLexemes : ∀ xs : List Json, (∀ x ∈ xs, x.IsProper) →
    ∀ t ∈ elementLexemes xs, t.IsProper
  | [], _ => List.forall_mem_singleton.2 trivial
  | [x], h => by
    have hx : x.IsProper := h x List.mem_cons_self
    rw [elementLexemes, List.forall_mem_append, List.forall_mem_singleton]
    exact ⟨hx, trivial⟩
  | x :: y :: ys, h => by
    have hx : x.IsProper := h x List.mem_cons_self
    have hrest := isProper_elementLexemes (y :: ys) fun z hz => h z (List.mem_cons_of_mem _ hz)
    rw [elementLexemes, List.forall_mem_append, List.forall_mem_cons]
    exact ⟨hx, trivial, hrest⟩

theorem isProper_array {xs : List Json} (hxs : ∀ x ∈ xs, x.IsProper) : (array xs).IsProper :=
  List.forall_mem_cons.2 ⟨trivial, isProper_elementLexemes xs hxs⟩

def keyed (m : String × Json) : Text × Json := (some m.1, m.2)

theorem record_eq (ms : List (String × Json)) : record ms = .object (ms.map keyed) := rfl

theorem isProper_memberLexemes : ∀ ms : List (String × Json), (∀ m ∈ ms, m.2.IsProper) →
    ∀ t ∈ memberLexemes (ms.map keyed), t.IsProper
  | [], _ => List.forall_mem_singleton.2 trivial
  | [m], h => by
    have hm : m.2.IsProper := h m List.mem_cons_self
    show ∀ t ∈ .string (some m.1) :: .colon :: (m.2.lexemes ++ [.closeBrace]), t.IsProper
    rw [List.forall_mem_cons, List.forall_mem_cons, List.forall_mem_append,
      List.forall_mem_singleton]
    exact ⟨rfl, trivial, hm, trivial⟩
  | m :: n :: ms, h => by
    have hm : m.2.IsProper := h m List.mem_cons_self
    have hrest := isProper_memberLexemes (n :: ms) fun x hx => h x (List.mem_cons_of_mem _ hx)
    show ∀ t ∈ .string (some m.1) :: .colon ::
      (m.2.lexemes ++ .comma :: memberLexemes ((n :: ms).map keyed)), t.IsProper
    rw [List.forall_mem_cons, List.forall_mem_cons, List.forall_mem_append, List.forall_mem_cons]
    exact ⟨rfl, trivial, hm, trivial, hrest⟩

theorem isProper_record {ms : List (String × Json)} (hms : ∀ m ∈ ms, m.2.IsProper) :
    (record ms).IsProper :=
  List.forall_mem_cons.2 ⟨trivial, isProper_memberLexemes ms hms⟩

end SellProbe.Json
