import Mathlib.Data.List.Chain
import Mathlib.Tactic.SplitIfs
import SellProbe.Json.Printer
import SellProbe.Proofs.HexDigits

/-!
# Lexemes there and back

Every lexeme is read as it is written, whatever stands behind it, but for a number: behind it there
must be nothing that could belong to it. So a list of lexemes is read back from its text if all
numbers are numbers of the grammar, all strings have a text, and no two numbers stand side by side
(`scan?_write`).
-/

namespace SellProbe.Json

/-! ## Numbers -/

structure IsDigits (ds : List Char) : Prop where
  ne_nil : ds ≠ []
  isDigit : ∀ c ∈ ds, c.isDigit = true

/-- A number of the grammar: it has a whole part without superfluous zeros, and an exponent with
digits if it has one. -/
structure Number.IsProper (n : Number) : Prop where
  whole : IsDigits n.whole
  whole_of_zero : n.whole.head? = some '0' → n.whole = ['0']
  fraction : ∀ c ∈ n.fraction, c.isDigit = true
  exponent : ∀ e, n.exponent = some e → IsDigits e.digits

/-- A text whose first character does not belong to a number in front of it. -/
def EndsNumber (cs : List Char) : Prop :=
  ∀ c, cs.head? = some c → c.isDigit = false ∧ c ≠ '.' ∧ c ≠ 'e' ∧ c ≠ 'E'

namespace Lexeme

variable {ds rest : List Char}

theorem digits_append (hds : ∀ c ∈ ds, c.isDigit = true)
    (hrest : ∀ c, rest.head? = some c → c.isDigit = false) : digits (ds ++ rest) = (ds, rest) := by
  have hstop : rest.takeWhile Char.isDigit = [] ∧ rest.dropWhile Char.isDigit = rest := by
    cases rest with
    | nil => exact ⟨rfl, rfl⟩
    | cons c rest =>
      have hc : ¬ c.isDigit = true := Bool.not_eq_true _ ▸ hrest c rfl
      exact ⟨List.takeWhile_cons_of_neg hc, List.dropWhile_cons_of_neg hc⟩
  rw [digits, List.takeWhile_append_of_pos hds, List.dropWhile_append_of_pos hds, hstop.1, hstop.2,
    List.append_nil]

theorem someDigits?_append (hds : IsDigits ds)
    (hrest : ∀ c, rest.head? = some c → c.isDigit = false) :
    someDigits? (ds ++ rest) = some (ds, rest) := by
  have hne : ds.isEmpty = false := List.isEmpty_eq_false_iff.2 hds.ne_nil
  rw [someDigits?, digits_append hds.isDigit hrest, hne]
  rfl

theorem exists_eq_cons (hds : IsDigits ds) : ∃ c cs, ds = c :: cs ∧ c.isDigit = true := by
  obtain ⟨c, cs, rfl⟩ := List.exists_cons_of_ne_nil hds.ne_nil
  exact ⟨c, cs, rfl, hds.isDigit c List.mem_cons_self⟩

theorem minus_of_ne {c : Char} (hc : c ≠ '-') (cs : List Char) :
    minus (c :: cs) = (false, c :: cs) := by
  unfold minus
  split
  next rest h => exact absurd (List.cons.inj h).1 hc
  next => rfl

theorem ne_of_isDigit {c d : Char} (hc : c.isDigit = true) (hd : d.isDigit = false) : c ≠ d := by
  rintro rfl
  rw [hc] at hd
  cases hd

theorem whole?_append {n : Number} (hn : n.IsProper)
    (hrest : ∀ c, rest.head? = some c → c.isDigit = false) :
    whole? (n.whole ++ rest) = some (n.whole, rest) := by
  by_cases hzero : n.whole.head? = some '0'
  · rw [hn.whole_of_zero hzero]
    rfl
  · obtain ⟨c, cs, hwhole, -⟩ := exists_eq_cons hn.whole
    rw [← someDigits?_append hn.whole hrest, hwhole]
    rw [hwhole] at hzero
    unfold whole?
    split
    next rest' h => exact absurd (congrArg some (List.cons.inj h).1) hzero
    next => rfl

def fractionText (ds : List Char) : List Char := if ds.isEmpty then [] else '.' :: ds

def exponentText : Option Exponent → List Char
  | none => []
  | some e => 'e' :: (if e.negative then ['-'] else []) ++ e.digits

theorem writeNumber_eq (n : Number) :
    writeNumber n = (if n.negative then ['-'] else []) ++
      (n.whole ++ (fractionText n.fraction ++ exponentText n.exponent)) := by
  rw [writeNumber, fractionText, List.append_assoc, List.append_assoc]
  cases n.exponent <;> rfl

theorem fraction?_append (hds : ∀ c ∈ ds, c.isDigit = true)
    (hrest : ∀ c, rest.head? = some c → c.isDigit = false ∧ c ≠ '.') :
    fraction? (fractionText ds ++ rest) = some (ds, rest) := by
  cases ds with
  | nil =>
    show fraction? rest = some ([], rest)
    unfold fraction?
    split
    next rest' => exact absurd rfl (hrest '.' rfl).2
    next => rfl
  | cons d ds =>
    exact someDigits?_append ⟨List.cons_ne_nil _ _, hds⟩ fun c hc => (hrest c hc).1

theorem exponentSign_append {e : Exponent} (he : IsDigits e.digits) (rest : List Char) :
    exponentSign ((if e.negative then ['-'] else []) ++ e.digits ++ rest) =
      (e.negative, e.digits ++ rest) := by
  cases hnegative : e.negative with
  | true => rfl
  | false =>
    obtain ⟨c, cs, hcs, hc⟩ := exists_eq_cons he
    have hplus : c ≠ '+' := ne_of_isDigit hc rfl
    have hminus : c ≠ '-' := ne_of_isDigit hc rfl
    show exponentSign (e.digits ++ rest) = (false, e.digits ++ rest)
    rw [hcs, List.cons_append]
    unfold exponentSign
    split
    next rest' h => exact absurd (List.cons.inj h).1 hplus
    next => exact minus_of_ne hminus _

theorem exponent?_append {e : Option Exponent} (he : ∀ x, e = some x → IsDigits x.digits)
    (hrest : EndsNumber rest) : exponent? (exponentText e ++ rest) = some (e, rest) := by
  cases e with
  | none =>
    show exponent? rest = some (none, rest)
    cases rest with
    | nil => rfl
    | cons c rest =>
      obtain ⟨-, -, hlower, hupper⟩ := hrest c rfl
      rw [exponent?, if_neg]
      simp [hlower, hupper]
  | some e =>
    have hdigits := someDigits?_append (he e rfl) fun c hc => (hrest c hc).1
    have hsign := exponentSign_append (he e rfl) rest
    show exponent? ('e' :: ((if e.negative then ['-'] else []) ++ e.digits ++ rest)) = _
    rw [exponent?, if_pos (by decide), hsign, hdigits]
    rfl

/-- What stands behind the whole part of a number is no digit. -/
theorem head?_fraction_exponent {n : Number} (hrest : EndsNumber rest) {c : Char}
    (hc : (fractionText n.fraction ++ (exponentText n.exponent ++ rest)).head? = some c) :
    c.isDigit = false := by
  cases hfraction : n.fraction with
  | cons d ds =>
    rw [hfraction] at hc
    cases hc
    rfl
  | nil =>
    rw [hfraction] at hc
    cases hexponent : n.exponent with
    | some e =>
      rw [hexponent] at hc
      cases hc
      rfl
    | none =>
      rw [hexponent] at hc
      exact (hrest c hc).1

/-- What stands behind the fraction of a number is no digit and no point. -/
theorem head?_exponent {e : Option Exponent} (hrest : EndsNumber rest) {c : Char}
    (hc : (exponentText e ++ rest).head? = some c) : c.isDigit = false ∧ c ≠ '.' := by
  cases e with
  | some e =>
    cases hc
    exact ⟨rfl, by decide⟩
  | none => exact ⟨(hrest c hc).1, (hrest c hc).2.1⟩

theorem minus_writeNumber {n : Number} (hn : n.IsProper) (cs : List Char) :
    minus ((if n.negative then ['-'] else []) ++ (n.whole ++ cs)) = (n.negative, n.whole ++ cs) := by
  cases hnegative : n.negative with
  | true => rfl
  | false =>
    obtain ⟨c, ds, hwhole, hc⟩ := exists_eq_cons hn.whole
    show minus (n.whole ++ cs) = (false, n.whole ++ cs)
    rw [hwhole]
    exact minus_of_ne (ne_of_isDigit hc rfl) _

theorem number?_writeNumber {n : Number} (hn : n.IsProper) (hrest : EndsNumber rest) :
    number? (writeNumber n ++ rest) = some (n, rest) := by
  have hminus := minus_writeNumber hn (fractionText n.fraction ++ (exponentText n.exponent ++ rest))
  have hwhole := whole?_append hn fun c => head?_fraction_exponent (n := n) hrest
  have hfraction := fraction?_append hn.fraction fun c => head?_exponent (e := n.exponent) hrest
  have hexponent := exponent?_append hn.exponent hrest
  rw [writeNumber_eq, List.append_assoc, List.append_assoc, List.append_assoc, number?, hminus]
  simp only [hwhole, hfraction, hexponent, Option.bind_eq_bind, Option.bind_some]
  rfl

/-! ## Strings -/

/-- The piece that a character inside quotes is read as: a control without a letter of its own comes
as a unit. -/
def quotePiece (c : Char) : Piece :=
  if c.toNat < 0x20 ∧ c ∉ ['\x08', '\x0c', '\n', '\r', '\t'] then .unit c.toNat else .char c

theorem unit?_hexChar {n : Nat} (hn : n < 0x20) :
    unit? '0' '0' (hexChar (n / 16)) (hexChar n) = some (.unit n) := by
  have hhigh := Hex.digit?_digitChar (n / 16 % 16) (Nat.mod_lt _ (by decide))
  have hlow := Hex.digit?_digitChar (n % 16) (Nat.mod_lt _ (by decide))
  have hvalue : ((0 * 16 + 0) * 16 + n / 16 % 16) * 16 + n % 16 = n := by omega
  rw [unit?, hexChar, hexChar, hhigh, hlow]
  exact congrArg (fun v => some (Piece.unit v)) hvalue

theorem pieces?_escape {e c : Char} (hu : e ≠ 'u') (he : escaped? e = some c) (rest : List Char) :
    pieces? ('\\' :: e :: rest) = (pieces? rest).map fun p => (.char c :: p.1, p.2) := by
  rw [pieces?, he]
  · cases pieces? rest <;> rfl
  · rintro a b c d rest' rfl
    exact absurd rfl hu

theorem pieces?_quoteChar (c : Char) (rest : List Char) :
    pieces? (quoteChar c ++ rest) = (pieces? rest).map fun p => (quotePiece c :: p.1, p.2) := by
  unfold quoteChar
  split_ifs with hquote hslash hb hf hn hr ht hcontrol
  iterate 7
    subst c
    exact pieces?_escape (by decide) rfl rest
  · have hpiece : quotePiece c = .unit c.toNat := if_pos ⟨hcontrol, by simp [hb, hf, hn, hr, ht]⟩
    show pieces? ('\\' :: 'u' :: '0' :: '0' :: hexChar (c.toNat / 16) :: hexChar c.toNat :: rest) = _
    rw [pieces?, unit?_hexChar hcontrol, hpiece]
    cases pieces? rest <;> rfl
  · have hpiece : quotePiece c = .char c := if_neg fun h => hcontrol h.1
    have hplain : ¬(decide (c.toNat < 0x20) || c == '\\') = true := by simp [hcontrol, hslash]
    show pieces? (c :: rest) = _
    rw [pieces?, if_neg hplain, hpiece]
    all_goals simp [hquote, hslash]

theorem chars?_quotePiece (c : Char) (ps : List Piece) :
    Piece.chars? (quotePiece c :: ps) = (Piece.chars? ps).map (c :: ·) := by
  unfold quotePiece
  split
  next h =>
    have hhigh : Piece.isHigh c.toNat = false := by simp [Piece.isHigh]; omega
    have hlow : Piece.isLow c.toNat = false := by simp [Piece.isLow]; omega
    have hread : Piece.chars? (.unit c.toNat :: ps) =
        (Piece.chars? ps).map (Char.ofNat c.toNat :: ·) := by
      rw [Piece.chars?.eq_def]
      simp only [hhigh, hlow, Bool.false_eq_true, if_false]
    rw [hread, Char.ofNat_toNat]
  next => rfl

theorem pieces?_flatMap_quoteChar (cs rest : List Char) :
    pieces? (cs.flatMap quoteChar ++ '"' :: rest) = some (cs.map quotePiece, rest) := by
  induction cs with
  | nil => rfl
  | cons c cs ih =>
    rw [List.flatMap_cons, List.append_assoc, pieces?_quoteChar, ih]
    rfl

theorem chars?_map_quotePiece (cs : List Char) : Piece.chars? (cs.map quotePiece) = some cs := by
  induction cs with
  | nil => rfl
  | cons c cs ih =>
    rw [List.map_cons, chars?_quotePiece, ih]
    rfl

/-! ## Lexemes -/

/-- A lexeme that can be read back: a number of the grammar, a string with a text, or any other. -/
def IsProper : Lexeme → Prop
  | .number n => n.IsProper
  | .string s => s.isSome = true
  | _ => True

/-- Whether the end of the lexeme can be seen only from what stands behind it. -/
def isNumber : Lexeme → Bool
  | .number _ => true
  | _ => false

/-- Lexemes that may stand side by side without a blank. -/
def Apart (t u : Lexeme) : Prop := t.isNumber = true → u.isNumber = false

variable {t u : Lexeme}

theorem endsNumber_nil : EndsNumber [] := by
  intro c hc
  cases hc

theorem endsNumber_write (hu : u.isNumber = false) (rest : List Char) :
    EndsNumber (write u ++ rest) := by
  intro c hc
  cases u with
  | number n => cases hu
  | bool b => cases b <;> cases hc <;> decide
  | string s => cases s <;> cases hc <;> decide
  | _ =>
    cases hc
    decide

theorem exists_writeNumber_eq_cons {n : Number} (hn : n.IsProper) :
    ∃ c cs, writeNumber n = c :: cs ∧ (c = '-' ∨ c.isDigit = true) := by
  obtain ⟨d, ds, hwhole, hd⟩ := exists_eq_cons hn.whole
  rw [writeNumber_eq, hwhole]
  cases n.negative with
  | true => exact ⟨'-', _, rfl, Or.inl rfl⟩
  | false => exact ⟨d, _, rfl, Or.inr hd⟩

/-- No other lexeme starts like a number. -/
theorem first?_of_number {c : Char} (hc : c = '-' ∨ c.isDigit = true) (cs : List Char) :
    first? (c :: cs) = (number? (c :: cs)).map fun p => (.number p.1, p.2) := by
  have hne : ∀ d : Char, d ≠ '-' → d.isDigit = false → c ≠ d := by
    rintro d hminus hdigit rfl
    exact hc.elim hminus fun h => Bool.noConfusion (h.symm.trans hdigit)
  rw [first?]
  all_goals simp [hne]

theorem first?_write (ht : t.IsProper) {rest : List Char}
    (hrest : t.isNumber = true → EndsNumber rest) : first? (write t ++ rest) = some (t, rest) := by
  cases t with
  | bool b => cases b <;> rfl
  | number n =>
    obtain ⟨c, cs, hwrite, hc⟩ := exists_writeNumber_eq_cons ht
    have hread := number?_writeNumber ht (hrest rfl)
    rw [write]
    rw [hwrite, List.cons_append] at hread ⊢
    rw [first?_of_number hc, hread]
    rfl
  | string s =>
    obtain ⟨s, rfl⟩ := Option.isSome_iff_exists.1 ht
    have hread := pieces?_flatMap_quoteChar s.toList rest
    have htext : write (.string (some s)) ++ rest =
        '"' :: (s.toList.flatMap quoteChar ++ '"' :: rest) := by
      rw [write, quote, List.append_assoc]
      rfl
    rw [htext, first?, hread]
    simp only [Option.map_some, chars?_map_quotePiece, String.ofList_toList]
  | _ => rfl

theorem exists_write_eq_cons (ht : t.IsProper) :
    ∃ c cs, write t = c :: cs ∧ isSpace c = false := by
  cases t with
  | bool b => cases b <;> exact ⟨_, _, rfl, rfl⟩
  | string s => cases s <;> exact ⟨_, _, rfl, rfl⟩
  | number n =>
    obtain ⟨c, cs, hwrite, hc⟩ := exists_writeNumber_eq_cons ht
    refine ⟨c, cs, hwrite, Bool.eq_false_iff.2 fun hspace => ?_⟩
    have hblank : c = ' ' ∨ c = '\t' ∨ c = '\n' ∨ c = '\r' := by
      simpa [isSpace, or_assoc] using hspace
    rcases hblank with rfl | rfl | rfl | rfl <;> exact absurd hc (by decide)
  | _ => exact ⟨_, _, rfl, rfl⟩

theorem scan?_of_first? {c : Char} {cs rest : List Char} (hspace : isSpace c = false)
    (hfirst : first? (c :: cs) = some (t, rest)) :
    scan? (c :: cs) = (scan? rest).map (t :: ·) := by
  rw [scan?, hspace, if_neg Bool.false_ne_true]
  split
  next hnone => rw [hfirst] at hnone; cases hnone
  next t' rest' hsome =>
    rw [hfirst] at hsome
    cases hsome
    rfl

/-- Lexemes are read back from their text. -/
theorem scan?_write {ts : List Lexeme} (hproper : ∀ t ∈ ts, t.IsProper)
    (hchain : ts.IsChain Apart) : scan? (ts.flatMap write) = some ts := by
  induction ts with
  | nil => rw [List.flatMap_nil, scan?]
  | cons t ts ih =>
    have ht : t.IsProper := hproper t List.mem_cons_self
    obtain ⟨hhead, hts⟩ := List.isChain_cons.1 hchain
    have hrest : t.isNumber = true → EndsNumber (ts.flatMap write) := fun hnumber => by
      cases ts with
      | nil => exact endsNumber_nil
      | cons u us => exact endsNumber_write (hhead u rfl hnumber) _
    have hfirst := first?_write ht hrest
    obtain ⟨c, cs, hwrite, hspace⟩ := exists_write_eq_cons ht
    rw [List.flatMap_cons]
    rw [hwrite, List.cons_append] at hfirst ⊢
    rw [scan?_of_first? hspace hfirst,
      ih (fun u hu => hproper u (List.mem_cons_of_mem _ hu)) hts]
    rfl

end Lexeme

end SellProbe.Json
