import SellProbe.Hex
import SellProbe.Json.Basic

/-!
# JSON lexemes

The words of a JSON text: brackets, commas, colons, strings, numbers and the three names.
`Lexeme.scan?` cuts a text into lexemes and drops the blanks between them.
-/

namespace SellProbe.Json

inductive Lexeme
  | openBracket | closeBracket | openBrace | closeBrace | comma | colon
  | null
  | bool (b : Bool)
  | number (n : Number)
  | string (s : Text)
deriving BEq

/-- A piece of a string: a character, or a 16-bit unit from a `u` escape. -/
inductive Piece
  | char (c : Char)
  | unit (n : Nat)

namespace Piece

/-- A unit that must be followed by a second one. -/
def isHigh (n : Nat) : Bool := 0xd800 ≤ n && n < 0xdc00

/-- A unit that must follow a first one. -/
def isLow (n : Nat) : Bool := 0xdc00 ≤ n && n < 0xe000

/-- The characters of a string; a surrogate without its partner makes it no text. -/
def chars? : List Piece → Option (List Char)
  | [] => some []
  | .char c :: rest => (chars? rest).map (c :: ·)
  | .unit n :: rest =>
    if isHigh n then
      match rest with
      | .unit m :: rest' =>
        if isLow m then
          (chars? rest').map (Char.ofNat (0x10000 + (n - 0xd800) * 1024 + (m - 0xdc00)) :: ·)
        else none
      | _ => none
    else if isLow n then none
    else (chars? rest).map (Char.ofNat n :: ·)

end Piece

namespace Lexeme

def isSpace (c : Char) : Bool := c == ' ' || c == '\t' || c == '\n' || c == '\r'

def escaped? : Char → Option Char
  | '"' => some '"'
  | '\\' => some '\\'
  | '/' => some '/'
  | 'b' => some '\x08'
  | 'f' => some '\x0c'
  | 'n' => some '\n'
  | 'r' => some '\r'
  | 't' => some '\t'
  | _ => none

def unit? (a b c d : Char) : Option Piece := do
  let a ← Hex.digit? a
  let b ← Hex.digit? b
  let c ← Hex.digit? c
  let d ← Hex.digit? d
  return .unit (((a * 16 + b) * 16 + c) * 16 + d)

/-- The pieces of a string up to its closing quote, and the text behind it. -/
def pieces? : List Char → Option (List Piece × List Char)
  | [] => none
  | '"' :: rest => some ([], rest)
  | '\\' :: 'u' :: a :: b :: c :: d :: rest =>
    match unit? a b c d, pieces? rest with
    | some p, some (ps, r) => some (p :: ps, r)
    | _, _ => none
  | '\\' :: e :: rest =>
    match escaped? e, pieces? rest with
    | some c, some (ps, r) => some (.char c :: ps, r)
    | _, _ => none
  | c :: rest =>
    if c.toNat < 0x20 || c == '\\' then none
    else (pieces? rest).map fun (ps, r) => (.char c :: ps, r)

/-- The digits at the start of a text, and the text behind them. -/
def digits (cs : List Char) : List Char × List Char :=
  (cs.takeWhile Char.isDigit, cs.dropWhile Char.isDigit)

def someDigits? (cs : List Char) : Option (List Char × List Char) :=
  if (digits cs).1.isEmpty then none else some (digits cs)

/-- The whole part of a number: a zero alone, or digits that do not start with one. -/
def whole? : List Char → Option (List Char × List Char)
  | '0' :: rest => some (['0'], rest)
  | cs => someDigits? cs

/-- The digits behind a point; without a point there are none. -/
def fraction? : List Char → Option (List Char × List Char)
  | '.' :: rest => someDigits? rest
  | cs => some ([], cs)

/-- A minus sign at the start of a text, and the text behind it. -/
def minus : List Char → Bool × List Char
  | '-' :: rest => (true, rest)
  | cs => (false, cs)

def exponentSign : List Char → Bool × List Char
  | '+' :: rest => (false, rest)
  | cs => minus cs

def exponent? : List Char → Option (Option Exponent × List Char)
  | [] => some (none, [])
  | c :: rest =>
    if c == 'e' || c == 'E' then
      (someDigits? (exponentSign rest).2).map fun (ds, r) =>
        (some ⟨(exponentSign rest).1, ds⟩, r)
    else some (none, c :: rest)

def number? (cs : List Char) : Option (Number × List Char) := do
  let (whole, r) ← whole? (minus cs).2
  let (fraction, r) ← fraction? r
  let (exponent, r) ← exponent? r
  return (⟨(minus cs).1, whole, fraction, exponent⟩, r)

/-- The lexeme at the start of a text that starts with no blank, and the text behind it. -/
def first? : List Char → Option (Lexeme × List Char)
  | [] => none
  | '[' :: rest => some (.openBracket, rest)
  | ']' :: rest => some (.closeBracket, rest)
  | '\x7b' :: rest => some (.openBrace, rest)
  | '\x7d' :: rest => some (.closeBrace, rest)
  | ',' :: rest => some (.comma, rest)
  | ':' :: rest => some (.colon, rest)
  | 'n' :: 'u' :: 'l' :: 'l' :: rest => some (.null, rest)
  | 't' :: 'r' :: 'u' :: 'e' :: rest => some (.bool true, rest)
  | 'f' :: 'a' :: 'l' :: 's' :: 'e' :: rest => some (.bool false, rest)
  | '"' :: rest => (pieces? rest).map fun (ps, r) =>
      (.string ((Piece.chars? ps).map String.ofList), r)
  | cs => (number? cs).map fun (n, r) => (.number n, r)

theorem length_of_someDigits? {cs ds r : List Char} (h : someDigits? cs = some (ds, r)) :
    r.length < cs.length := by
  unfold someDigits? at h
  split at h
  · contradiction
  · rename_i hne
    obtain ⟨rfl, rfl⟩ := Prod.mk.inj (Option.some.inj h)
    cases cs with
    | nil => simp [digits] at hne
    | cons c cs =>
      have hc : c.isDigit = true := by
        cases hd : c.isDigit with
        | true => rfl
        | false => simp [digits, hd] at hne
      simp only [List.dropWhile_cons, hc, if_true, List.length_cons]
      exact Nat.lt_succ_of_le (List.dropWhile_suffix _).length_le

theorem length_of_whole? {cs ds r : List Char} (h : whole? cs = some (ds, r)) :
    r.length < cs.length := by
  unfold whole? at h
  split at h
  · obtain ⟨-, rfl⟩ := Prod.mk.inj (Option.some.inj h)
    exact Nat.lt_succ_self _
  · exact length_of_someDigits? h

theorem length_of_fraction? {cs ds r : List Char} (h : fraction? cs = some (ds, r)) :
    r.length ≤ cs.length := by
  unfold fraction? at h
  split at h
  · exact Nat.le_of_lt (Nat.lt_succ_of_lt (length_of_someDigits? h))
  · obtain ⟨-, rfl⟩ := Prod.mk.inj (Option.some.inj h)
    exact Nat.le_refl _

theorem length_minus_le (cs : List Char) : (minus cs).2.length ≤ cs.length := by
  unfold minus
  split
  · exact Nat.le_succ _
  · exact Nat.le_refl _

theorem length_exponentSign_le (cs : List Char) : (exponentSign cs).2.length ≤ cs.length := by
  unfold exponentSign
  split
  · exact Nat.le_succ _
  · exact length_minus_le _

theorem length_of_exponent? {cs r : List Char} {e : Option Exponent}
    (h : exponent? cs = some (e, r)) : r.length ≤ cs.length := by
  cases cs with
  | nil =>
    obtain ⟨-, rfl⟩ := Prod.mk.inj (Option.some.inj h)
    exact Nat.le_refl _
  | cons c cs =>
    rw [exponent?] at h
    split at h
    · obtain ⟨⟨ds, r'⟩, hd, he⟩ := Option.map_eq_some_iff.1 h
      obtain ⟨-, rfl⟩ := Prod.mk.inj he
      have h1 := length_of_someDigits? hd
      have h2 := length_exponentSign_le cs
      simp only [List.length_cons]
      omega
    · obtain ⟨-, rfl⟩ := Prod.mk.inj (Option.some.inj h)
      exact Nat.le_refl _

theorem length_of_number? {cs r : List Char} {n : Number} (h : number? cs = some (n, r)) :
    r.length < cs.length := by
  simp only [number?, Option.bind_eq_bind, Option.bind_eq_some_iff, Prod.exists] at h
  obtain ⟨whole, r1, h1, fraction, r2, h2, exponent, r3, h3, h4⟩ := h
  obtain ⟨-, rfl⟩ := Prod.mk.inj (Option.some.inj h4)
  have h0 := length_minus_le cs
  have h1 := length_of_whole? h1
  have h2 := length_of_fraction? h2
  have h3 := length_of_exponent? h3
  omega

theorem length_of_pieces? {cs r : List Char} {ps : List Piece} (h : pieces? cs = some (ps, r)) :
    r.length < cs.length := by
  fun_induction pieces? cs generalizing ps r with
  | case1 => contradiction
  | case2 rest =>
    obtain ⟨-, rfl⟩ := Prod.mk.inj (Option.some.inj h)
    exact Nat.lt_succ_self _
  | case3 a b c d rest p ps' r' hp hu ih =>
    obtain ⟨-, rfl⟩ := Prod.mk.inj (Option.some.inj h)
    have := ih hp
    simp only [List.length_cons]
    omega
  | case4 => contradiction
  | case5 e rest _ c ps' r' hp he ih =>
    obtain ⟨-, rfl⟩ := Prod.mk.inj (Option.some.inj h)
    have := ih hp
    simp only [List.length_cons]
    omega
  | case6 => contradiction
  | case7 => contradiction
  | case8 c rest _ _ _ hc ih =>
    obtain ⟨⟨ps', r'⟩, hp, he⟩ := Option.map_eq_some_iff.1 h
    obtain ⟨-, rfl⟩ := Prod.mk.inj he
    have := ih hp
    simp only [List.length_cons]
    omega

theorem length_of_first? {cs r : List Char} {t : Lexeme} (h : first? cs = some (t, r)) :
    r.length < cs.length := by
  unfold first? at h
  split at h
  case h_1 => contradiction
  case h_11 rest =>
    obtain ⟨⟨ps, r'⟩, hp, he⟩ := Option.map_eq_some_iff.1 h
    obtain ⟨-, rfl⟩ := Prod.mk.inj he
    exact Nat.lt_succ_of_lt (length_of_pieces? hp)
  case h_12 =>
    obtain ⟨⟨n, r'⟩, hn, he⟩ := Option.map_eq_some_iff.1 h
    obtain ⟨-, rfl⟩ := Prod.mk.inj he
    exact length_of_number? hn
  all_goals
    obtain ⟨-, rfl⟩ := Prod.mk.inj (Option.some.inj h)
    simp only [List.length_cons]
    omega

def scan? : List Char → Option (List Lexeme)
  | [] => some []
  | c :: cs =>
    if isSpace c then scan? cs
    else match h : first? (c :: cs) with
      | none => none
      | some (t, rest) =>
        have := length_of_first? h
        (scan? rest).map (t :: ·)
termination_by cs => cs.length
decreasing_by
  · exact Nat.lt_succ_self _
  · exact this

end Lexeme

end SellProbe.Json
