import SellProbe.Json.Lexeme

/-!
# Reading JSON

A value is read from its lexemes with an explicit stack of the arrays and objects that are still
open, so nesting has no limit. `Json.parse?` accepts the texts of JSON and nothing else: one value,
with blanks around its lexemes.
-/

namespace SellProbe.Json

/-- An open array or object with what it holds so far, last first. An open object waits for the
value of its key. -/
inductive Frame
  | array (done : List Json)
  | object (done : List (Text × Json)) (key : Text)

inductive Expect
  /-- The value, or the end of the array that has just been opened. -/
  | firstElement
  | value
  /-- A key, or the end of the object that has just been opened. -/
  | firstKey
  | key (done : List (Text × Json))
  | colon (done : List (Text × Json)) (key : Text)
  /-- A comma or a closing bracket; at the outermost level, the end. -/
  | next (v : Json)

structure Position where
  expect : Expect
  frames : List Frame

namespace Position

def start : Position := ⟨.value, []⟩

def value? (frames : List Frame) : Lexeme → Option Position
  | .null => some ⟨.next .null, frames⟩
  | .bool b => some ⟨.next (.bool b), frames⟩
  | .number n => some ⟨.next (.number n), frames⟩
  | .string s => some ⟨.next (.string s), frames⟩
  | .openBracket => some ⟨.firstElement, .array [] :: frames⟩
  | .openBrace => some ⟨.firstKey, frames⟩
  | _ => none

def next? (v : Json) : List Frame → Lexeme → Option Position
  | .array done :: frames, .comma => some ⟨.value, .array (v :: done) :: frames⟩
  | .array done :: frames, .closeBracket => some ⟨.next (.array (v :: done).reverse), frames⟩
  | .object done key :: frames, .comma => some ⟨.key ((key, v) :: done), frames⟩
  | .object done key :: frames, .closeBrace =>
    some ⟨.next (.object ((key, v) :: done).reverse), frames⟩
  | _, _ => none

/-- The point behind one more lexeme. -/
def step? (p : Position) (t : Lexeme) : Option Position :=
  match p.expect, t with
  | .firstElement, .closeBracket =>
    match p.frames with
    | .array done :: frames => some ⟨.next (.array done.reverse), frames⟩
    | _ => none
  | .firstElement, t => value? p.frames t
  | .value, t => value? p.frames t
  | .firstKey, .closeBrace => some ⟨.next (.object []), p.frames⟩
  | .firstKey, .string s => some ⟨.colon [] s, p.frames⟩
  | .key done, .string s => some ⟨.colon done s, p.frames⟩
  | .colon done key, .colon => some ⟨.value, .object done key :: p.frames⟩
  | .next v, t => next? v p.frames t
  | _, _ => none

/-- The value, if nothing is missing. -/
def result? (p : Position) : Option Json :=
  match p.expect, p.frames with
  | .next v, [] => some v
  | _, _ => none

end Position

def ofLexemes? (ts : List Lexeme) : Option Json :=
  (ts.foldlM Position.step? Position.start).bind Position.result?

def parse? (s : String) : Option Json := (Lexeme.scan? s.toList).bind ofLexemes?

end SellProbe.Json
