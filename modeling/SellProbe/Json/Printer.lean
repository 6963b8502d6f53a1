import SellProbe.Json.Lexeme

/-!
# Writing JSON

A value is written lexeme by lexeme, without blanks.
-/

namespace SellProbe.Json

namespace Lexeme

def hexChar (n : Nat) : Char := Hex.digitChar (n % 16)

/-- A character inside quotes: quotes, backslashes and controls are escaped. -/
def quoteChar (c : Char) : List Char :=
  if c = '"' then ['\\', '"']
  else if c = '\\' then ['\\', '\\']
  else if c = '\x08' then ['\\', 'b']
  else if c = '\x0c' then ['\\', 'f']
  else if c = '\n' then ['\\', 'n']
  else if c = '\r' then ['\\', 'r']
  else if c = '\t' then ['\\', 't']
  else if c.toNat < 0x20 then
    ['\\', 'u', '0', '0', hexChar (c.toNat / 16), hexChar c.toNat]
  else [c]

/-- A string in quotes; one without a text is written as a lone half of a surrogate pair. -/
def quote : Text → List Char
  | some s => '"' :: s.toList.flatMap quoteChar ++ ['"']
  | none => ['"', '\\', 'u', 'd', '8', '0', '0', '"']

def writeNumber (n : Number) : List Char :=
  (if n.negative then ['-'] else []) ++ n.whole
    ++ (if n.fraction.isEmpty then [] else '.' :: n.fraction)
    ++ match n.exponent with
      | none => []
      | some e => 'e' :: (if e.negative then ['-'] else []) ++ e.digits

def write : Lexeme → List Char
  | .openBracket => ['[']
  | .closeBracket => [']']
  | .openBrace => ['\x7b']
  | .closeBrace => ['\x7d']
  | .comma => [',']
  | .colon => [':']
  | .null => ['n', 'u', 'l', 'l']
  | .bool true => ['t', 'r', 'u', 'e']
  | .bool false => ['f', 'a', 'l', 's', 'e']
  | .number n => writeNumber n
  | .string s => quote s

end Lexeme

mutual

def lexemes : Json → List Lexeme
  | .null => [.null]
  | .bool b => [.bool b]
  | .number n => [.number n]
  | .string s => [.string s]
  | .array xs => .openBracket :: elementLexemes xs
  | .object members => .openBrace :: memberLexemes members

/-- The lexemes of the elements of an array, up to its closing bracket. -/
def elementLexemes : List Json → List Lexeme
  | [] => [.closeBracket]
  | [x] => lexemes x ++ [.closeBracket]
  | x :: y :: xs => lexemes x ++ .comma :: elementLexemes (y :: xs)

/-- The lexemes of the members of an object, up to its closing brace. -/
def memberLexemes : List (Text × Json) → List Lexeme
  | [] => [.closeBrace]
  | [(k, v)] => .string k :: .colon :: lexemes v ++ [.closeBrace]
  | (k, v) :: m :: ms => .string k :: .colon :: lexemes v ++ .comma :: memberLexemes (m :: ms)

end

def print (j : Json) : String := String.ofList (j.lexemes.flatMap Lexeme.write)

end SellProbe.Json
