import SellProbe.Text.Shown

/-!
# Quoted text

A text between two equal marks, such that it can be told where it ends and what it is: the mark
itself and the backslash stand behind a backslash, a few controls have a letter, and any other
character that cannot be shown is written by its number.
-/

namespace SellProbe.Text

def controlLetter? (c : Char) : Option Char :=
  if c = '\x00' then some '0'
  else if c = '\t' then some 't'
  else if c = '\n' then some 'n'
  else if c = '\r' then some 'r'
  else none

/-- A character between two marks. -/
def escape (mark c : Char) : List Char :=
  match controlLetter? c with
  | some letter => ['\\', letter]
  | none =>
    if c = mark ∨ c = '\\' then ['\\', c]
    else if isShown c then [c]
    else ['\\', 'u', '\x7b'] ++ Nat.toDigits 16 c.toNat ++ ['\x7d']

def quoted (mark : Char) (cs : List Char) : List Char :=
  mark :: cs.flatMap (escape mark) ++ [mark]

end SellProbe.Text
