/-!
# Searching a text

The first place in a text where one of several patterns stands.
-/

namespace SellProbe.Text

/-- The text from the first place where one of the patterns starts. -/
def fromFirst? (patterns : List (List Char)) : List Char → Option (List Char)
  | [] => if patterns.any (·.isPrefixOf []) then some [] else none
  | c :: cs =>
    if patterns.any (·.isPrefixOf (c :: cs)) then some (c :: cs) else fromFirst? patterns cs

def occurs (pattern cs : List Char) : Bool := (fromFirst? [pattern] cs).isSome

/-- The text behind the first `c`, if there is one. -/
def after? (c : Char) : List Char → Option (List Char)
  | [] => none
  | d :: cs => if d = c then some cs else after? c cs

end SellProbe.Text
