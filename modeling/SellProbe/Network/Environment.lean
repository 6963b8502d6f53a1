import SellProbe.Directory

/-!
# The environment

The variables of a process, each held as one text: its name, a `=`, and its value. A look-up
compares with the start of these texts. So a name that holds a `=` itself can be found: it reaches
into the value of another variable, and `A=B` is `C` where `A` is `B=C`.
-/

namespace SellProbe

/-- The texts of all variables. -/
structure Environment where
  entries : List (List Char)

namespace Environment

def entry (name value : List Char) : List Char := name ++ '=' :: value

/-- The value that the text of a variable has for a name. -/
def value? (name text : List Char) : Option (List Char) :=
  let start := entry name []
  if start.isPrefixOf text then some (text.drop start.length) else none

/-- Whether a variable can be set: its name is not empty and holds no `=`, and there is no NUL. -/
def isSettable (name value : String) : Bool :=
  name ≠ "" && !name.toList.contains '=' && !(name.toList ++ value.toList).contains '\x00'

def ofDirectory? (d : Directory String) : Option Environment :=
  if d.entries.all fun (name, value) => isSettable name value then
    some ⟨d.entries.map fun (name, value) => entry name.toList value.toList⟩
  else none

/-- The value of a name in the first text that has one. -/
def lookup (env : Environment) (name : String) : Option String :=
  (env.entries.findSome? (value? name.toList)).map String.ofList

end Environment

end SellProbe
