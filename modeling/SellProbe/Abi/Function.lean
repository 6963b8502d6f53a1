import SellProbe.Abi.Codec
import SellProbe.Bytecode.Scan
import SellProbe.Text.Blank
import SellProbe.Text.Search

/-!
# Contract functions

A function is known by its name and its types. Its signature, the name with the argument types,
decides the selector that call data starts with.
-/

namespace SellProbe.Abi

inductive Kind
  | address
  | bool
  | string
  | uint (bits : Nat)
  | array (element : Kind)
deriving DecidableEq

def Kind.name : Kind → String
  | .address => "address"
  | .bool => "bool"
  | .string => "string"
  | .uint bits => "uint" ++ String.ofList (Nat.toDigits 10 bits)
  | .array element => element.name ++ "[]"

def tupleName (ks : List Kind) : String :=
  "(" ++ String.intercalate "," (ks.map Kind.name) ++ ")"

structure Function where
  name : String
  inputs : List Kind
  outputs : List Kind := []
deriving DecidableEq

namespace Function

/-- The text that the selector is the hash of. -/
def signature (f : Function) : String := f.name ++ tupleName f.inputs

/-- The signature with the results behind a colon, if there are any. -/
def signatureWithResults (f : Function) : String :=
  if f.outputs.isEmpty then f.signature else f.signature ++ ":" ++ tupleName f.outputs

/-- The first four bytes of a call. -/
def selector (f : Function) : Selector := Bytecode.selector f.signature

def callData (f : Function) (args : List Value) : Bytes := f.selector.toList ++ encode args

end Function

/-- The type with this name, arrays apart. A `uint` without a width has 256 bits. -/
def Kind.ofScalarName? (cs : List Char) : Option Kind :=
  match String.ofList cs with
  | "address" => some .address
  | "bool" => some .bool
  | "string" => some .string
  | "uint" => some (.uint 256)
  | _ =>
    if "uint".toList.isPrefixOf cs then
      let ds := cs.drop 4
      if ds.all Char.isDigit then some (.uint (Nat.ofDigitChars 10 ds 0)) else none
    else none

/-- The arrays of a type, one for each pair of brackets. -/
def Kind.nest? (k : Kind) : List Char → Option Kind
  | [] => some k
  | '[' :: ']' :: rest => Kind.nest? (.array k) rest
  | _ => none

def Kind.ofName? (cs : List Char) : Option Kind :=
  let scalar := cs.takeWhile (· != '[')
  (ofScalarName? scalar).bind fun k => k.nest? (cs.drop scalar.length)

def splitCommas (cs : List Char) : List (List Char) :=
  cs.foldr
    (fun c parts => if c = ',' then [] :: parts else match parts with
      | [] => [[c]]
      | p :: ps => (c :: p) :: ps)
    [[]]

/-- The types between an opening and a closing bracket, and the text behind them. -/
def kinds? (cs : List Char) : Option (List Kind × List Char) := do
  let body ← Text.after? '(' cs
  let inner := body.takeWhile (· != ')')
  let rest ← Text.after? ')' body
  if (Text.trim inner).isEmpty then return ([], rest)
  else return (← (splitCommas inner).mapM fun p => Kind.ofName? (Text.trim p), rest)

/-- Reads a declaration such as `balanceOf(address) view returns (uint256)`. -/
def Function.ofDeclaration? (s : String) : Option Function := do
  let cs := s.toList
  let name := String.ofList (Text.trim (cs.takeWhile (· != '(')))
  let (inputs, rest) ← kinds? cs
  match Text.fromFirst? ["returns".toList] rest with
  | none => return { name, inputs }
  | some results =>
    let (outputs, _) ← kinds? results
    return { name, inputs, outputs }

end SellProbe.Abi
