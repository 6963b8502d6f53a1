import SellProbe.Json.Printer
import SellProbe.Json.Reader
import SellProbe.Network.Environment
import SellProbe.Network.Profile
import SellProbe.Text.Upper

/-!
# The registry of networks

Profiles by name. A registry comes from the built-in table, from a JSON list of profiles, or from
its own record, and its RPC addresses can be overridden afterwards, from a table or from the
environment. A network without an RPC address is known but cannot be used.
-/

namespace SellProbe

structure Registry where
  networks : Directory Profile

namespace Registry

inductive LookupError
  | unknown (name : String)
  | withoutRpc (name : String)
deriving DecidableEq

inductive LoadError
  | badProfiles
  | unreadableFile
deriving DecidableEq

def LookupError.detail : LookupError → String
  | .unknown name => "rede " ++ name
  | .withoutRpc name => "rede " ++ name ++ " sem rpc configurado"

def LookupError.message : LookupError → String
  | e@(.unknown _) => "Não encontrado: " ++ e.detail
  | e@(.withoutRpc _) => "Erro de configuração: " ++ e.detail

/-- The registry of a list of profiles, of which the last with a name wins. -/
def ofProfiles (ps : List Profile) : Registry :=
  ⟨Directory.ofList (ps.map fun p => (p.name, p))⟩

/-- A built-in profile, which has no RPC address. -/
def builtinProfile (name : String) (chainId : UInt64) (wrappedNative router factory : Nat) :
    Profile where
  name
  chainId
  rpc := ""
  wrappedNative := FixedBytes.ofNat 20 wrappedNative
  router := FixedBytes.ofNat 20 router
  factory := FixedBytes.ofNat 20 factory
  burnAddresses := Profile.usualBurnAddresses
  lockers := Directory.empty

def builtin : Registry :=
  ofProfiles [
    builtinProfile "ethereum" 1
      0xc02aaa39b223fe8d0a0e5c4f27ead9083c756cc2
      0x7a250d5630b4cf539739df2c5dacb4c659f2488d
      0x5c69bee701ef814a2b6a3edd4b1652cb9cc5aa6f,
    builtinProfile "bsc" 56
      0xbb4cdb9cbd36b01bd1cbaebf2de08d9173bc095c
      0x10ed43c718714eb63d5aa57b78b54704e256024e
      0xca143ce32fe78f1f7019d7d551a6402fc5350c73,
    builtinProfile "base" 8453
      0x4200000000000000000000000000000000000006
      0x327df1e6de05895d2ab08513aadd9313fe505d86
      0xfda619b6d20975be80a10332cd39b9a4b0faa8bb,
    builtinProfile "avalanche" 43114
      0xb31f66aa3c1e785363f0875a1b74e27b85fd66c7
      0x60ae616a2155ee3d9a68541ba4544862310933d4
      0x9ad6c38be94206ca50bb0d90783181662f0cfa10,
    builtinProfile "fantom" 250
      0x21be370d5312f44cb42ce377bc9b8a0cef1a4c83
      0xf491e7b69e4244ad4002bc14e878a34207e38c29
      0x152ee697f2e276fa89e96742e9bb9ab1f2e61be3]

/-- The registry of a JSON list of profiles. -/
def load (text : String) : Except LoadError Registry :=
  match (Json.parse? text).bind (Json.list? Profile.ofJson?) with
  | some ps => .ok (ofProfiles ps)
  | none => .error .badProfiles

/-- The registry of a file that holds such a list, in UTF-8. There may be no such file. -/
def loadFile (content : Option Bytes) : Except LoadError Registry :=
  match content.bind Utf8.decode? with
  | some text => load text
  | none => .error .unreadableFile

def toJson (r : Registry) : Json :=
  .record [("networks", .record (r.networks.entries.map fun (n, p) => (n, p.toJson)))]

/-- Reads the record of a registry. A profile stays under the key it is written under. -/
def ofJson? (j : Json) : Option Registry := do
  let [networks] ← j.fields? ["networks"] | none
  return ⟨Directory.ofList (← Json.required? (Json.members? Profile.ofJson?) networks)⟩

/-- The registry with the RPC addresses that `lookup` finds for its names. -/
def overrideRpc (r : Registry) (lookup : String → Option String) : Registry :=
  ⟨r.networks.mapWithName fun name p =>
    match lookup name with
    | some rpc => { p with rpc }
    | none => p⟩

def rpcVariable (name : String) : String := "HONEYPOT_RPC_" ++ Upper.ofString name

def overrideFromEnvironment (r : Registry) (env : Environment) : Registry :=
  r.overrideRpc fun name => env.lookup (rpcVariable name)

def get (r : Registry) (name : String) : Except LookupError Profile :=
  match r.networks.get? name with
  | none => .error (.unknown name)
  | some p => if p.rpc.isEmpty then .error (.withoutRpc name) else .ok p

def names (r : Registry) : List String := r.networks.names

end Registry

end SellProbe
