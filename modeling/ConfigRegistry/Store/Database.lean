import ConfigRegistry.Store.Outage
import ConfigRegistry.Text.Printable
import ConfigRegistry.Url.Basic

/-!
Addresses of databases, and what comes of connecting where none answers. An address is a URL with
optional parameters; it is refused before anything is connected if it is no URL, or if a part of it
is no text, no number or no known word.
-/
namespace ConfigRegistry.Store

/-! A database that cannot be reached. What needs a transaction fails when it begins one; everything
else fails when it connects. -/

namespace Unreachable

def fault : DatabaseFault := .io "No such file or directory (os error 2)"

def query : Failure := .database fault

def transaction : Failure := .unexpected ("Failed to begin database transaction" :: fault.causes)

def failure : Access → Failure
  | .create | .transition => transaction
  | _ => query

def accesses : List Access := [.create, .get, .latest, .list, .delete, .transition, .health]

def outages : List (Access × Outage) := accesses.map fun a => (a, .fail (failure a))

end Unreachable

/-! Addresses. -/

namespace Database

def securityModes : List String :=
  ["disable", "allow", "prefer", "require", "verify-ca", "verify-full"]

def decoded (s : String) : List UInt8 := Coding.Percent.decode (Coding.Utf8.encode s)

def textFault? (s : String) : Option String := (Coding.Utf8.fault? (decoded s)).map (·.message)

def numberFault? (bound : Nat) (s : String) : Option String :=
  match Text.Decimal.natural bound s with
  | .ok _ => none
  | .error fault => some fault.message

def isHostAddress (s : String) : Bool :=
  (Url.ShortAddress.plain? s.toList).isSome || (Url.LongAddress.parse? s.toList).isSome

/-- Why a parameter is refused, outermost first. -/
def parameterFault? (name value : String) : Option (List String) :=
  if name = "sslmode" ∨ name = "ssl-mode" then
    if value.toLower ∈ securityModes then none
    else
      some (DatabaseFault.configuration
        ["unknown value " ++ Text.Quoted.encode value ++ " for \x60ssl_mode\x60"]).causes
  else if name = "port" then (numberFault? Text.Decimal.maxU16 value).map ([·])
  else if name = "statement-cache-capacity" then
    (numberFault? Text.Decimal.maxU64 value).map ([·])
  else if name = "hostaddr" ∧ !isHostAddress value then some ["invalid IP address syntax"]
  else none

/-- A path without the slashes at its start. -/
def databaseName (path : String) : String := String.ofList (path.toList.dropWhile (· == '/'))

def textParts (u : Url) : List String :=
  match u.authority with
  | none => [databaseName u.path]
  | some a =>
    let host := (a.host.map Url.Host.render).getD ""
    (if (decoded host).head? = some 0x2f then [host] else []) ++
      [a.username, a.password, databaseName u.path]

def addressFault? (address : String) : Option DatabaseFault :=
  match Url.parse address with
  | .error fault => some (.configuration [fault.message])
  | .ok u =>
    let pairs := Coding.Form.decode (Coding.Utf8.encode (u.query.getD ""))
    ((((textParts u).findSome? textFault?).map ([·])).or
      (pairs.findSome? fun (name, value) => parameterFault? name value)).map .configuration

def connect (address : String) : DatabaseFault := (addressFault? address).getD Unreachable.fault

end Database

end ConfigRegistry.Store
