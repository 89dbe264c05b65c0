import ConfigRegistry.Coding.Utf8
import ConfigRegistry.Text.Blank
import ConfigRegistry.Text.Decimal
import ConfigRegistry.Text.Split

/-!
Header fields of requests and answers. Names are kept in small letters; values are bytes, and count
as text only if all of them are visible characters, spaces or tabs.
-/
namespace ConfigRegistry.Http

abbrev Headers := List (String × List UInt8)

namespace Headers

def get? (h : Headers) (name : String) : Option (List UInt8) := h.lookup name

def isTextByte (b : UInt8) : Bool := (0x20 ≤ b && b < 0x7f) || b == 0x09

/-- The first value of a field, if it is text. -/
def text? (h : Headers) (name : String) : Option String :=
  match h.get? name with
  | some value =>
    if value.all isTextByte then some (String.ofList (value.map fun b => Char.ofNat b.toNat))
    else none
  | none => none

/-- The first value of a field, if it is a number of 64 bits. -/
def number? (h : Headers) (name : String) : Option Nat :=
  (h.text? name).bind fun s => (Text.Decimal.natural Text.Decimal.maxU64 s).toOption

def set (h : Headers) (name value : String) : Headers :=
  h.filter (·.1 != name) ++ [(name, Coding.Utf8.encode value)]

def setDefault (h : Headers) (name value : String) : Headers :=
  if (h.get? name).isSome then h else h.set name value

end Headers

def isNameChar (c : Char) : Bool := c.isAlphanum || c ∈ "!#$%&'*+-.^_\x60|~".toList

def fieldName? (s : String) : Option String :=
  if !s.isEmpty && s.toList.all isNameChar then some s.toLower else none

/-- The address of a resource of this server as a client sees it: with the scheme that a proxy
names, if it is one of two, and the host that the client addressed. -/
def absoluteUrl (h : Headers) (path : String) : String :=
  let proto := (h.text? "x-forwarded-proto").map fun s => Text.trim ((Text.split ',' s).headD "")
  let scheme := if proto = some "https" then "https" else "http"
  scheme ++ "://" ++ (h.text? "host").getD "localhost" ++ path

end ConfigRegistry.Http
