import ConfigRegistry.Coding.Hex
import ConfigRegistry.Coding.Utf8
import ConfigRegistry.Url.Address
import ConfigRegistry.Url.Domain

/-!
Hosts of URLs, and the faults of URLs. Where a scheme knows about hosts they are domains or
addresses in their plain form; elsewhere any text will do that holds no separators.
-/
namespace ConfigRegistry.Url

/-- Why a text is no URL. -/
inductive Fault where
  | relative
  | emptyHost
  | domain
  | port
  | shortAddress
  | longAddress
  | hostCharacter
deriving DecidableEq, Repr

def Fault.message : Fault → String
  | .relative => "relative URL without a base"
  | .emptyHost => "empty host"
  | .domain => "invalid international domain name"
  | .port => "invalid port number"
  | .shortAddress => "invalid IPv4 address"
  | .longAddress => "invalid IPv6 address"
  | .hostCharacter => "invalid domain character"

inductive Host where
  | name (s : String)
  | short (n : Nat)
  | long (pieces : List Nat)
deriving DecidableEq, Repr

/-- Text in which the characters that are not kept are escaped byte by byte; the rule is about
plain characters, and all others are escaped. -/
def escaped (keep : Char → Bool) (l : List Char) : String :=
  let byte := fun (b : UInt8) => b < 0x80 && keep (Char.ofNat b.toNat)
  String.ofList ((Coding.Percent.encode byte (Coding.Utf8.encode (String.ofList l))).map
    fun b => Char.ofNat b.toNat)

/-- Neither a control character nor outside the plain alphabet. -/
def isVisible (c : Char) : Bool := ' ' ≤ c && c ≤ '~'

namespace Host

def render : Host → String
  | .name s => s
  | .short n => ShortAddress.render n
  | .long pieces => "[" ++ LongAddress.render pieces ++ "]"

def isEmpty : Host → Bool
  | .name s => s.isEmpty
  | _ => false

def bracketed (l : List Char) : Except Fault Host :=
  if l.getLast? ≠ some ']' then .error .longAddress
  else
    match LongAddress.parse? l.dropLast with
    | some pieces => .ok (.long pieces)
    | none => .error .longAddress

def parse (l : List Char) : Except Fault Host :=
  match l with
  | '[' :: rest => bracketed rest
  | _ =>
    match (Coding.Utf8.decode? (Coding.Percent.decode (Coding.Utf8.encode (String.ofList l)))).bind
        Domain.toPlain? with
    | none => .error .domain
    | some [] => .error .emptyHost
    | some domain =>
      if ShortAddress.isMeant domain then
        match ShortAddress.parse? domain with
        | some n => .ok (.short n)
        | none => .error .shortAddress
      else .ok (.name (String.ofList domain))

def isSeparator (c : Char) : Bool := c == '\x00' || c ∈ " \t\n\x0d#/:<>?@[\\]^|".toList

def parseOpaque (l : List Char) : Except Fault Host :=
  match l with
  | '[' :: rest => bracketed rest
  | _ =>
    if l.any isSeparator then .error .hostCharacter else .ok (.name (escaped isVisible l))

end Host

end ConfigRegistry.Url
