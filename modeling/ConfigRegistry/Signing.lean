import ConfigRegistry.Coding.Base64
import ConfigRegistry.Secret
import ConfigRegistry.Text.Decimal

/-!
Paths that are valid until a given second. A signed path carries the authentication code of its
inner path and its expiry, and that expiry; changing either makes it invalid. Only the canonical
spelling of an expiry is accepted, so that there is one message for every code.
-/
namespace ConfigRegistry.Signing

/-- The first segment of signed paths. -/
def root : List Char := "/signed".toList

inductive Fault where
  | malformed
  | expired
  | invalid
deriving DecidableEq, Repr

def Fault.kind : Fault → String
  | .malformed => "Malformed"
  | .expired => "Expired"
  | .invalid => "Invalid"

def Fault.message : Fault → String
  | .malformed => "malformed signature"
  | .expired => "signature expired"
  | .invalid => "invalid signature"

structure Signer where
  key : List UInt8
deriving DecidableEq

def Signer.ofSecret (secret : List UInt8) : Signer :=
  ⟨Secret.deriveKey secret Secret.signedUrlPurpose⟩

def Signer.show (_ : Signer) : String := "UrlSigner \x7b .. \x7d"

/-- The bytes that are authenticated: the path, a dot and the expiry. -/
def message (path : String) (expiry : Int) : List UInt8 :=
  Coding.Utf8.encode path ++ 0x2e :: Coding.Utf8.encode (toString expiry)

def Signer.code (s : Signer) (path : String) (expiry : Int) : List UInt8 :=
  Digest.Hmac.mac s.key (message path expiry)

def Signer.segment (s : Signer) (path : String) (expiry : Int) : String :=
  Coding.Base64.encode Coding.Base64.urlSafe (s.code path expiry) ++ "." ++ toString expiry

def Signer.sign (s : Signer) (path : String) (expiry : Int) : String :=
  String.ofList root ++ "/" ++ s.segment path expiry ++ path

def expiryAfter (now : Int) (seconds : Nat) : Int :=
  if seconds ≤ Text.Decimal.maxI64 ∧ now + seconds ≤ Text.Decimal.maxI64 then now + seconds
  else Text.Decimal.maxI64

/-- The number that a canonical text of digits stands for. -/
def expiry? (s : List Char) : Option Nat :=
  if s.isEmpty then none
  else
    match Text.Decimal.readDigits Text.Decimal.maxI64 0 s with
    | .ok n => if (toString n).toList = s then some n else none
    | .error _ => none

def Signer.verify (s : Signer) (segment : List Char) (path : String) (now : Int) :
    Except Fault Unit :=
  if '.' ∉ segment then .error .malformed
  else
    match expiry? ((segment.dropWhile (· != '.')).drop 1),
        Coding.Base64.decode Coding.Base64.urlSafe
          (String.ofList (segment.takeWhile (· != '.'))) with
    | some expiry, some code =>
      if code ≠ s.code path expiry then .error .invalid
      else if (expiry : Int) < now then .error .expired
      else .ok ()
    | _, _ => .error .malformed

def behind? : List Char → List Char → Option (List Char)
  | [], rest => some rest
  | _ :: _, [] => none
  | c :: cs, d :: ds => if c = d then behind? cs ds else none

def split? (path : List Char) : Option (List Char × List Char) := do
  let rest ← behind? (root ++ ['/']) path
  let segment := rest.takeWhile (· != '/')
  if segment.isEmpty ∨ '/' ∉ rest then none
  else some (segment, rest.dropWhile (· != '/'))

end ConfigRegistry.Signing
