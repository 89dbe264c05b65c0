import ConfigRegistry.Cipher.Gcm
import ConfigRegistry.Coding.Base64
import ConfigRegistry.Json.Record
import ConfigRegistry.Secret
import ConfigRegistry.Time.Instant

/-!
Authorization codes. A code is a sealed payload: it holds the whole login between its two requests,
can be neither read nor made without the secret, and is valid up to a given second.
-/
namespace ConfigRegistry.Login

/-- What a code holds. -/
structure Payload where
  challenge : String
  method : String
  username : String
  expiresAt : Int
deriving DecidableEq, Repr

namespace Payload

open Json

def toJson (p : Payload) : Value :=
  .object [("code_challenge", .string p.challenge), ("code_challenge_method", .string p.method),
    ("username", .string p.username), ("expires_at", .integer p.expiresAt)]

def read : Read Payload := do
  let (challenge, method, username, expiresAt, ()) ← Fields.record "AuthorizationCodePayload" <|
    .cons (.required "code_challenge" Read.text) <|
    .cons (.required "code_challenge_method" Read.text) <|
    .cons (.required "username" Read.text) <|
    .cons (.required "expires_at" Read.integer) .nil
  return ⟨challenge, method, username, expiresAt⟩

def isExpired (p : Payload) (now : Time.Instant) : Bool := p.expiresAt < now.seconds

end Payload

/-- Why a code does not open. -/
inductive CodeFault where
  | malformed
  | integrity
  | payload (problem : Json.Problem)
deriving DecidableEq, Repr

namespace CodeFault

def kind : CodeFault → String
  | .malformed => "Malformed"
  | .integrity => "Integrity"
  | .payload _ => "Payload"

def message : CodeFault → String
  | .malformed => "malformed code"
  | .integrity => "code failed integrity check"
  | .payload problem => "invalid code payload: " ++ problem.message

end CodeFault

namespace Code

def nonceLength : Nat := 12
def tagLength : Nat := 16

def key (secret : List UInt8) : List UInt8 := Secret.deriveKey secret Secret.authCodePurpose

def ofBytes (secret nonce bytes : List UInt8) : String :=
  Coding.Base64.encode Coding.Base64.urlSafe (nonce ++ Cipher.Gcm.encrypt (key secret) nonce bytes)

def bytes (secret : List UInt8) (code : String) : Except CodeFault (List UInt8) :=
  match Coding.Base64.decode Coding.Base64.urlSafe code with
  | none => .error .malformed
  | some combined =>
    if combined.length < nonceLength + tagLength then .error .malformed
    else
      match Cipher.Gcm.decrypt? (key secret) (combined.take nonceLength)
          (combined.drop nonceLength) with
      | none => .error .integrity
      | some plain => .ok plain

def ofPayload (secret nonce : List UInt8) (p : Payload) : String :=
  ofBytes secret nonce (Coding.Utf8.encode p.toJson.render)

def openWith {α : Type} (read : Json.Read α) (secret : List UInt8) (code : String) :
    Except CodeFault α := do
  let plain ← bytes secret code
  (read.all plain).mapError .payload

def openPayload (secret : List UInt8) (code : String) : Except CodeFault Payload :=
  openWith Payload.read secret code

def openValue (secret : List UInt8) (code : String) : Except CodeFault Json.Value :=
  (openWith (Json.readValue Json.maxDepth) secret code).map Json.Value.canonical

end Code

def challengeOf (verifier : String) : String :=
  Coding.Base64.encode Coding.Base64.urlSafe (Digest.Sha256.digest (Coding.Utf8.encode verifier))

end ConfigRegistry.Login
