import ConfigRegistry.Digest.PasswordHash
import ConfigRegistry.Failure
import ConfigRegistry.Time.Rfc3339
import ConfigRegistry.Uuid
import ConfigRegistry.Version.Json

/-!
Tokens of users. Only the hash of a token is kept, beside its first characters, by which candidates
are found.
-/
namespace ConfigRegistry

namespace Token

def mark : String := "stx_"

def prefixLength : Nat := 16

def ofBytes (bytes : List UInt8) : String := mark ++ Coding.Hex.encode bytes

def lookupPrefix (token : String) : String := String.ofList (token.toList.take prefixLength)

def hash (token : String) (salt : List UInt8) : String :=
  (Digest.PasswordHash.create (Coding.Utf8.encode token) salt).render

/-- Whether a hash belongs to a token; a text that is no hash is a failure. -/
def verify (token hash : String) : Except Failure Bool :=
  match Digest.PasswordHash.parse hash with
  | .error fault => .error (.internal ("Invalid hash format: " ++ fault.message))
  | .ok h => .ok (h.verifies (Coding.Utf8.encode token))

def invalid : Failure := .unauthorized "Invalid token"

/-- What a creator of a record decides about it. -/
structure Draft where
  username : String
  description : String
  tokenPrefix : String
  tokenHash : String
deriving DecidableEq, Repr

end Token

structure Token where
  id : Uuid
  username : String
  description : String
  tokenPrefix : String
  tokenHash : String
  createdAt : Time.Instant
deriving DecidableEq, Repr

namespace Token

open Json

def ofDraft (d : Draft) (id : Uuid) (now : Time.Instant) : Token :=
  ⟨id, d.username, d.description, d.tokenPrefix, d.tokenHash, now⟩

def toJson (t : Token) : Value :=
  .object [("id", .string t.id.render), ("username", .string t.username),
    ("description", .string t.description), ("token_prefix", .string t.tokenPrefix),
    ("created_at", t.createdAt.toJson)]

def readId : Read Uuid :=
  Read.textBy "a UUID string" fun s =>
    (Uuid.parse s).mapError fun fault => "UUID parsing failed: " ++ fault.message

def read : Read Token := do
  let (id, username, description, tokenPrefix, tokenHash, createdAt, ()) ←
    Fields.record "UserToken" <|
      .cons (.required "id" readId) <|
      .cons (.required "username" Read.text) <|
      .cons (.required "description" Read.text) <|
      .cons (.required "token_prefix" Read.text) <|
      .cons (.required "token_hash" Read.text) <|
      .cons (.required "created_at" Time.Instant.read) .nil
  return ⟨id, username, description, tokenPrefix, tokenHash, createdAt⟩

def firstMatch (token : String) : List Token → Except Failure Token
  | [] => .error invalid
  | t :: rest => do
    if ← verify token t.tokenHash then return t else firstMatch token rest

end Token

end ConfigRegistry
