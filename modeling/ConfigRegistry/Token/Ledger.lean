import ConfigRegistry.Token.Basic

/-!
The records of all tokens, the oldest first, and what is done with them: issuing a token to a user,
and finding the record of a token that somebody presents.
-/
namespace ConfigRegistry

abbrev Ledger := List Token

namespace Ledger

def byPrefix (l : Ledger) (lookup : String) : List Token := l.filter (·.tokenPrefix == lookup)

/-- The random parts of a new token and of its record. -/
structure Draws where
  token : List UInt8
  salt : List UInt8
  id : Uuid

def issued : Log.Event := ⟨.info, "Issued user token"⟩

/-- Issues a token to a user. Only here is the token itself known. -/
def issue (l : Ledger) (outage : Option Failure) (username description : String) (d : Draws)
    (now : Time.Instant) : Except Failure (String × Ledger) :=
  match outage with
  | some f => .error f
  | none =>
    let token := Token.ofBytes d.token
    let draft : Token.Draft :=
      ⟨username, description, Token.lookupPrefix token, Token.hash token d.salt⟩
    .ok (token, l ++ [.ofDraft draft d.id now])

def authenticate (l : Ledger) (outage : Option Failure) (token : String) : Except Failure Token :=
  if !token.startsWith Token.mark then .error Token.invalid
  else
    match outage with
    | some f => .error f
    | none => Token.firstMatch token (l.byPrefix (Token.lookupPrefix token))

end Ledger

end ConfigRegistry
