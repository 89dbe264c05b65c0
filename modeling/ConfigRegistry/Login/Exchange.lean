import ConfigRegistry.Login.Code
import ConfigRegistry.Login.Parameters
import ConfigRegistry.Login.Redirect
import ConfigRegistry.Token.Ledger

/-!
The second request of a login: a client hands in the code and the verifier that answers the
challenge in it, and gets a token of the user in the code. Nothing else issues tokens.
-/
namespace ConfigRegistry.Login

def grantTypeCode : String := "authorization_code"
def tokenDescription : String := "terraform login"

/-- What an exchange comes to. -/
structure Outcome where
  response : Http.Response
  tokens : Ledger
  events : List Log.Event

def granted (token : String) : Http.Response :=
  (Http.Response.json 200
    (.object [("access_token", .string token), ("token_type", .string "bearer")])).set
    "cache-control" "no-store"

/-- The payload of a code that is still good for a verifier; otherwise the answer. -/
def checkCode (secret : List UInt8) (r : TokenRequest) (redirect : Redirect)
    (now : Time.Instant) : Except (Http.Response × List Log.Event) Payload :=
  if r.code.isEmpty then .error (redirect.fault .invalidRequest (some "missing code"), [])
  else if r.verifier.isEmpty then
    .error (redirect.fault .invalidRequest (some "missing code verifier"), [])
  else if r.grantType ≠ grantTypeCode then .error (redirect.fault .unsupportedGrantType none, [])
  else
    match Code.openPayload secret r.code with
    | .error _ =>
      .error (redirect.fault .invalidRequest (some "invalid authorization code"),
        [⟨.info, "Rejected authorization code"⟩])
    | .ok payload =>
      if payload.isExpired now then
        .error (redirect.fault .invalidGrant (some "authorization code expired"), [])
      else if challengeOf r.verifier ≠ payload.challenge then
        .error (redirect.fault .invalidGrant (some "invalid code verifier"),
          [⟨.info, "PKCE verification failed"⟩])
      else .ok payload

def exchange (secret : List UInt8) (tokens : Ledger) (outage : Option Failure) (p : Parameters)
    (draws : Ledger.Draws) (now : Time.Instant) : Outcome :=
  let r := TokenRequest.ofParameters p
  match Redirect.make r.clientId r.redirectUri "" with
  | .error response => ⟨response, tokens, []⟩
  | .ok redirect =>
    match checkCode secret r redirect now with
    | .error (response, events) => ⟨response, tokens, events⟩
    | .ok payload =>
      match tokens.issue outage payload.username tokenDescription draws now with
      | .error _ =>
        ⟨redirect.fault .serverError none, tokens, [⟨.error, "Failed to create API token"⟩]⟩
      | .ok (token, tokens) =>
        ⟨granted token, tokens,
          [Ledger.issued, ⟨.info, "Exchanged authorization code for API token"⟩]⟩

end ConfigRegistry.Login
