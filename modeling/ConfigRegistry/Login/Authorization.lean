import ConfigRegistry.Login.Code
import ConfigRegistry.Login.Consent
import ConfigRegistry.Login.Redirect
import ConfigRegistry.Settings.Basic

/-!
The first request of a login: a client sends a user here, the user consents, and a code goes back
to the client. A request that asks for the page is shown it; every other one counts as an answer.
-/
namespace ConfigRegistry.Login

def responseTypeCode : String := "code"
def challengeMethodS256 : String := "S256"

/-- Who makes a request, how and when, and the random part of a code. -/
structure Visit where
  method : String
  username : Option String
  now : Time.Instant
  nonce : List UInt8

def issueCode (s : Settings) (v : Visit) (r : AuthorizationRequest) (redirect : Redirect)
    (username : String) : Http.Response × List Log.Event :=
  match v.now.addSeconds? s.authCodeSeconds with
  | none =>
    (redirect.fault .serverError none, [⟨.error, "Authorization code lifetime out of range"⟩])
  | some expiry =>
    let payload : Payload := ⟨r.challenge, r.challengeMethod, username, expiry.seconds⟩
    (redirect.code (Code.ofPayload (Coding.Utf8.encode s.secret) v.nonce payload),
      [⟨.info, "Issued authorization code"⟩])

def decide (s : Settings) (v : Visit) (r : AuthorizationRequest) (redirect : Redirect) :
    Http.Response × List Log.Event :=
  if r.responseType ≠ responseTypeCode then
    (redirect.fault .unsupportedResponseType (some "unsupported response type"), [])
  else if r.challengeMethod ≠ challengeMethodS256 then
    (redirect.fault .invalidRequest (some "unsupported code challenge method"), [])
  else if v.method = "GET" then (.page (Consent.page v.username r), [])
  else if !r.consented then (redirect.fault .accessDenied (some "user denied consent"), [])
  else
    match v.username with
    | none =>
      (redirect.fault .serverError none,
        [⟨.error, "Authorization request without an authenticated subject"⟩])
    | some username => issueCode s v r redirect username

def authorize (s : Settings) (v : Visit) (p : Parameters) : Http.Response × List Log.Event :=
  match AuthorizationRequest.ofParameters p with
  | .error text =>
    (.text 422 ("invalid value for consented: " ++ Text.Quoted.encode text), [])
  | .ok r =>
    match Redirect.make r.clientId r.redirectUri r.state with
    | .error response => (response, [])
    | .ok redirect => decide s v r redirect

end ConfigRegistry.Login
