import ConfigRegistry.Coding.Form
import ConfigRegistry.Http.Message
import ConfigRegistry.Text.Printable

/-!
Parameters of the two requests of a login. They come from the body, if it is a form, and from the
query; the body goes first, and of several values of one name the first one counts.
-/
namespace ConfigRegistry.Login

abbrev Parameters := List (String × String)

def formType : String := "application/x-www-form-urlencoded"

namespace Parameters

def isForm (h : Http.Headers) : Bool := (h.text? "content-type").any (·.startsWith formType)

def ofRequest (query : Option String) (h : Http.Headers) (body : List UInt8) : Parameters :=
  (if isForm h then Coding.Form.decode body else []) ++
    ((query.map fun q => Coding.Form.decode (Coding.Utf8.encode q)).getD [])

def value (p : Parameters) (name : String) : String := (p.lookup name).getD ""

end Parameters

def yes : List String := ["1", "t", "T", "true", "TRUE", "True", "on"]
def no : List String := ["0", "f", "F", "false", "FALSE", "False", "off", ""]

def readConsent? (s : String) : Option Bool :=
  if s ∈ yes then some true else if s ∈ no then some false else none

/-- What a client asks for when it sends a user to this server. -/
structure AuthorizationRequest where
  clientId : String
  challenge : String
  challengeMethod : String
  redirectUri : String
  responseType : String
  state : String
  consented : Bool
deriving DecidableEq, Repr

namespace AuthorizationRequest

def ofParameters (p : Parameters) : Except String AuthorizationRequest :=
  let request := fun consented => Except.ok
    ⟨p.value "client_id", p.value "code_challenge", p.value "code_challenge_method",
      p.value "redirect_uri", p.value "response_type", p.value "state", consented⟩
  match p.lookup "consented" with
  | none => request false
  | some s =>
    match readConsent? s with
    | some consented => request consented
    | none => .error s

def fields (r : AuthorizationRequest) : Parameters :=
  [("client_id", r.clientId), ("code_challenge", r.challenge),
    ("code_challenge_method", r.challengeMethod), ("redirect_uri", r.redirectUri),
    ("response_type", r.responseType), ("state", r.state)]

end AuthorizationRequest

structure TokenRequest where
  clientId : String
  code : String
  verifier : String
  grantType : String
  redirectUri : String
deriving DecidableEq, Repr

def TokenRequest.ofParameters (p : Parameters) : TokenRequest :=
  ⟨p.value "client_id", p.value "code", p.value "code_verifier", p.value "grant_type",
    p.value "redirect_uri"⟩

end ConfigRegistry.Login
