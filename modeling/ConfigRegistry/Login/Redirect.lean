import ConfigRegistry.Http.Message
import ConfigRegistry.Url.Basic

/-!
Where the outcome of a login is told. Once the address of the client is known, every fault and the
code go there, as pairs behind the query that the address already has.
-/
namespace ConfigRegistry.Login

inductive ClientFault where
  | invalidRequest
  | invalidGrant
  | unsupportedGrantType
  | unsupportedResponseType
  | accessDenied
  | serverError
deriving DecidableEq, Repr

def ClientFault.name : ClientFault → String
  | .invalidRequest => "invalid_request"
  | .invalidGrant => "invalid_grant"
  | .unsupportedGrantType => "unsupported_grant_type"
  | .unsupportedResponseType => "unsupported_response_type"
  | .accessDenied => "access_denied"
  | .serverError => "server_error"

def knownClient : String := "terraform"

/-- The address of a client, and what it wants to be told along with every outcome. -/
structure Redirect where
  target : Url
  state : String
deriving DecidableEq, Repr

namespace Redirect

/-- The address of a known client; what is wrong otherwise is told directly. -/
def make (clientId address state : String) : Except Http.Response Redirect :=
  match Url.parse address with
  | .error _ => .error (.text 400 "invalid redirect_uri")
  | .ok target =>
    if clientId = knownClient then .ok ⟨target, state⟩ else .error (.text 400 "invalid_client")

def statePairs (r : Redirect) : List (String × String) :=
  if r.state.isEmpty then [] else [("state", r.state)]

def withPairs (r : Redirect) (pairs : List (String × String)) : Http.Response :=
  .redirect (r.target.withPairs pairs).render

def fault (r : Redirect) (f : ClientFault) (description : Option String) : Http.Response :=
  r.withPairs ([("error", f.name)] ++
    (description.map fun d => ("error_description", d)).toList ++ r.statePairs)

def code (r : Redirect) (code : String) : Http.Response :=
  r.withPairs (r.statePairs ++ [("code", code)])

end Redirect

end ConfigRegistry.Login
