import ConfigRegistry.Http.Message

/-!
Which pages of other origins may use the server. One star among the origins lets all of them; an
origin that is no value of a header field is left out.
-/
namespace ConfigRegistry.Server.Cors

open Http

def anyOrigin : String := "*"
def methods : String := "GET,POST,PUT,DELETE,OPTIONS"
def vary : String := "origin, access-control-request-method, access-control-request-headers"

def allowsAny (origins : List String) : Bool := anyOrigin ∈ origins

def anyOriginWarning : String :=
  "CORS configured to allow all origins - not recommended for production"

def isValid (origin : String) : Bool := (Coding.Utf8.encode origin).all Headers.isTextByte

def allowed? (origins : List String) (h : Headers) : Option String :=
  if allowsAny origins then some anyOrigin
  else (h.text? "origin").filter fun origin => origin ∈ origins

def mark (origins : List String) (h : Headers) (r : Response) : Response :=
  let r := r.set "vary" vary
  match allowed? origins h with
  | some origin => r.set "access-control-allow-origin" origin
  | none => r

def preflight : Response :=
  ((Response.empty 200).set "access-control-allow-methods" methods).set
    "access-control-allow-headers" "*"

end ConfigRegistry.Server.Cors
