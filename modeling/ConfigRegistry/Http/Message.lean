import ConfigRegistry.Failure
import ConfigRegistry.Http.Body
import ConfigRegistry.Http.Headers

/-!
Requests and answers. An answer to a request for a known resource states its length; an answer to
a request that asks for the fields alone is sent without its bytes.
-/
namespace ConfigRegistry.Http

structure Request where
  method : String
  path : String
  query : Option String
  headers : Headers
  body : Body

structure Response where
  status : Nat
  headers : Headers
  body : ByteArray

def plainType : String := "text/plain; charset=utf-8"
def pageType : String := "text/html; charset=utf-8"
def jsonType : String := "application/json"
def archiveType : String := "application/octet-stream"

/-- A request for this path and query, given as one text; what follows a number sign is not sent. -/
def Request.target (text : String) : String × Option String :=
  let sent := text.toList.takeWhile (· != '#')
  let path := String.ofList (sent.takeWhile (· != '?'))
  match sent.dropWhile (· != '?') with
  | _ :: query => (path, some (String.ofList query))
  | [] => (path, none)

namespace Response

def empty (status : Nat) : Response := ⟨status, [], .empty⟩

def set (r : Response) (name value : String) : Response :=
  { r with headers := r.headers.set name value }

def typed (status : Nat) (mediaType : String) (body : ByteArray) : Response :=
  (⟨status, [], body⟩ : Response).set "content-type" mediaType

def text (status : Nat) (s : String) : Response := typed status plainType s.toUTF8

def page (s : String) : Response := typed 200 pageType s.toUTF8

def json (status : Nat) (v : Json.Value) : Response := typed status jsonType v.render.toUTF8

def redirect (location : String) : Response := (empty 302).set "location" location

def ofFailure (withDetails : Bool) (f : Failure) : Response :=
  json f.presentation.status (f.body withDetails)

def measured (r : Response) : Response :=
  { r with headers := r.headers.setDefault "content-length" (toString r.body.size) }

def withoutBody (r : Response) : Response := { r with body := .empty }

end Response

end ConfigRegistry.Http
