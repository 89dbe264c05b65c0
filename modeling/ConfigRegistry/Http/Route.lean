import ConfigRegistry.Coding.Hex
import ConfigRegistry.Http.Message
import ConfigRegistry.Text.Split

/-!
The resources of the registry and their paths. A name in a path is one segment, as it was sent;
slashes around a path do not matter.
-/
namespace ConfigRegistry.Http

def apiPrefix : String := "/api/v2"
def discoveryPath : String := "/.well-known/terraform.json"
def authorizationPath : String := "/app/oauth2/auth"
def tokenPath : String := "/oauth2/token"
def modulesPrefix : String := "/v1/modules/"
def messagePath : String := "/api/terraform/motd"
def healthPath : String := "/health"
def openApiPath : String := "/api/openapi.json"
def docsPath : String := "/docs"

inductive Route where
  | discovery
  | token
  | health
  | openApi
  | docs
  | authorization
  | ping
  | versions (workspace : String)
  | latest (workspace : String)
  | version (id : String)
  | download (id : String)
  | upload (signature id : String)
deriving DecidableEq, Repr

namespace Route

/-- The path without slashes around it, if it ends with one or starts with two. -/
def trimmedPath (path : String) : String :=
  if path.endsWith "/" || path.startsWith "//" then
    "/" ++ String.ofList (Text.trimBoth (· == '/') path.toList)
  else path

/-- The resource at the segments of a path of the programming interface. -/
def ofApiSegments? : List String → Option Route
  | ["ping"] => some .ping
  | ["workspaces", workspace, "configuration-versions"] => some (.versions workspace)
  | ["workspaces", workspace, "configuration-versions", "latest"] => some (.latest workspace)
  | ["configuration-versions", id] => some (.version id)
  | ["configuration-versions", id, "download"] => some (.download id)
  | ["signed", signature, "configuration-versions", id, "upload"] => some (.upload signature id)
  | _ => none

def fixed : List (String × Route) :=
  [(discoveryPath, .discovery), (tokenPath, .token), (healthPath, .health),
    (openApiPath, .openApi), (docsPath, .docs), (authorizationPath, .authorization)]

/-- The resource at a path without slashes around it. No segment is empty. -/
def ofPath? (path : String) : Option Route :=
  match fixed.lookup path, Text.split '/' path with
  | some route, _ => some route
  | none, "" :: "api" :: "v2" :: segments =>
    if segments.any String.isEmpty then none else ofApiSegments? segments
  | none, _ => none

def methods : Route → List String
  | .token => ["POST"]
  | .upload _ _ => ["PUT"]
  | .authorization | .versions _ => ["GET", "HEAD", "POST"]
  | .version _ => ["GET", "HEAD", "DELETE"]
  | _ => ["GET", "HEAD"]

def allow (r : Route) : String := ",".intercalate r.methods

/-- What a request has to show before it reaches a resource. -/
inductive Gate where
  | free
  | session
  | bearer
  | signature
deriving DecidableEq, Repr

def gate : Route → Gate
  | .authorization => .session
  | .versions _ | .latest _ | .version _ | .download _ => .bearer
  | .upload _ _ => .signature
  | _ => .free

/-- Whether the resource belongs to the programming interface. -/
def isApi : Route → Bool
  | .ping | .versions _ | .latest _ | .version _ | .download _ | .upload _ _ => true
  | _ => false

def takesSmallBodies (r : Route) : Bool := r.isApi && r.gate != .signature

def names : Route → List (String × String)
  | .versions workspace | .latest workspace => [("workspace_id", workspace)]
  | .version id | .download id => [("id", id)]
  | .upload signature id => [("signature", signature), ("id", id)]
  | _ => []

def decodeName? (s : String) : Option String :=
  Coding.Utf8.string? (Coding.Percent.decode (Coding.Utf8.encode s))

/-- The first name whose escapes do not make text. -/
def badName? (r : Route) : Option String :=
  (r.names.find? fun (_, raw) => (decodeName? raw).isNone).map Prod.fst

end Route

end ConfigRegistry.Http
