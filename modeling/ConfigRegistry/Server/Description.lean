import ConfigRegistry.Access
import ConfigRegistry.Http.Description
import ConfigRegistry.Http.Route
import ConfigRegistry.Login.Redirect
import ConfigRegistry.Text.Html
import ConfigRegistry.Version.Document

/-!
What this server tells programs about its interface.
-/
namespace ConfigRegistry.Server

open Http Http.Description

namespace Description

/-! Shapes of values. -/

def required (name : String) (shape : Shape) : Member := ⟨name, shape, .required, ""⟩
def optional (name : String) (shape : Shape) : Member := ⟨name, shape, .optional, ""⟩

def errorShape : Shape := .named "ErrorResponse"
def healthShape : Shape := .named "HealthCheckResponse"
def documentShape : Shape := .named "ConfigurationVersionDocument"
def listShape : Shape := .named "ConfigurationVersionListDocument"
def requestShape : Shape := .named "CreateConfigurationVersionDocument"
def tokenShape : Shape := .named "TokenResponse"

def failureMembers : List Member :=
  [required "error" .text,
    ⟨"code", .text, .required, "Machine-readable error code for programmatic handling"⟩,
    ⟨"recoverable", .flag, .required, "Whether this error is recoverable (can be retried)"⟩,
    optional "suggested_action" .text, optional "details" .text, optional "error_type" .text]

def versionMembers : List Member :=
  [required "auto-queue-runs" .flag, optional "error" .text, optional "error-message" .text,
    required "source" (.named "ConfigurationSource"), required "speculative" .flag,
    required "status" (.named "ConfigurationStatus"),
    required "status-timestamps" (.named "StatusTimestamps"), optional "upload-url" .text]

def pageMembers : List Member :=
  [required "current-page" (.number 32), optional "prev-page" (.number 32),
    optional "next-page" (.number 32), required "total-pages" (.number 32),
    required "total-count" (.number 64)]

def requestMembers : List Member :=
  [⟨"auto-queue-runs", .flag, .optional, "Defaults to true"⟩,
    ⟨"speculative", .flag, .optional, "Defaults to false"⟩]

def statusNote : String :=
  "Status of a configuration version.\n\n" ++
    "`Pending` is the only non-terminal state: a version moves to `Uploaded` or\n" ++
    "`Errored` exactly once and never leaves it."

def names {α : Type} (l : List (String × α)) : Definition := .shape (.words (l.map Prod.fst))

def definitions : List (String × String × Definition) :=
  [("ConfigurationSource", "Where a configuration version came from.",
      names Version.Source.names),
    ("ConfigurationStatus", statusNote, names Version.Status.names),
    ("ConfigurationVersionAttributes", "", .members versionMembers),
    ("ConfigurationVersionDocument", "",
      .members [required "data" (.named "ConfigurationVersionResource")]),
    ("ConfigurationVersionListDocument", "",
      .members [required "data" (.list (.named "ConfigurationVersionResource")),
        required "meta" (.named "ListMeta")]),
    ("ConfigurationVersionRelationships", "",
      .members [optional "ingress-attributes" (.named "Relationship")]),
    ("ConfigurationVersionResource", "",
      .members [required "id" .text, required "type" .text,
        required "attributes" (.named "ConfigurationVersionAttributes"),
        required "relationships" (.named "ConfigurationVersionRelationships")]),
    ("CreateConfigurationVersionAttributes", "", .members requestMembers),
    ("CreateConfigurationVersionData", "",
      .members [optional "type" .text,
        ⟨"attributes", .named "CreateConfigurationVersionAttributes", .defaulted, ""⟩]),
    ("CreateConfigurationVersionDocument", "Body of a create request. Every member is optional.",
      .members [optional "data" (.named "CreateConfigurationVersionData")]),
    ("ErrorResponse", "Standard error response format for HTTP APIs", .members failureMembers),
    ("HealthCheckResponse", "",
      .members [required "status" .text, required "store" .text, required "storage" .text]),
    ("IngressAttributes", "VCS metadata attached to a configuration version.",
      .members [required "commit-sha" .text, required "commit-url" .text]),
    ("ListMeta", "", .members [required "pagination" (.named "Pagination")]),
    ("Pagination", "", .members pageMembers),
    ("Relationship", "", .members [required "data" (.named "ResourceIdentifier")]),
    ("ResourceIdentifier", "", .members [required "id" .text, required "type" .text]),
    ("StatusTimestamps", "",
      .members (["queued-at", "started-at", "finished-at"].map fun n => optional n .time)),
    ("TokenResponse", "",
      .members [required "access_token" .text, required "token_type" .text]),
    ("UserRole", "User role for authorization", names Role.names)]

/-! Operations. -/

def bearerScheme : String := "bearer_auth"

def loginTopic : String := "login"
def versionTopic : String := "configuration-versions"
def healthTopic : String := "health"

def formType : String := "application/x-www-form-urlencoded"
def markupType : String := "text/html"

def json (shape : Shape) : Option Content := some ⟨jsonType, some shape⟩

def raw (mediaType : String) : Option Content := some ⟨mediaType, none⟩

def failing (status : Nat) (note : String) : Reply := ⟨status, note, json errorShape⟩

def denied : Reply := failing 403 "Access denied"
def unknown : Reply := failing 404 "Not found"
def unauthenticated : Reply := failing 401 "Missing or invalid token"

def idParameter : Parameter := ⟨"id", .path, true, .text, "Configuration version ID"⟩
def workspaceParameter : Parameter := ⟨"workspace_id", .path, true, .text, "Workspace ID"⟩
def signatureParameter : Parameter :=
  ⟨"signature", .path, true, .text,
    "`" ++ placeholder "signature" ++ "." ++ placeholder "expiry" ++
      "` issued with the upload URL"⟩

def pageParameter (name note : String) : Parameter := ⟨name, .query, false, .number 32, note⟩

def loginParameter (name note : String) : Parameter := ⟨name, .query, true, .text, note⟩

def userOperation (method name : String) (parameters : List Parameter) (replies : List Reply) :
    Operation :=
  ⟨method, name, versionTopic, parameters, none, replies, some bearerScheme⟩

def openOperation (method name topic : String) (replies : List Reply) : Operation :=
  ⟨method, name, topic, [], none, replies, none⟩

def discovery : Operation :=
  openOperation "get" "discovery" loginTopic
    [⟨200, "Terraform service discovery document", raw jsonType⟩]

def health : Operation :=
  openOperation "get" "health_check" healthTopic
    [⟨200, "Store and blob cache reachable", json healthShape⟩,
      ⟨503, "Store unreachable", json healthShape⟩]

def ping : Operation := openOperation "get" "ping" healthTopic [⟨204, "API is reachable", none⟩]

def authorize : Operation :=
  { openOperation "get" "authorize" loginTopic
      [⟨200, "Consent page", raw markupType⟩, ⟨302, "OAuth error redirect", none⟩,
        ⟨400, "Invalid redirect_uri or client", none⟩, ⟨422, "Undecodable parameters", none⟩] with
    parameters :=
      [loginParameter "client_id" "Must be `terraform`",
        loginParameter "redirect_uri" "Client callback URL",
        loginParameter "response_type" "Must be `code`",
        loginParameter "code_challenge" "PKCE challenge",
        loginParameter "code_challenge_method" "Must be `S256`",
        ⟨"state", .query, false, .text, "Opaque client state"⟩]
    input := some ⟨⟨formType, none⟩, false, "On POST, the query parameters plus consented"⟩ }

def token : Operation :=
  { openOperation "post" "token" loginTopic
      [⟨200, "API token", json tokenShape⟩, ⟨302, "OAuth error redirect", none⟩,
        ⟨400, "Invalid redirect_uri or client", none⟩] with
    input := some
      ⟨⟨formType, none⟩, false, "client_id, code, code_verifier, grant_type, redirect_uri"⟩ }

def create : Operation :=
  { userOperation "post" "create_configuration_version" [workspaceParameter]
      [⟨201, "Configuration version created", json documentShape⟩,
        failing 400 "Invalid request body", unauthenticated, denied] with
    input := some ⟨⟨Version.mediaType, some requestShape⟩, true, ""⟩ }

def list : Operation :=
  userOperation "get" "list_configuration_versions"
    [workspaceParameter, pageParameter "page[number]" "Defaults to 1",
      pageParameter "page[size]" "Defaults to 20, capped at 100"]
    [⟨200, "Configuration versions, newest first", json listShape⟩, unauthenticated, denied]

def latest : Operation :=
  userOperation "get" "get_latest_configuration_version" [workspaceParameter]
    [⟨200, "Most recent configuration version", json documentShape⟩, denied,
      failing 404 "Workspace has no configuration versions"]

def get : Operation :=
  userOperation "get" "get_configuration_version" [idParameter]
    [⟨200, "Configuration version", json documentShape⟩, denied, unknown]

def delete : Operation :=
  userOperation "delete" "delete_configuration_version" [idParameter]
    [⟨204, "Deleted", none⟩, denied, unknown]

def download : Operation :=
  userOperation "get" "download_configuration_version" [idParameter]
    [⟨200, "Configuration archive", raw archiveType⟩, denied,
      failing 404 "Not found or not uploaded"]

def upload : Operation :=
  { openOperation "put" "upload_configuration_version" versionTopic
      [⟨200, "Archive stored", none⟩, failing 403 "Invalid or expired signature", unknown,
        failing 409 "Configuration version is not pending",
        failing 422 "Archive exceeds the maximum size", failing 500 "Storage failure"] with
    parameters := [signatureParameter, idParameter]
    input := some ⟨⟨archiveType, some (.list (.number 32))⟩, true, ""⟩ }

def versionsPath : String :=
  apiPrefix ++ "/workspaces/" ++ placeholder "workspace_id" ++ "/configuration-versions"

def innerVersionPath : String := "/configuration-versions/" ++ placeholder "id"

def versionPath : String := apiPrefix ++ innerVersionPath

def operations : List (String × List Operation) :=
  [(discoveryPath, [discovery]), (authorizationPath, [authorize]), (tokenPath, [token]),
    (healthPath, [health]), (apiPrefix ++ "/ping", [ping]), (versionsPath, [list, create]),
    (versionsPath ++ "/latest", [latest]), (versionPath, [get, delete]),
    (versionPath ++ "/download", [download]),
    (apiPrefix ++ "/signed/" ++ placeholder "signature" ++ innerVersionPath ++ "/upload",
      [upload])]

def topics : List (String × String) :=
  [(loginTopic, "Service discovery and the terraform login OAuth flow"),
    (versionTopic, "Configuration version lifecycle and archive upload"),
    (healthTopic, "Liveness and dependency checks")]

end Description

def description : Http.Description :=
  { title := "Stratus API"
    version := "0.1.0"
    note := "Terraform login and configuration version upload. Terraform finds the endpoints " ++
      "through " ++ discoveryPath ++ "; the TFE-compatible API lives under " ++ apiPrefix ++ "/."
    topics := Description.topics
    definitions := Description.definitions
    securityScheme := Description.bearerScheme
    operations := Description.operations }

namespace Description

open Text.Html

def operationPieces (path : String) (o : Operation) : List Piece :=
  [.markup "  <li><code>", .text (o.method.toUpper ++ " " ++ path), .markup "</code> ",
    .text (", ".intercalate (o.replies.map fun r => toString r.status ++ " " ++ r.note)),
    .markup "</li>\n"]

def page : String :=
  render ([.markup "<!DOCTYPE html>\n<meta charset=\"utf-8\">\n<title>", .text description.title,
      .markup "</title>\n<ul>\n"]
    ++ (operations.flatMap fun (path, all) => all.flatMap (operationPieces path))
    ++ [.markup "</ul>\n"])

end Description

/-! The document by which clients find the services of this server. -/

namespace Discovery

open Json

def loginPorts : List Nat := [10000, 10010]

def login : Value :=
  .object [("authz", .string Http.authorizationPath), ("client", .string Login.knownClient),
    ("ports", .array (loginPorts.map Value.natural)), ("token", .string Http.tokenPath)]

def api : Value := .string (Http.apiPrefix ++ "/")

def document : Value :=
  .object [("login.v1", login), ("modules.v1", .string Http.modulesPrefix),
    ("motd.v1", .string Http.messagePath), ("state.v2", api), ("tfe.v2", api), ("tfe.v2.1", api),
    ("tfe.v2.2", api)]

end Discovery

end ConfigRegistry.Server
