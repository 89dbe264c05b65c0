import ConfigRegistry.Blob.Store
import ConfigRegistry.Http.Headers
import ConfigRegistry.Log.Notice
import ConfigRegistry.Server.Cors
import ConfigRegistry.Settings.Basic
import ConfigRegistry.Store.Database

/-!
Starting the registry: the settings are validated, the stores are opened, and the server is
assembled. The first step that fails ends the start; what was reported before stays reported.
-/
namespace ConfigRegistry.Startup

open Log

/-- Why the registry does not start: what failed, and what led to it, outermost first. -/
structure Fault where
  message : String
  causes : List String
deriving DecidableEq, Repr

def Fault.render (f : Fault) : String := ": ".intercalate (f.message :: f.causes)

/-- A step of the start, and what it reports. -/
abbrev Step (α : Type) := Except Fault α × List Notice

def notice (level : Level) (target message : String) (details : List (String × Detail)) : Notice :=
  ⟨level, "stratus_" ++ target, message, details⟩

def Step.andThen {α β : Type} (s : Step α) (next : α → Step β) : Step β :=
  match s with
  | (.error fault, notices) => (.error fault, notices)
  | (.ok a, notices) => ((next a).1, notices ++ (next a).2)

def validate (s : Settings) : Step Unit :=
  match s.validate with
  | .error reason => (.error ⟨"Configuration validation failed", [reason]⟩, [])
  | .ok () =>
    (.ok (),
      [notice .info "api::setup" "Configuration loaded and validated successfully" []])

def openRecords (s : Settings) : Step Unit :=
  match s.storeBackend with
  | .memory =>
    (.ok (), [notice .warn "api::setup::services"
      "Using in-memory record store; data is lost on restart" []])
  | .postgres =>
    match s.databaseUrl with
    | none =>
      (.error ⟨"DATABASE_URL must be set when using the postgres store backend", []⟩, [])
    | some address =>
      (.error ⟨"Failed to connect to database", (Store.Database.connect address).causes⟩,
        [notice .info "api::setup::database" "Connecting to database..." []])

def archivesOpened (b : Settings.BlobBackend) : Notice :=
  notice .info "api::setup::services" "Blob cache initialized" [("backend", .text b.name)]

def openArchives (s : Settings) (tree : Blob.FileTree) : Step Blob.Store :=
  match s.blobBackend with
  | .memory =>
    (.ok .empty,
      [notice .warn "storage::factory"
        "Using in-memory blob cache; archives are lost on restart" [],
        archivesOpened .memory])
  | .directory =>
    match Blob.Directory.make s.blobDirectory tree with
    | .ok d => (.ok (.directory d), [archivesOpened .directory])
    | .error fault => (.error ⟨"Failed to initialize blob cache", [fault.message]⟩, [])

def originNotices (origins : List String) : List Notice :=
  if Server.Cors.allowsAny origins then
    [notice .warn "api::setup::routes" Server.Cors.anyOriginWarning []]
  else
    (origins.filter (!Server.Cors.isValid ·)).map fun origin =>
      notice .warn "api::setup::routes" "Ignoring invalid CORS origin" [("origin", .text origin)]

def assemble (s : Settings) : Step Unit :=
  match Http.fieldName? s.sessionUserHeader with
  | some _ => (.ok (), originNotices s.corsOrigins)
  | none =>
    (.error ⟨"SESSION_USER_HEADER is not a valid header name", ["invalid HTTP header name"]⟩,
      originNotices s.corsOrigins)

def openAll (s : Settings) (tree : Blob.FileTree) : Step Blob.Store :=
  (openRecords s).andThen fun () =>
    (openArchives s tree).andThen fun blobs =>
      (assemble s).andThen fun () => (.ok blobs, [])

def start (s : Settings) (tree : Blob.FileTree) : Step Blob.Store :=
  (validate s).andThen fun () => openAll s tree

end ConfigRegistry.Startup
