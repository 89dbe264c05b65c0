import ConfigRegistry.Log.Filter
import ConfigRegistry.Startup
import ConfigRegistry.Text.Split

/-!
A run of the program from its environment to its end: what it writes, and how it ends. How notices
are written is settled before the file of variables is read.
-/
namespace ConfigRegistry.Program

open Log

/-- What ends a server. -/
inductive Signal where
  | terminate
  | interrupt
deriving DecidableEq, Repr

def Signal.message : Signal → String
  | .terminate => "Received terminate signal"
  | .interrupt => "Received Ctrl+C signal"

/-- What surrounds a run. -/
structure Surroundings where
  environment : Settings.Environment
  /-- The file of variables in the working directory. -/
  file : Option (List UInt8)
  tree : Blob.FileTree
  /-- Whether another program has the port. -/
  isPortTaken : Bool

def variableNames : List String :=
  ["APP_ENV", "AUTH_CODE_TTL_SECONDS", "CORS_ORIGINS", "DATABASE_URL", "DB_MAX_CONNECTIONS",
    "DB_TIMEOUT_SECONDS", "ENVIRONMENT", "LOCAL_STORAGE_PATH", "LOG_FORMAT", "MAX_CONFIG_SIZE",
    "NO_COLOR", "PORT", "RUST_LOG", "SECRET", "SERVER_PORT", "SESSION_USER_HEADER", "SITE_ADMINS",
    "STORAGE_BACKEND", "STORE_BACKEND", "UPLOAD_URL_TTL_SECONDS"]

/-- The words in a file of variables, among which are all names that it sets or refers to. -/
def mentioned (file : List UInt8) : List String :=
  let isWord := fun c : Char => c.isAlphanum || c == '_' || c == '.'
  let spaced := (Coding.Utf8.decodeLossy file).map fun c => if isWord c then c else ' '
  (Text.split ' ' (String.ofList spaced)).filter (!·.isEmpty)

def Surroundings.variables (s : Surroundings) : Settings.Environment :=
  match s.file with
  | some file => s.environment.withFile file
  | none => s.environment

def serverNotice (message : String) (details : List (String × Detail)) : Notice :=
  Startup.notice .info "api::setup::server" message details

def listen (s : Settings) (isPortTaken : Bool) : Startup.Step Unit :=
  let address := "0.0.0.0:" ++ toString s.serverPort
  let starting := serverNotice "Starting server" [("addr", .text address)]
  if isPortTaken then (.error ⟨"Address already in use (os error 98)", []⟩, [starting])
  else
    (.ok (), [starting,
      serverNotice "Server ready and accepting connections"
        [("max_config_size", .number s.maxArchiveSize),
          ("store_backend", .text s.storeBackend.name),
          ("storage_backend", .text s.blobBackend.name),
          ("environment", .text s.environment)]])

/-- Loads the settings and starts the server, up to where it answers requests. -/
def launch (s : Surroundings) : Startup.Step Settings :=
  match Settings.ofEnvironment s.variables with
  | .error reason => (.error ⟨reason, []⟩, [])
  | .ok settings =>
    (Startup.start settings s.tree).andThen fun _ =>
      (listen settings s.isPortTaken).andThen fun () => (.ok settings, [])

def shutdown (signal : Signal) : List Notice :=
  [serverNotice signal.message [], serverNotice "Shutting down gracefully..." []]

/-- How notices are written. -/
structure Style where
  format : Settings.LogFormat
  filter : Filter
  hasColors : Bool

def Style.ofEnvironment (env : Settings.Environment) : Style :=
  { format := .ofEnvironment env
    filter := .ofText (env.get? "RUST_LOG")
    hasColors := ((env.get? "NO_COLOR").getD "").isEmpty }

def Style.notice (s : Style) : Notice :=
  Startup.notice .debug "infra::telemetry::init_basic" "Tracing initialized"
    [("format", .text s.format.name)]

def Style.line? (s : Style) (time : String) (n : Notice) : Option String :=
  if !s.filter.passes n then none
  else
    match s.format with
    | .pretty => some (n.renderPretty s.hasColors time)
    | .json => some (n.toJson time).render

def Style.lines (s : Style) (time : String) (notices : List Notice) : List String :=
  (notices.filterMap (s.line? time)).flatMap (Text.split '\n')

/-- Text whose further lines start behind some blanks. -/
def indented (blanks : Nat) (s : String) : String :=
  s.replace "\n" ("\n" ++ String.ofList (List.replicate blanks ' '))

/-- The fault that ended a run, as it is told at the end; several causes are numbered. -/
def describe (f : Startup.Fault) : String :=
  let lines := match f.causes with
    | [] => []
    | [cause] => ["    " ++ indented 4 cause]
    | causes => causes.zipIdx.map fun (cause, i) =>
      let number := toString i
      String.ofList (List.replicate (5 - number.length) ' ') ++ number ++ ": " ++ indented 7 cause
  "Error: " ++ f.message ++
    (if lines.isEmpty then "" else "\n\nCaused by:\n" ++ "\n".intercalate lines) ++ "\n"

/-- What a run comes to. -/
structure Report where
  style : Style
  notices : List Notice
  fault : Option Startup.Fault

def Report.exitCode (r : Report) : Nat := if r.fault.isSome then 1 else 0

def Report.complaint (r : Report) : String := (r.fault.map describe).getD ""

def Report.lines (r : Report) (time : String) : List String := r.style.lines time r.notices

def start (s : Surroundings) : Report :=
  let style := Style.ofEnvironment s.environment
  match launch s with
  | (.error fault, notices) => ⟨style, style.notice :: notices, some fault⟩
  | (.ok _, notices) => ⟨style, style.notice :: notices, none⟩

def run (s : Surroundings) (signal : Signal) : Report :=
  let report := start s
  if report.fault.isSome then report
  else { report with notices := report.notices ++ shutdown signal }

end ConfigRegistry.Program
