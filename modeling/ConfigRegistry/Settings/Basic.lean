import ConfigRegistry.Failure
import ConfigRegistry.Settings.Environment
import ConfigRegistry.Text.Decimal
import ConfigRegistry.Text.Split

/-!
The settings of the registry, as the environment gives them. Reading them finds texts that are no
numbers or no known names; validating them finds values that the registry must not run with.
-/
namespace ConfigRegistry

namespace Settings

/-- Where records are kept. -/
inductive StoreBackend where
  | postgres
  | memory
deriving DecidableEq, Repr

def StoreBackend.name : StoreBackend → String
  | .postgres => "postgres"
  | .memory => "memory"

def StoreBackend.names : List (String × StoreBackend) :=
  [StoreBackend.postgres, .memory].map fun b => (b.name, b)

def StoreBackend.ofText (s : String) : Except String StoreBackend :=
  match Text.lowercase s with
  | "postgres" | "postgresql" => .ok .postgres
  | "memory" => .ok .memory
  | _ => .error ("Invalid store backend: " ++ s)

inductive BlobBackend where
  | directory
  | memory
deriving DecidableEq, Repr

def BlobBackend.name : BlobBackend → String
  | .directory => "local"
  | .memory => "memory"

def BlobBackend.names : List (String × BlobBackend) :=
  [BlobBackend.directory, .memory].map fun b => (b.name, b)

def BlobBackend.ofText (s : String) : Except String BlobBackend :=
  match Text.lowercase s with
  | "local" => .ok .directory
  | "memory" => .ok .memory
  | _ => .error ("Invalid storage backend: " ++ s)

/-- The form in which events are written. -/
inductive LogFormat where
  | pretty
  | json
deriving DecidableEq, Repr

def LogFormat.name : LogFormat → String
  | .pretty => "Pretty"
  | .json => "Json"

def LogFormat.ofText (s : String) : Except String LogFormat :=
  match Text.lowercase s with
  | "pretty" | "text" => .ok .pretty
  | "json" => .ok .json
  | other => .error ("Invalid log format: " ++ other)

/-- The form that the environment asks for; an unknown one counts as none. -/
def LogFormat.ofEnvironment (env : Environment) : LogFormat :=
  match (env.get? "LOG_FORMAT").map LogFormat.ofText with
  | some (.ok format) => format
  | _ => .pretty

end Settings

structure Settings where
  serverPort : Nat
  corsOrigins : List String
  dbMaxConnections : Nat
  dbTimeoutSeconds : Nat
  environment : String
  secret : String
  databaseUrl : Option String
  storeBackend : Settings.StoreBackend
  blobBackend : Settings.BlobBackend
  blobDirectory : String
  /-- The greatest size of an archive in bytes. -/
  maxArchiveSize : Nat
  /-- The users that are administrators. -/
  siteAdmins : List String
  /-- The header in which the session proxy names the user. -/
  sessionUserHeader : String
  authCodeSeconds : Int
  uploadUrlSeconds : Nat
deriving DecidableEq, Repr

namespace Settings

def minSecretLength : Nat := 32
def maxAuthCodeSeconds : Int := 86400
def maxUploadUrlSeconds : Nat := 7 * 86400

/-- The items between commas, without white space around them. -/
def commaList (s : String) : List String := (Text.split ',' s).map Text.trim

/-- A number of the environment; nothing if it is set to something else. -/
def number? (env : Environment) (name : String) (bound default : Nat) : Option Nat :=
  match env.get? name with
  | none => some default
  | some s => (Text.Decimal.natural bound s).toOption

def signedNumber? (env : Environment) (name : String) (bound : Nat) (default : Int) :
    Option Int :=
  match env.get? name with
  | none => some default
  | some s => (Text.Decimal.integer bound s).toOption

def orElse {α : Type} (message : String) : Option α → Except String α
  | some a => .ok a
  | none => .error message

/-- The port; the general variable stands in for the specific one. -/
def port? (env : Environment) : Option Nat :=
  number? env (if (env.get? "SERVER_PORT").isSome then "SERVER_PORT" else "PORT")
    Text.Decimal.maxU16 8080

def ofEnvironment (env : Environment) : Except String Settings := do
  let environment :=
    ((env.get? "ENVIRONMENT").or (env.get? "APP_ENV")).getD "development"
  let serverPort ← orElse "SERVER_PORT must be a valid number" (port? env)
  let storeBackend ← StoreBackend.ofText ((env.get? "STORE_BACKEND").getD "postgres")
  let blobBackend ← BlobBackend.ofText ((env.get? "STORAGE_BACKEND").getD "local")
  let secret ← orElse "SECRET must be set to seal login codes" (env.get? "SECRET")
  let maxArchiveSize ← orElse "MAX_CONFIG_SIZE must be a number of bytes"
    (number? env "MAX_CONFIG_SIZE" Text.Decimal.maxU64 104857600)
  let authCodeSeconds ← orElse "AUTH_CODE_TTL_SECONDS must be a number of seconds"
    (signedNumber? env "AUTH_CODE_TTL_SECONDS" Text.Decimal.maxI64 600)
  let uploadUrlSeconds ← orElse "UPLOAD_URL_TTL_SECONDS must be a number of seconds"
    (number? env "UPLOAD_URL_TTL_SECONDS" Text.Decimal.maxU64 3600)
  return {
    serverPort
    corsOrigins := commaList ((env.get? "CORS_ORIGINS").getD "*")
    dbMaxConnections := (number? env "DB_MAX_CONNECTIONS" Text.Decimal.maxU32 10).getD 10
    dbTimeoutSeconds := (number? env "DB_TIMEOUT_SECONDS" Text.Decimal.maxU64 30).getD 30
    environment
    secret
    databaseUrl := env.get? "DATABASE_URL"
    storeBackend
    blobBackend
    blobDirectory := (env.get? "LOCAL_STORAGE_PATH").getD "./data/configs"
    maxArchiveSize
    siteAdmins := (commaList ((env.get? "SITE_ADMINS").getD "")).filter (!·.isEmpty)
    sessionUserHeader := (env.get? "SESSION_USER_HEADER").getD "X-Forwarded-User"
    authCodeSeconds
    uploadUrlSeconds }

def isProduction (s : Settings) : Bool := Failure.isProductionName s.environment

/-- Whether an answer about a failure is made in production, as the environment has it at that
time. -/
def Environment.isProduction (env : Environment) : Bool :=
  (env.get? "ENVIRONMENT").any Failure.isProductionName

def isPostgresUrl (url : String) : Bool :=
  url.startsWith "postgres://" || url.startsWith "postgresql://"

/-- The first reason not to run with the settings. -/
def fault? (s : Settings) : Option String :=
  if s.secret.utf8ByteSize < minSecretLength then
    some ("SECRET must be at least " ++ toString minSecretLength ++ " characters long")
  else if s.maxArchiveSize = 0 then some "MAX_CONFIG_SIZE must be greater than zero"
  else if s.authCodeSeconds ≤ 0 ∨ maxAuthCodeSeconds < s.authCodeSeconds then
    some ("AUTH_CODE_TTL_SECONDS must be between 1 and " ++ toString maxAuthCodeSeconds)
  else if s.uploadUrlSeconds = 0 ∨ maxUploadUrlSeconds < s.uploadUrlSeconds then
    some ("UPLOAD_URL_TTL_SECONDS must be between 1 and " ++ toString maxUploadUrlSeconds)
  else if s.storeBackend = .postgres ∧ s.databaseUrl = none then
    some "DATABASE_URL must be set when using the postgres store backend"
  else if s.storeBackend = .postgres ∧ !s.databaseUrl.any isPostgresUrl then
    some "DATABASE_URL must be a valid PostgreSQL connection string"
  else if s.isProduction ∧ "*" ∈ s.corsOrigins then
    some "CORS_ORIGINS cannot be '*' in production. Please specify explicit origins."
  else none

def validate (s : Settings) : Except String Unit :=
  match s.fault? with
  | some fault => .error fault
  | none => .ok ()

end Settings

end ConfigRegistry
