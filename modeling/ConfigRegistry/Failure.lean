import ConfigRegistry.Json.Value
import ConfigRegistry.Log.Event
import ConfigRegistry.Text.Lowercase

/-!
The failures of the registry and how each is presented: its own text, what a client is told, the
status and code of the answer, whether a client may retry, and the level it is reported at. Failures
of the machinery hide their details from clients.
-/
namespace ConfigRegistry

inductive DatabaseFault where
  | poolClosed
  | poolTimedOut
  | rowNotFound
  | workerCrashed
  | invalidSavePoint
  | beginFailed
  | protocol (detail : String)
  | typeNotFound (name : String)
  | columnNotFound (name : String)
  | io (detail : String)
  | tls (detail : String)
  | encode (detail : String)
  | decode (detail : String)
  | driver (detail : String)
  /-- An address that is refused, with what led to that, outermost first. -/
  | configuration (causes : List String)
deriving DecidableEq, Repr

namespace DatabaseFault

def message : DatabaseFault → String
  | .poolClosed => "attempted to acquire a connection on a closed pool"
  | .poolTimedOut => "pool timed out while waiting for an open connection"
  | .rowNotFound => "no rows returned by a query that expected to return at least one row"
  | .workerCrashed => "attempted to communicate with a crashed background worker"
  | .invalidSavePoint => "attempted to call begin_with at non-zero transaction depth"
  | .beginFailed =>
    "got unexpected connection status after attempting to begin transaction"
  | .protocol detail => "encountered unexpected or invalid data: " ++ detail
  | .typeNotFound name => "type named " ++ name ++ " not found"
  | .columnNotFound name => "no column found for name: " ++ name
  | .io detail => "error communicating with database: " ++ detail
  | .tls detail => "error occurred while attempting to establish a TLS connection: " ++ detail
  | .encode detail => "error occurred while encoding a value: " ++ detail
  | .decode detail => "error occurred while decoding: " ++ detail
  | .driver detail => "error in Any driver mapping: " ++ detail
  | .configuration causes => "error with configuration: " ++ causes.headD ""

def behind : DatabaseFault → List String
  | .io detail | .tls detail | .encode detail | .decode detail | .driver detail => [detail]
  | .configuration causes => causes
  | _ => []

def causes (fault : DatabaseFault) : List String := fault.message :: fault.behind

end DatabaseFault

inductive Failure where
  | database (fault : DatabaseFault)
  | storage (message : String)
  | invalidInput (message : String)
  | notFound (message : String)
  | conflict (message : String)
  | payloadTooLarge (message : String)
  | internal (message : String)
  /-- An unexpected failure with everything that led to it, outermost first. -/
  | unexpected (causes : List String)
  | unauthorized (message : String)
  | forbidden (message : String)
deriving DecidableEq, Repr

namespace Failure

def kind : Failure → String
  | .database _ => "Database"
  | .storage _ => "Storage"
  | .invalidInput _ => "InvalidInput"
  | .notFound _ => "NotFound"
  | .conflict _ => "Conflict"
  | .payloadTooLarge _ => "PayloadTooLarge"
  | .internal _ | .unexpected _ => "Internal"
  | .unauthorized _ => "Unauthorized"
  | .forbidden _ => "Forbidden"

def message : Failure → String
  | .database fault => "Database error: " ++ fault.message
  | .storage m => "Storage error: " ++ m
  | .invalidInput m => "Invalid input: " ++ m
  | .notFound m => "Not found: " ++ m
  | .conflict m => "Conflict: " ++ m
  | .payloadTooLarge m => "Payload too large: " ++ m
  | .internal m => "Internal error: " ++ m
  | .unexpected _ => "Internal error with source"
  | .unauthorized m => "Unauthorized: " ++ m
  | .forbidden m => "Forbidden: " ++ m

def causes : Failure → List String
  | .database fault => fault.causes
  | .unexpected causes => causes
  | _ => []

def maxCauses : Nat := 5

def detailed (f : Failure) : String :=
  f.message ++ String.join ((f.causes.take maxCauses).map ("\n  Caused by: " ++ ·)) ++
    if maxCauses < f.causes.length then "\n  ... (truncated)" else ""

/-- How a kind of failure is presented. -/
structure Presentation where
  status : Nat
  code : String
  recoverable : Bool
  suggestion : String
  sensitive : Bool
  level : Log.Level
deriving DecidableEq, Repr

def retryLater : String := "Retry after a short delay"

def presentation : Failure → Presentation
  | .database _ => ⟨500, "DATABASE_ERROR", true, retryLater, true, .error⟩
  | .storage _ => ⟨500, "STORAGE_ERROR", true, retryLater, true, .error⟩
  | .invalidInput _ =>
    ⟨400, "INVALID_INPUT", false, "Check request parameters and try again", false, .debug⟩
  | .notFound _ => ⟨404, "NOT_FOUND", false, "Verify the resource ID exists", false, .debug⟩
  | .conflict _ => ⟨409, "CONFLICT", false, "Create a new configuration version", false, .warn⟩
  | .payloadTooLarge _ =>
    ⟨422, "PAYLOAD_TOO_LARGE", false, "Reduce the size of the configuration archive", false,
      .debug⟩
  | .internal _ | .unexpected _ => ⟨500, "INTERNAL_ERROR", true, retryLater, true, .error⟩
  | .unauthorized _ =>
    ⟨401, "UNAUTHORIZED", false, "Run `terraform login` to obtain a new token", false, .debug⟩
  | .forbidden _ =>
    ⟨403, "FORBIDDEN", false, "Ask a site administrator for access", false, .warn⟩

def clientMessage : Failure → String
  | .database _ => "Failed to access database"
  | .storage _ => "Failed to access storage"
  | .internal _ | .unexpected _ => "Internal server error"
  | .invalidInput m | .notFound m | .conflict m | .payloadTooLarge m | .unauthorized m
  | .forbidden m => m

def event (f : Failure) : Log.Event := ⟨f.presentation.level, "Error occurred"⟩

/-- The body of an answer; details are told only if asked for and not sensitive. -/
def body (f : Failure) (withDetails : Bool) : Json.Value :=
  let p := f.presentation
  let details :=
    if withDetails && !p.sensitive then
      [("details", Json.Value.string f.detailed), ("error_type", .string f.kind)]
    else []
  .object (("error", .string f.clientMessage) :: details ++
    [("code", .string p.code), ("recoverable", .bool p.recoverable),
      ("suggested_action", .string p.suggestion)])

/-- Whether a name of an environment means production, in any case of its letters. -/
def isProductionName (name : String) : Bool :=
  let name := Text.lowercase name
  name == "production" || name == "prod"

end Failure

end ConfigRegistry
