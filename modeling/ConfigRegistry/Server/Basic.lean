import ConfigRegistry.Http.Route
import ConfigRegistry.Service.Run
import ConfigRegistry.Settings.Basic
import ConfigRegistry.Signing
import ConfigRegistry.Token.Ledger

/-!
What the server is made of, what a request meets, and what comes of it.
-/
namespace ConfigRegistry.Server

/-- What does not change while the server runs. -/
structure App where
  settings : Settings
  /-- Whether answers about failures tell details. -/
  withDetails : Bool

def App.ofEnvironment (s : Settings) (env : Settings.Environment) : App := ⟨s, !env.isProduction⟩

def App.secret (a : App) : List UInt8 := Coding.Utf8.encode a.settings.secret

def App.signer (a : App) : Signing.Signer := .ofSecret a.secret

structure State where
  world : Service.World
  tokens : Ledger

def State.empty : State := ⟨.empty, []⟩

/-- What a request meets: the time, what is drawn at random, and what is out of order. -/
structure Occasion where
  now : Time.Instant
  requestId : Uuid
  suffix : String
  nonce : List UInt8
  token : Ledger.Draws
  /-- The unique part of the name of a file. -/
  mark : String
  outages : Outages

/-- What comes of a request. -/
structure Exchange where
  response : Http.Response
  state : State
  events : List Log.Event

namespace Exchange

def pure (s : State) (r : Http.Response) (events : List Log.Event) : Exchange := ⟨r, s, events⟩

def failed (a : App) (s : State) (f : Failure) : Exchange :=
  ⟨.ofFailure a.withDetails f, s, [f.event]⟩

def after (events : List Log.Event) (e : Exchange) : Exchange :=
  { e with events := events ++ e.events }

def mapResponse (f : Http.Response → Http.Response) (e : Exchange) : Exchange :=
  { e with response := f e.response }

end Exchange

/-- The greatest sizes of bodies that are read whole. -/
def maxBody : Nat := 2097152
def maxSmallBody : Nat := 1048576

def lengthExceeded : String := "length limit exceeded"

/-- How much of the body of a request is read whole. Where bodies are small, the stated length is a
bound as well. -/
def bodyLimit (route : Http.Route) (h : Http.Headers) : Nat :=
  if route.takesSmallBodies then min maxSmallBody ((h.number? "content-length").getD maxSmallBody)
  else maxBody

def readBody (limit : Nat) (b : Http.Body) : Except Http.Response ByteArray :=
  let refuse := fun status reason =>
    Except.error (Http.Response.text status ("Failed to buffer the request body: " ++ reason))
  match b.read limit with
  | .ok bytes => .ok bytes
  | .error .tooLarge => refuse 413 lengthExceeded
  | .error (.broken reason) => refuse 400 reason

end ConfigRegistry.Server
