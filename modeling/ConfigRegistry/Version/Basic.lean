import ConfigRegistry.Failure
import ConfigRegistry.Time.Instant

/-!
Configuration versions: records about uploaded archives. A version starts as pending and moves once,
to uploaded or to errored; each move adds a timestamp, the oldest first.
-/
namespace ConfigRegistry

/-! Identifiers of resources: a kind, a hyphen and a suffix. -/

namespace ResourceId

def make (kind suffix : String) : String := kind ++ "-" ++ suffix

def alphabet : List Char := "ABCDEFGHIJKLMNOPQRSTUVWXYZabcdefghijklmnopqrstuvwxyz0123456789".toList

def suffixLength : Nat := 16

/-- The suffix for random numbers, each taken modulo the size of the alphabet. -/
def suffix (draws : List Nat) : String :=
  String.ofList ((draws.take suffixLength).map fun n => alphabet.getD (n % alphabet.length) 'A')

/-- The same suffix with another kind; an identifier without a hyphen is all suffix. -/
def convert (id kind : String) : String :=
  let chars := id.toList
  if '-' ∈ chars then make kind (String.ofList ((chars.dropWhile (· != '-')).drop 1))
  else make kind id

end ResourceId

/-! Versions. -/

namespace Version

inductive Status where
  | pending
  | uploaded
  | errored
deriving DecidableEq, Repr

namespace Status

def name : Status → String
  | .pending => "pending"
  | .uploaded => "uploaded"
  | .errored => "errored"

def all : List Status := [.pending, .uploaded, .errored]

def names : List (String × Status) := all.map fun s => (s.name, s)

def ofName? (s : String) : Option Status := names.lookup s

def isTerminal (s : Status) : Bool := s != .pending

/-- Only a pending version moves, and only to a terminal status. -/
def canBecome (s next : Status) : Bool := !s.isTerminal && next.isTerminal

end Status

inductive Source where
  | api
  | cli
deriving DecidableEq, Repr

namespace Source

def name : Source → String
  | .api => "api"
  | .cli => "terraform-cli"

def names : List (String × Source) := [Source.api, .cli].map fun s => (s.name, s)

def ofName? (s : String) : Option Source := names.lookup s

end Source

structure Timestamp where
  status : Status
  moment : Time.Instant
deriving DecidableEq, Repr

/-- The commit that a version was made from. -/
structure Ingress where
  commitSha : String
  commitUrl : String
deriving DecidableEq, Repr

/-- What a creator decides about a version. -/
structure Options where
  autoQueueRuns : Bool
  speculative : Bool
  source : Source
  ingress : Option Ingress
deriving DecidableEq, Repr

end Version

structure Version where
  id : String
  workspace : String
  status : Version.Status
  timestamps : List Version.Timestamp
  autoQueueRuns : Bool
  speculative : Bool
  source : Version.Source
  ingress : Option Version.Ingress
  createdAt : Time.Instant
deriving DecidableEq, Repr

namespace Version

def idKind : String := "cv"

def create (suffix workspace : String) (options : Options) (now : Time.Instant) : Version :=
  { id := ResourceId.make idKind suffix
    workspace
    status := .pending
    timestamps := [⟨.pending, now⟩]
    autoQueueRuns := options.autoQueueRuns
    speculative := options.speculative
    source := options.source
    ingress := options.ingress
    createdAt := now }

/-- Moves to another status and notes when: whether that was done, and the version behind it. -/
def transition (v : Version) (next : Status) (moment : Time.Instant) :
    Except Failure Unit × Version :=
  if v.status.canBecome next then
    (.ok (), { v with status := next, timestamps := v.timestamps ++ [⟨next, moment⟩] })
  else
    (.error (.conflict ("configuration version " ++ v.id ++ " is " ++ v.status.name ++
      " and cannot become " ++ next.name)), v)

def timestamp? (v : Version) (s : Status) : Option Time.Instant :=
  (v.timestamps.find? (·.status == s)).map (·.moment)

/-- Whether a version stands before another in a listing: newest first, then the greater id. -/
def precedes (v w : Version) : Bool :=
  w.createdAt.isBefore v.createdAt || (v.createdAt == w.createdAt && w.id ≤ v.id)

end Version

end ConfigRegistry
