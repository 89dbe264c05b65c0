import ConfigRegistry.Blob.Key
import ConfigRegistry.Failure

/-!
What is out of order in the stores that the registry works with. An access that is out of order
fails before it has any effect.
-/
namespace ConfigRegistry

namespace Store

/-- The ways in which the store of records is used. -/
inductive Access where
  | create
  | get
  | latest
  | list
  | delete
  | transition
  | health
deriving DecidableEq, Repr

/-- What happens instead of an access: a failure, an answer that there is nothing, or no answer. -/
inductive Outage where
  | fail (f : Failure)
  | missing
  | hang
deriving DecidableEq, Repr

end Store

namespace Blob

/-- The ways in which the store of archives is used. -/
inductive Access where
  | put
  | get
  | delete
  | exists
deriving DecidableEq, Repr

/-- What happens to an access: a fault, a number of pauses before it, or no answer. -/
inductive Outage where
  | fail (f : Fault)
  | pause (times : Nat)
  | hang
deriving DecidableEq, Repr

end Blob

/-- Everything that is out of order. -/
structure Outages where
  store : List (Store.Access × Store.Outage)
  blobs : List (Blob.Access × Blob.Outage)
  tokens : Option Failure
deriving Repr

namespace Outages

def none : Outages := ⟨[], [], .none⟩

def ofStore (o : Outages) (access : Store.Access) : Option Store.Outage := o.store.lookup access

def ofBlobs (o : Outages) (access : Blob.Access) : Option Blob.Outage := o.blobs.lookup access

def blobFault? (o : Outages) (access : Blob.Access) : Option Blob.Fault :=
  match o.ofBlobs access with
  | some (.fail f) => some f
  | _ => .none

def pauses (o : Outages) (access : Blob.Access) : Nat :=
  match o.ofBlobs access with
  | some (.pause times) => times
  | _ => 0

end Outages

end ConfigRegistry
