import ConfigRegistry.Server.Basic

/-!
The health of the server. The store of records decides whether the server is ready; one of archives
that is out of order makes it degraded. A store that does not answer in time counts as out of order.
-/
namespace ConfigRegistry.Server.Health

def healthy : String := "healthy"
def timeout : String := "timeout"

def store (o : Outages) : String :=
  match o.ofStore .health with
  | some (.fail f) => "unhealthy: " ++ f.message
  | some .hang => timeout
  | _ => healthy

def archives (o : Outages) (blobs : Blob.Store) : String :=
  match o.ofBlobs .exists, blobs.contains Blob.probeKey with
  | some (.fail fault), _ => "degraded: " ++ fault.message
  | some .hang, _ => timeout
  | _, .error fault => "degraded: " ++ fault.message
  | _, .ok _ => healthy

def report (status store archives : String) : Json.Value :=
  .object [("status", .string status), ("store", .string store), ("storage", .string archives)]

def answer (o : Outages) (blobs : Blob.Store) : Http.Response × List Log.Event :=
  let store := store o
  let archives := archives o blobs
  if store ≠ healthy then
    (.json 503 (report "unhealthy" store archives), [⟨.error, "Health check failed"⟩])
  else if archives ≠ healthy then
    (.json 200 (report "degraded" store archives), [⟨.warn, "Blob cache degraded"⟩])
  else (.json 200 (report healthy store archives), [])

end ConfigRegistry.Server.Health
