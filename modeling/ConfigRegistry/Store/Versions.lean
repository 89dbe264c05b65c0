import ConfigRegistry.Page
import ConfigRegistry.Table
import ConfigRegistry.Version.Basic

/-!
The records of versions, each under its own identifier. A refused operation leaves all records as
they were.
-/
namespace ConfigRegistry

abbrev Versions := Table Version

namespace Versions

def duplicate (id : String) : Failure :=
  .conflict ("configuration version " ++ id ++ " already exists")

def missing (id : String) : Failure :=
  .notFound ("configuration version " ++ id ++ " not found")

/-- Adds a version: whether that was done, and the records behind it. -/
def create (vs : Versions) (v : Version) : Except Failure Unit × Versions :=
  if vs.contains v.id then (.error (duplicate v.id), vs) else (.ok (), vs.insert v.id v)

def listing (vs : Versions) (workspace : String) : List Version :=
  (vs.values.filter (·.workspace == workspace)).mergeSort Version.precedes

def latest? (vs : Versions) (workspace : String) : Option Version := (vs.listing workspace).head?

def page (vs : Versions) (workspace : String) (o : Page.Options) : Page Version :=
  .ofItems (vs.listing workspace) o

/-- Moves a version to another status, in its place: the version, and the records behind it. -/
def transition (vs : Versions) (id : String) (next : Version.Status) (moment : Time.Instant) :
    Except Failure Version × Versions :=
  match vs.get? id with
  | none => (.error (missing id), vs)
  | some v =>
    let (outcome, moved) := v.transition next moment
    (outcome.map fun () => moved, vs.insert id moved)

end Versions

end ConfigRegistry
