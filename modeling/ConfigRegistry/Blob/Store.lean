import ConfigRegistry.Blob.Directory
import ConfigRegistry.Table

/-!
A store of archives, in memory or in a directory. Storing is all or nothing, and removing an archive
that is not there is no fault.
-/
namespace ConfigRegistry.Blob

inductive Store where
  | memory (archives : Table ByteArray)
  | directory (d : Directory)

namespace Store

def empty : Store := .memory .empty

/-- Stores an archive under a key; only a directory needs the mark of a unique name. -/
def put (s : Store) (key : String) (data : ByteArray) (mark : String) :
    Except Fault Unit × Store × List Log.Event :=
  match s with
  | .memory archives => (.ok (), .memory (archives.insert key data), [])
  | .directory d =>
    match d.put key data mark with
    | (.ok (), d) => (.ok (), .directory d, [⟨.info, "Local storage put successful"⟩])
    | (.error fault, d) => (.error fault, .directory d, [])

def get (s : Store) (key : String) : Except Fault ByteArray × List Log.Event :=
  match s with
  | .memory archives =>
    match archives.get? key with
    | some data => (.ok data, [])
    | none => (.error (.notFound key), [])
  | .directory d =>
    match d.get key with
    | .ok data => (.ok data, [⟨.debug, "Local storage get successful"⟩])
    | .error fault => (.error fault, [])

def delete (s : Store) (key : String) : Except Fault Unit × Store × List Log.Event :=
  match s with
  | .memory archives => (.ok (), .memory (archives.erase key), [])
  | .directory d =>
    match d.delete key with
    | .ok (removed, d) =>
      (.ok (), .directory d,
        if removed then [⟨.info, "Local storage delete successful"⟩] else [])
    | .error fault => (.error fault, .directory d, [])

def contains (s : Store) (key : String) : Except Fault Bool :=
  match s with
  | .memory archives => .ok (archives.contains key)
  | .directory d => d.contains key

end Store

end ConfigRegistry.Blob
