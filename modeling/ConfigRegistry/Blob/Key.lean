import ConfigRegistry.Failure

/-!
Keys of archives, and the faults of the stores that keep them. The identifier in a key consists of
letters, digits, hyphens and underscores, so a key is a path of two ordinary names.
-/
namespace ConfigRegistry.Blob

/-- Why a store of archives does not do what it is asked. -/
inductive Fault where
  | uploadFailed (message : String)
  | downloadFailed (message : String)
  | deleteFailed (message : String)
  | notFound (message : String)
  | invalidKey (message : String)
  | io (message : String)
  | config (message : String)
deriving DecidableEq, Repr

namespace Fault

def kind : Fault → String
  | .uploadFailed _ => "UploadFailed"
  | .downloadFailed _ => "DownloadFailed"
  | .deleteFailed _ => "DeleteFailed"
  | .notFound _ => "NotFound"
  | .invalidKey _ => "InvalidKey"
  | .io _ => "IoError"
  | .config _ => "ConfigError"

def message : Fault → String
  | .uploadFailed m => "Upload failed: " ++ m
  | .downloadFailed m => "Download failed: " ++ m
  | .deleteFailed m => "Delete failed: " ++ m
  | .notFound m => "File not found: " ++ m
  | .invalidKey m => "Invalid storage key: " ++ m
  | .io m => "IO error: " ++ m
  | .config m => "Configuration error: " ++ m

def toFailure : Fault → Failure
  | .notFound m => .notFound m
  | .uploadFailed m | .downloadFailed m | .deleteFailed m => .storage m
  | .invalidKey m => .invalidInput m
  | .io m => .storage ("IO error: " ++ m)
  | .config m => .internal m

end Fault

def isIdChar (c : Char) : Bool := c.isAlphanum || c == '-' || c == '_'

def isId (id : String) : Bool := !id.isEmpty && id.toList.all isIdChar

def keyOf (id : String) : Except Fault String :=
  if isId id then .ok ("configs/" ++ id ++ ".tar.gz")
  else .error (.invalidKey ("invalid configuration version id: " ++ id))

/-- A key under which nothing is ever kept, by which the health of a store is checked. -/
def probeKey : String := "configs/health-check-non-existent-key"

end ConfigRegistry.Blob
