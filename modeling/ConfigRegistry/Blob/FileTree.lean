import ConfigRegistry.Text.Split

/-!
A tree of files and directories, as far as storing archives depends on it. Paths are texts; they are
looked up name by name from the root or from the working directory. Every operation either changes
the tree as it says or leaves it as it was.
-/
namespace ConfigRegistry.Blob

/-- Why an operation on files fails. -/
inductive FileFault where
  | noEntry
  | busy
  | exists
  | notDirectory
  | isDirectory
  | nameTooLong
  | nul
deriving DecidableEq, Repr

def FileFault.message : FileFault → String
  | .noEntry => "No such file or directory (os error 2)"
  | .busy => "Device or resource busy (os error 16)"
  | .exists => "File exists (os error 17)"
  | .notDirectory => "Not a directory (os error 20)"
  | .isDirectory => "Is a directory (os error 21)"
  | .nameTooLong => "File name too long (os error 36)"
  | .nul => "file name contained an unexpected NUL byte"

inductive FileNode where
  | file (data : ByteArray)
  | directory

/-- The names on the way from the root to a node. -/
abbrev Place := List String

structure FileTree where
  /-- Every node but the root, which is a directory. -/
  nodes : List (Place × FileNode)
  /-- Where paths without a slash at their start begin. -/
  working : Place

namespace FileTree

def node? (t : FileTree) (p : Place) : Option FileNode :=
  if p = [] then some .directory else t.nodes.lookup p

def set (t : FileTree) (p : Place) (n : FileNode) : FileTree :=
  { t with nodes := (p, n) :: t.nodes.filter (·.1 != p) }

def remove (t : FileTree) (p : Place) : FileTree :=
  { t with nodes := t.nodes.filter (·.1 != p) }

/-- A path as its names; a name of one dot stays, and a slash at the end counts as one. -/
structure Route where
  absolute : Bool
  names : List String
  trailing : Bool
deriving DecidableEq, Repr

def maxName : Nat := 255
def maxPath : Nat := 4095

def namesOf (path : String) : List String := (Text.split '/' path).filter (!·.isEmpty)

def Route.ofPath (path : String) : Except FileFault Route :=
  if '\x00' ∈ path.toList then .error .nul
  else if path.isEmpty then .error .noEntry
  else if maxPath < path.utf8ByteSize then .error .nameTooLong
  else .ok ⟨path.startsWith "/", namesOf path, path.endsWith "/"⟩

def enter (t : FileTree) (p : Place) (name : String) : Except FileFault Place :=
  match t.node? p with
  | none => .error .noEntry
  | some (.file _) => .error .notDirectory
  | some .directory =>
    if maxName < name.utf8ByteSize then .error .nameTooLong
    else if name = "." then .ok p
    else if name = ".." then .ok p.dropLast
    else .ok (p ++ [name])

def start (t : FileTree) (r : Route) : Place := if r.absolute then [] else t.working

def find (t : FileTree) (path : String) : Except FileFault (Place × FileNode) := do
  let r ← Route.ofPath path
  let names := if r.trailing then r.names ++ ["."] else r.names
  let p ← names.foldlM t.enter (t.start r)
  match t.node? p with
  | none => throw .noEntry
  | some n => return (p, n)

/-- The directory that holds the last name of a path, and that name. -/
def findParent (t : FileTree) (path : String) : Except FileFault (Place × String × Bool) := do
  let r ← Route.ofPath path
  let last := r.names.getLast?.getD "."
  let p ← r.names.dropLast.foldlM t.enter (t.start r)
  match t.node? p with
  | none => throw .noEntry
  | some (.file _) => throw .notDirectory
  | some .directory =>
    if maxName < last.utf8ByteSize then throw .nameTooLong
    return (p, last, r.trailing)

def isDots (name : String) : Bool := name = "." || name = ".."

def exists? (t : FileTree) (path : String) : Bool := (t.find path).toOption.isSome

def isDirectory (t : FileTree) (path : String) : Bool :=
  match t.find path with
  | .ok (_, .directory) => true
  | _ => false

def makeDirectory (t : FileTree) (path : String) : Except FileFault FileTree := do
  let (p, last, _) ← t.findParent path
  if isDots last || (t.node? (p ++ [last])).isSome then throw .exists
  return t.set (p ++ [last]) .directory

/-- Drops slashes, and names of one dot behind a slash, from the end of reversed characters. -/
def dropTrailing : List Char → List Char
  | '/' :: rest => dropTrailing rest
  | '.' :: '/' :: rest => dropTrailing ('/' :: rest)
  | l => l

/-- The path in front of its last name; a dot that is not at the start does not count as a name. -/
def parentPath? (path : String) : Option String :=
  let reversed := dropTrailing path.toList.reverse
  let parents := dropTrailing (reversed.dropWhile (· != '/'))
  if reversed.isEmpty then none
  else if parents.isEmpty && path.startsWith "/" then some "/"
  else some (String.ofList parents.reverse)

/-- Makes a directory and those above it that are missing. Directories that were made stay when a
later one fails. -/
def makeDirectories : Nat → FileTree → String → Except FileFault Unit × FileTree
  | 0, t, _ => (.error .noEntry, t)
  | fuel + 1, t, path =>
    if path.isEmpty then (.ok (), t)
    else
      match t.makeDirectory path with
      | .ok t' => (.ok (), t')
      | .error fault =>
        if t.isDirectory path then (.ok (), t)
        else if fault ≠ .noEntry then (.error fault, t)
        else
          match parentPath? path with
          | none => (.error .noEntry, t)
          | some parent =>
            match makeDirectories fuel t parent with
            | (.error fault, t') => (.error fault, t')
            | (.ok (), t') =>
              match t'.makeDirectory path with
              | .ok t'' => (.ok (), t'')
              | .error fault => if t'.isDirectory path then (.ok (), t') else (.error fault, t')

def makeDirectoryPath (t : FileTree) (path : String) : Except FileFault Unit × FileTree :=
  makeDirectories (path.length + 1) t path

def write (t : FileTree) (path : String) (data : ByteArray) : Except FileFault FileTree := do
  let (p, last, trailing) ← t.findParent path
  if isDots last || trailing then throw .isDirectory
  match t.node? (p ++ [last]) with
  | some .directory => throw .isDirectory
  | _ => return t.set (p ++ [last]) (.file data)

def read (t : FileTree) (path : String) : Except FileFault ByteArray := do
  match ← t.find path with
  | (_, .file data) => return data
  | (_, .directory) => throw .isDirectory

def rename (t : FileTree) (source target : String) : Except FileFault FileTree := do
  let (sp, slast, _) ← t.findParent source
  let (tp, tlast, trailing) ← t.findParent target
  if isDots slast || isDots tlast then throw .busy
  match t.node? (sp ++ [slast]) with
  | none => throw .noEntry
  | some .directory => throw .isDirectory
  | some (.file data) =>
    if trailing then throw .notDirectory
    match t.node? (tp ++ [tlast]) with
    | some .directory => throw .isDirectory
    | _ => return (t.remove (sp ++ [slast])).set (tp ++ [tlast]) (.file data)

def removeFile (t : FileTree) (path : String) : Except FileFault FileTree := do
  let (p, last, trailing) ← t.findParent path
  if isDots last then throw .isDirectory
  match t.node? (p ++ [last]) with
  | none => throw .noEntry
  | some .directory => throw .isDirectory
  | some (.file _) =>
    if trailing then throw .notDirectory
    return t.remove (p ++ [last])

def filesBelow (t : FileTree) (root : Place) : List Place :=
  t.nodes.filterMap fun (p, n) =>
    match n with
    | .directory => none
    | .file _ => if root.isPrefixOf p then some (p.drop root.length) else none

end FileTree

end ConfigRegistry.Blob
