import ConfigRegistry.Blob.FileTree
import ConfigRegistry.Blob.Key

/-!
Archives kept as files below a directory. An archive is written to a file beside its final one and
then given the final name, so that a reader sees a whole archive or none.
-/
namespace ConfigRegistry.Blob

/-- A tree of files and the directory in it that holds the archives. -/
structure Directory where
  base : String
  tree : FileTree

namespace Directory

def make (base : String) (tree : FileTree) : Except Fault Directory :=
  match tree.makeDirectoryPath base with
  | (.ok (), tree) => .ok ⟨base, tree⟩
  | (.error fault, _) =>
    .error (.config ("Failed to create storage directory " ++ base ++ ": " ++ fault.message))

def hasDots : List Char → Bool
  | '.' :: '.' :: _ => true
  | _ :: rest => hasDots rest
  | [] => false

/-- Keys name places below the directory: they are not empty, start with no slash and hold no two
dots in a row. -/
def isKey (key : String) : Bool :=
  !key.isEmpty && !hasDots key.toList && !key.startsWith "/"

def join (base key : String) : String :=
  if base.isEmpty || base.endsWith "/" then base ++ key else base ++ "/" ++ key

def path (d : Directory) (key : String) : Except Fault String :=
  if isKey key then .ok (join d.base key)
  else .error (.invalidKey "Storage key contains invalid characters")

/-- The last name of a path, in reverse, without its extension. -/
def stem (reversed : List Char) : List Char :=
  let name := reversed.takeWhile (· != '/')
  let cut := (name.dropWhile (· != '.')).drop 1
  if cut.isEmpty then name else cut

/-- The path with another extension of its last name; a path that ends in dots has no such name. -/
def withExtension (path extension : String) : String :=
  let reversed := FileTree.dropTrailing path.toList.reverse
  let parents := reversed.dropWhile (· != '/')
  let name := String.ofList (reversed.takeWhile (· != '/')).reverse
  if name.isEmpty || FileTree.isDots name then path
  else String.ofList ((stem reversed ++ parents).reverse) ++ "." ++ extension

def temporaryPath (path mark : String) : String := withExtension path ("tmp-" ++ mark)

/-- Stores an archive; the mark makes the name of the file that is written first unique. -/
def put (d : Directory) (key : String) (data : ByteArray) (mark : String) :
    Except Fault Unit × Directory :=
  match d.path key with
  | .error fault => (.error fault, d)
  | .ok path =>
    match d.tree.makeDirectoryPath ((FileTree.parentPath? path).getD "") with
    | (.error fault, tree) => (.error (.io fault.message), { d with tree })
    | (.ok (), tree) =>
      let temporary := temporaryPath path mark
      match tree.write temporary data with
      | .error fault =>
        (.error (.uploadFailed ("Failed to create file " ++ temporary ++ ": " ++ fault.message)),
          { d with tree })
      | .ok written =>
        match written.rename temporary path with
        | .ok renamed => (.ok (), { d with tree := renamed })
        | .error fault =>
          (.error (.uploadFailed ("Failed to move " ++ path ++ " into place: " ++ fault.message)),
            { d with tree := ((written.removeFile temporary).toOption).getD written })

def get (d : Directory) (key : String) : Except Fault ByteArray := do
  let path ← d.path key
  if !d.tree.exists? path then throw (.notFound key)
  match d.tree.read path with
  | .ok data => return data
  | .error fault =>
    throw (.downloadFailed ("Failed to read file " ++ path ++ ": " ++ fault.message))

def delete (d : Directory) (key : String) : Except Fault (Bool × Directory) := do
  let path ← d.path key
  if !d.tree.exists? path then return (false, d)
  match d.tree.removeFile path with
  | .ok tree => return (true, { d with tree })
  | .error fault =>
    throw (.deleteFailed ("Failed to delete file " ++ path ++ ": " ++ fault.message))

def contains (d : Directory) (key : String) : Except Fault Bool := do
  return d.tree.exists? (← d.path key)

def files (d : Directory) : List String :=
  match d.tree.find d.base with
  | .ok (root, _) => (d.tree.filesBelow root).map (String.intercalate "/")
  | .error _ => []

end Directory

end ConfigRegistry.Blob
