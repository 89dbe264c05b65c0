/-!
Bodies of requests, which arrive in frames. A body is read up to a number of bytes; the first frame
that goes beyond it, or that breaks off, decides what comes of the whole.
-/
namespace ConfigRegistry.Http

/-- A part of a body: bytes, fields behind the bytes, or the reason why no more arrives. -/
inductive Frame where
  | data (bytes : ByteArray)
  | trailers
  | broken (reason : String)

abbrev Body := List Frame

/-- Why a body is not read to its end. -/
inductive BodyFault where
  | tooLarge
  | broken (reason : String)
deriving DecidableEq, Repr

namespace Body

def readBehind (limit : Nat) (read : ByteArray) : Body → Except BodyFault ByteArray
  | [] => .ok read
  | .data bytes :: rest =>
    if limit < read.size + bytes.size then .error .tooLarge
    else readBehind limit (read ++ bytes) rest
  | .trailers :: rest => readBehind limit read rest
  | .broken reason :: _ => .error (.broken reason)

def read (limit : Nat) (b : Body) : Except BodyFault ByteArray := readBehind limit .empty b

end Body

end ConfigRegistry.Http
