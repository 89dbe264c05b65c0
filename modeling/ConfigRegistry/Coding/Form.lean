import ConfigRegistry.Coding.Hex
import ConfigRegistry.Coding.Utf8

/-!
Pairs in the form encoding of the web: pieces joined by ampersands, a name and a value joined by
the first equals sign, spaces as plus signs, all else percent-encoded.
-/
namespace ConfigRegistry.Coding.Form

/-- Letters, digits and four signs are written as they are. -/
def keeps (b : UInt8) : Bool :=
  (0x30 ≤ b && b ≤ 0x39) || (0x41 ≤ b && b ≤ 0x5a) || (0x61 ≤ b && b ≤ 0x7a) ||
  b == 0x2a || b == 0x2d || b == 0x2e || b == 0x5f

def encodeByte (b : UInt8) : List UInt8 :=
  if b == 0x20 then [0x2b] else if keeps b then [b] else Percent.escape b

def encodeText (s : String) : List UInt8 := (Utf8.encode s).flatMap encodeByte

def encodePair (pair : String × String) : List UInt8 :=
  encodeText pair.1 ++ 0x3d :: encodeText pair.2

def encode (pairs : List (String × String)) : List UInt8 :=
  List.intercalate [0x26] (pairs.map encodePair)

def decodeText (bytes : List UInt8) : String :=
  Utf8.lossy (Percent.decode (bytes.map fun b => if b == 0x2b then 0x20 else b))

/-- A piece with no equals sign is a name with an empty value. -/
def decodePair (piece : List UInt8) : String × String :=
  (decodeText (piece.takeWhile (· != 0x3d)), decodeText ((piece.dropWhile (· != 0x3d)).drop 1))

def splitOn (mark : UInt8) (bytes : List UInt8) : List (List UInt8) :=
  bytes.foldr
    (fun b pieces => if b == mark then [] :: pieces else
      match pieces with
      | [] => [[b]]
      | first :: others => (b :: first) :: others)
    [[]]

def decode (bytes : List UInt8) : List (String × String) :=
  ((splitOn 0x26 bytes).filter (!·.isEmpty)).map decodePair

end ConfigRegistry.Coding.Form
