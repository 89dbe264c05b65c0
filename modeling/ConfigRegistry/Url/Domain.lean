import ConfigRegistry.Text.Composed
import ConfigRegistry.Url.Direction
import ConfigRegistry.Url.DomainMap
import ConfigRegistry.Url.Joiner
import ConfigRegistry.Url.Punycode

/-!
Domains in their plain form. Characters are mapped and composed; a label that then holds other than
plain characters is written in its encoded form, and an encoded label has to stand for what would be
encoded that way.
-/
namespace ConfigRegistry.Url.Domain

open Text

def isBarred (c : Char) : Bool :=
  c.toNat ≤ 0x20 || c.toNat == 0x7f || c ∈ "#%/:<>?@[\\]^|".toList

def isPlain (c : Char) : Bool := c.toNat < 0x80

def encodedMark : List Char := "xn--".toList

def isEncoded (label : List Char) : Bool := encodedMark.isPrefixOf label

def markRanges : Ranges := Ranges.ofText
  "300 6f 114 6 108 2c 2 0 2 1 2 1 2 0 49 a 31 14 11 0 66 6 3 5 3 1 2 3 24 0 1f 1a 5c a 3b 8 a 0
    19 3 2 8 2 2 2 4 2c 2 3d 7 2b 17 2 20 37 2 2 11 2 6 b 1 1e 2 39 0 2 6 3 1 3 2 a 0 b 1 1b 0 3 2
    39 0 2 4 5 1 3 2 4 0 1f 1 4 0 c 2 39 0 2 7 2 2 2 2 15 1 17 5 2 2 39 0 2 6 3 1 3 2 8 2 b 1 1f 0
    3c 4 4 2 2 3 a 0 29 4 38 0 2 6 2 2 2 3 8 1 c 1 1e 2 39 0 2 6 2 2 2 3 8 1 c 1 10 0 d 3 38 1 2 6
    2 2 2 3 a 0 b 1 1e 2 47 0 5 5 2 0 2 7 13 1 3e 0 3 6 d 7 63 0 3 8 c 6 4a 1 1c 0 2 0 2 0 5 1 32
    13 2 1 6 a 2 23 a 0 65 13 18 3 5 2 2 2 3 6 4 3 e b 2 0 b 3 2c0 2 3b3 3 1d 2 1e 1 1f 1 41 1f a 0
    2e 2 2 0 76 1 23 0 77 b 5 b dc 4 3a 9 2 1c 3 0 31 1e 32 4 30 10 27 8 d 2 1f c 39 d 31 13 99 2 2
    14 5 0 7 0 3 2 c7 3f 2d1 20 bff 2 8e 0 61 1f 22b 5 6a 1 75d5 3 2 9 21 1 51 1 111 0 4 0 5 0 18 4
    5 0 54 1 33 11 1b 11 e 0 27 7 1a c 2d 3 30 d 25 0 44 d d 0 9 1 2e 2 33 0 2 2 3 1 6 1 2 0 2a 4 6
    1 ed 7 2 1 4f31 0 2e2 f 11 f 3ce 0 e3 0 96 4 687 2 2 1 6 3 29 2 5 0 a6 1 23e 3 184 1 51 2 47 a
    32 3 7b 2 36 e 2a 0 3 1 b 3 2e a 8 0 3e 2 25 d 11 1 2d 0 d 2 31 d 9 3 2 1 5d b 7 0 3 0 9e b 16
    3 38 1 2 6 3 1 3 2 a 0 b 1 3 6 4 4 c1 11 18 0 52 13 ec 6 3 8 1c 1 53 10 6b c 66 e 101 e f6 5 2
    1 3 3 2 0 2 1 8e 6 3 6 4 0 1d 9 29 6 2 3 9 0 a a 2f f 196 7 2 7 53 15 2 d 7b 5 4 0 2 1 2 6 2 0
    43 4 2 1 2 4 15c 3 a 1 2 0 31 6 4 4 14fe 0 7 e 369b 4 3c 6 419 0 2 36 8 3 52 0 c 1 4cac 1 1262
    2d 3 16 21f 4 4 5 9 7 3 6 1f 3 95 2 7bc 36 5 31 9 0 f 0 17 4 2 e 551 6 2 10 3 6 2 1 2 4 65 0 a1
    6 178 0 3e 3 1fd 3 3e1 6 6e 6 c17b6 ef"

def labels : List Char → List (List Char)
  | [] => [[]]
  | c :: rest =>
    if c = '.' then [] :: labels rest
    else
      match labels rest with
      | [] => [[c]]
      | first :: others => (c :: first) :: others

def mapped? (l : List Char) : Option (List Char) :=
  (l.mapM domainText?).map fun texts => composed texts.flatten

/-- The characters that a label shows; those of an encoded one do not all belong to the plain
alphabet and stand for themselves. -/
def shown? (label : List Char) : Option (List Char) :=
  if isEncoded label then
    match Punycode.decode? (label.drop encodedMark.length) with
    | none => none
    | some l => if l.all isPlain || mapped? l != some l then none else some l
  else some label

def isWellFormed (label : List Char) : Bool :=
  !(label.head?.any fun c => markRanges.contains c.toNat) && joinersFit [] label

def directionsAgree (labels : List (List Char)) : Bool :=
  let directions := labels.map (·.map Direction.ofChar)
  !(directions.any (·.any Direction.turns)) || directions.all Direction.agree

def plainLabel? (label : List Char) : Option (List Char) :=
  if label.all isPlain then some label
  else (Punycode.encode? label).map fun digits => encodedMark ++ digits

def toPlain? (l : List Char) : Option (List Char) :=
  match mapped? l with
  | none => none
  | some l =>
    match (labels l).mapM shown? with
    | none => none
    | some labels =>
      if l.any isBarred || !labels.all isWellFormed || !directionsAgree labels then none
      else (labels.mapM plainLabel?).map (List.intercalate ['.'])

end ConfigRegistry.Url.Domain
