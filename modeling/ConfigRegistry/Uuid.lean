import ConfigRegistry.Coding.Hex
import ConfigRegistry.Coding.Utf8

/-!
Universally unique identifiers. They are written in five groups of small hexadecimal digits; a
text may also omit the hyphens, or wrap the hyphenated form in braces or in a URN.
-/
namespace ConfigRegistry

structure Uuid where
  bytes : List UInt8
  length_bytes : bytes.length = 16
deriving DecidableEq, Repr

namespace Uuid

/-- Why a text is no identifier; positions and groups are counted from zero. -/
inductive Fault where
  | character (c : Char) (position : Nat)
  | length (found : Nat)
  | groupCount (found : Nat)
  | groupLength (group expected found : Nat)
deriving DecidableEq, Repr

def Fault.message : Fault → String
  | .character c position =>
    "invalid character: found `" ++ String.singleton c ++ "` at " ++ toString position
  | .length found => "invalid length: found " ++ toString found
  | .groupCount found => "invalid group count: expected 5, found " ++ toString found
  | .groupLength group expected found =>
    "invalid group length in group " ++ toString group ++ ": expected " ++ toString expected ++
      ", found " ++ toString found

def ofBytes? (bytes : List UInt8) : Option Uuid :=
  if h : bytes.length = 16 then some ⟨bytes, h⟩ else none

def ofRandom (bytes : List UInt8) : Uuid :=
  let padded := (bytes ++ List.replicate 16 0).take 16
  ⟨(padded.modify 6 fun b => (b &&& 0x0f) ||| 0x40).modify 8 fun b => (b &&& 0x3f) ||| 0x80,
    by simp [padded]⟩

def render (u : Uuid) : String :=
  let group := fun i n => Coding.Hex.encode ((u.bytes.drop i).take n)
  group 0 4 ++ "-" ++ group 4 2 ++ "-" ++ group 6 2 ++ "-" ++ group 8 2 ++ "-" ++ group 10 6

def groupLengths : List Nat := [8, 4, 4, 4, 12]

def groups : List Char → List (List Char)
  | [] => [[]]
  | c :: rest =>
    if c = '-' then [] :: groups rest
    else
      match groups rest with
      | [] => [[c]]
      | first :: others => (c :: first) :: others

/-- Takes the wrapping off; the second part says how long it is at the start. -/
def unwrap (l : List Char) : List Char × Nat × Bool :=
  match l with
  | '\x7b' :: inner =>
    if inner.getLast? = some '\x7d' then (inner.dropLast, 1, false) else (l, 0, true)
  | 'u' :: 'r' :: 'n' :: ':' :: 'u' :: 'u' :: 'i' :: 'd' :: ':' :: inner => (inner, 9, false)
  | _ => (l, 0, true)

/-- The first character that is neither a digit nor a hyphen, with its byte position. -/
def badCharacter? (position : Nat) : List Char → Option (Char × Nat)
  | [] => none
  | c :: rest =>
    if c = '-' ∨ (Coding.Hex.value? c).isSome then badCharacter? (position + 1) rest
    else some (c, position)

/-- The first of the first four groups that has a wrong length. -/
def badGroup? (group : Nat) : List Nat → List (List Char) → Option Fault
  | expected :: lengths, g :: gs =>
    if g.length = expected then badGroup? (group + 1) lengths gs
    else some (.groupLength group expected g.length)
  | _, _ => none

def explain (l : List Char) : Fault :=
  let (inner, start, bare) := unwrap l
  match badCharacter? start inner with
  | some (c, position) => .character c position
  | none =>
    let gs := groups inner
    if gs.length = 1 ∧ bare then .length l.length
    else if gs.length ≠ 5 then .groupCount gs.length
    else
      match badGroup? 0 (groupLengths.take 4) (gs.take 4) with
      | some fault => fault
      | none => .groupLength 4 12 (l.length - 24)

def parseChars (l : List Char) : Except Fault Uuid :=
  let (inner, _, bare) := unwrap l
  let gs := groups inner
  let digits :=
    if gs.map List.length = groupLengths then some gs.flatten
    else if bare ∧ gs.length = 1 then some inner
    else none
  match (digits.bind Coding.Hex.decodeDigits).bind ofBytes? with
  | some u => .ok u
  | none => .error (explain l)

def parse (s : String) : Except Fault Uuid := parseChars s.toList

end Uuid

end ConfigRegistry
