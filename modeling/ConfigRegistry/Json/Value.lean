import ConfigRegistry.Json.Skip

/-!
Values of JSON and their compact text. A reader keeps the members of an object sorted by name, and
the last of several with one name.
-/
namespace ConfigRegistry.Json

inductive Value where
  | null
  | bool (b : Bool)
  | number (n : Number)
  | string (s : String)
  | array (items : List Value)
  | object (members : List (String × Value))

namespace Value

def natural (n : Nat) : Value := .number (.natural n)

def integer (n : Int) : Value :=
  if n < 0 then .number (.negative n) else .number (.natural n.toNat)

def optional {α : Type} (f : α → Value) : Option α → Value
  | none => .null
  | some a => f a

def member? (name : String) : Option Value → List (String × Value)
  | none => []
  | some v => [(name, v)]

mutual

def render : Value → String
  | .null => "null"
  | .bool true => "true"
  | .bool false => "false"
  | .number n => n.render
  | .string s => Text.quote s
  | .array items => "[" ++ renderItems items ++ "]"
  | .object members => "\x7b" ++ renderMembers members ++ "\x7d"

def renderItems : List Value → String
  | [] => ""
  | [v] => render v
  | v :: w :: rest => render v ++ "," ++ renderItems (w :: rest)

def renderMembers : List (String × Value) → String
  | [] => ""
  | [(name, v)] => Text.quote name ++ ":" ++ render v
  | (name, v) :: m :: rest => Text.quote name ++ ":" ++ render v ++ "," ++ renderMembers (m :: rest)

end

def get? (v : Value) (name : String) : Option Value :=
  match v with
  | .object members => members.lookup name
  | _ => none

/-- Puts a member in its place by name; it replaces one of its name. -/
def insertMember (name : String) (v : Value) : List (String × Value) → List (String × Value)
  | [] => [(name, v)]
  | (other, w) :: rest =>
    if name < other then (name, v) :: (other, w) :: rest
    else if name = other then (name, v) :: rest
    else (other, w) :: insertMember name v rest

def sortMembers (members : List (String × Value)) : List (String × Value) :=
  members.foldl (fun sorted m => insertMember m.1 m.2 sorted) []

mutual

def canonical : Value → Value
  | .array items => .array (canonicalItems items)
  | .object members => .object (sortMembers (canonicalMembers members))
  | v => v

def canonicalItems : List Value → List Value
  | [] => []
  | v :: rest => canonical v :: canonicalItems rest

def canonicalMembers : List (String × Value) → List (String × Value)
  | [] => []
  | (name, v) :: rest => (name, canonical v) :: canonicalMembers rest

end

end Value

/-- Whether another item of a list follows; the first one follows no comma. -/
def hasItem (first : Bool) : Read Bool := do
  match ← Read.peekPastBlank with
  | none => Read.failPeek .eofList
  | some b =>
    if b == 0x5d then return false
    else if first then return true
    else if b == 0x2c then
      Read.eat
      match ← Read.peekPastBlank with
      | none => Read.failPeek .eofValue
      | some b => if b == 0x5d then Read.failPeek .trailingComma else return true
    else Read.failPeek .expectedListCommaOrEnd

def hasMember (first : Bool) : Read Bool := do
  match ← Read.peekPastBlank with
  | none => Read.failPeek .eofObject
  | some b =>
    if b == 0x7d then return false
    else if first then
      if b == 0x22 then return true else Read.failPeek .keyMustBeString
    else if b == 0x2c then
      Read.eat
      match ← Read.peekPastBlank with
      | none => Read.failPeek .eofValue
      | some b =>
        if b == 0x22 then return true
        else if b == 0x7d then Read.failPeek .trailingComma
        else Read.failPeek .keyMustBeString
    else Read.failPeek .expectedObjectCommaOrEnd

def readName : Read String := do
  Read.eat
  Text.read

def readColon : Read Unit := do
  match ← Read.peekPastBlank with
  | none => Read.failPeek .eofObject
  | some b => if b == 0x3a then Read.eat else Read.failPeek .expectedColon

def closeList : Read Unit := do
  match ← Read.peekPastBlank with
  | none => Read.failPeek .eofList
  | some b =>
    if b == 0x5d then Read.eat
    else if b == 0x2c then
      Read.eat
      if (← Read.peekPastBlank) == some 0x5d then Read.failPeek .trailingComma
      else Read.failPeek .trailingCharacters
    else Read.failPeek .trailingCharacters

def closeObject : Read Unit := do
  match ← Read.peekPastBlank with
  | none => Read.failPeek .eofObject
  | some b =>
    if b == 0x7d then Read.eat
    else if b == 0x2c then Read.failPeek .trailingComma
    else Read.failPeek .trailingCharacters

def readItems {α : Type} (item : Read α) : Read (List α) :=
  Read.iterate
    (fun (found : List α) => do
      if ← hasItem found.isEmpty then return .inl ((← item) :: found)
      else return .inr found.reverse)
    []

def readMembers {α : Type} (item : Read α) : Read (List (String × α)) :=
  Read.iterate
    (fun (found : List (String × α)) => do
      if ← hasMember found.isEmpty then
        let name ← readName
        readColon
        return .inl ((name, ← item) :: found)
      else return .inr found.reverse)
    []

def readValueWith (deeper : Option (Read Value)) : Read Value := Read.located do
  match ← Read.peekPastBlank with
  | none => Read.failPeek .eofValue
  | some b =>
    if b == 0x6e then
      Read.eat
      Skip.letters Skip.afterN
      return .null
    else if b == 0x74 then
      Read.eat
      Skip.letters Skip.afterT
      return .bool true
    else if b == 0x66 then
      Read.eat
      Skip.letters Skip.afterF
      return .bool false
    else if b == 0x2d || Number.isDigit b then return .number (← Number.read)
    else if b == 0x22 then
      Read.eat
      return .string (← Text.read)
    else if b == 0x5b || b == 0x7b then
      match deeper with
      | none => Read.failPeek .recursionLimit
      | some item =>
        Read.eat
        if b == 0x5b then return .array (← (readItems item).closedBy closeList)
        else return .object (← (readMembers item).closedBy closeObject)
    else Read.failPeek .expectedValue

/-- Reads a value of at most the given depth. -/
def readValue : Nat → Read Value
  | 0 => readValueWith none
  | depth + 1 => readValueWith (some (readValue depth))

def maxDepth : Nat := 127

def Value.parse (bytes : List UInt8) : Except Problem Value :=
  ((readValue maxDepth).all bytes).map Value.canonical

end ConfigRegistry.Json
