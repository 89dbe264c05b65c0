import ConfigRegistry.Json.Value
import ConfigRegistry.Text.Printable

/-!
Reading values whose kind is known beforehand. A value of another kind is a problem that says what
was found and what was expected. A record is read from an object, by name and in any order, or from
a list, by position.
-/
namespace ConfigRegistry.Json

namespace Read

/-- Names the value that stands here instead of an expected one; lists and objects are not read. -/
def describeFound : Read (Option String) := do
  match ← peek with
  | none => return none
  | some b =>
    if b == 0x6e then
      eat
      Skip.letters Skip.afterN
      return some "null"
    else if b == 0x74 then
      eat
      Skip.letters Skip.afterT
      return some "boolean `true`"
    else if b == 0x66 then
      eat
      Skip.letters Skip.afterF
      return some "boolean `false`"
    else if b == 0x2d || Number.isDigit b then return some (← Number.read).describe
    else if b == 0x22 then
      eat
      return some ("string " ++ ConfigRegistry.Text.Quoted.encode (← Text.read))
    else if b == 0x5b then return some "sequence"
    else if b == 0x7b then return some "map"
    else return none

def mismatch {α : Type} (expected : String) : Read α := located do
  match ← describeFound with
  | some found => reject (.invalidType found expected)
  | none => failPeek .expectedValue

/-- The first byte of a value behind white space. -/
def first : Read UInt8 := do
  match ← peekPastBlank with
  | none => failPeek .eofValue
  | some b => return b

def boolean : Read Bool := located do
  let b ← first
  if b == 0x74 then
    eat
    Skip.letters Skip.afterT
    return true
  else if b == 0x66 then
    eat
    Skip.letters Skip.afterF
    return false
  else mismatch "a boolean"

def textAs (expected : String) : Read String := located do
  if (← first) == 0x22 then
    eat
    Text.read
  else mismatch expected

def text : Read String := textAs "a string"

/-- A text with a further reading; its refusal counts as a problem of the text. -/
def textBy {α : Type} (expected : String) (parse : String → Except String α) : Read α := located do
  match parse (← textAs expected) with
  | .ok a => return a
  | .error message => reject (.other message)

def wholeNumber {α : Type} (expected : String) (accept : Int → Option α) : Read α := located do
  let b ← first
  if b == 0x2d || Number.isDigit b then
    let n ← Number.read
    let accepted := match n with
      | .natural n => accept n
      | .negative n => accept n
      | .real _ => none
    match accepted, n with
    | some a, _ => return a
    | none, .real _ => reject (.invalidType n.describe expected)
    | none, _ => reject (.invalidValue n.describe expected)
  else mismatch expected

def natural (expected : String) (bound : Nat) : Read Nat :=
  wholeNumber expected fun n => if 0 ≤ n ∧ n ≤ bound then some n.toNat else none

def integer : Read Int :=
  wholeNumber "i64" fun n =>
    if -0x8000000000000000 ≤ n ∧ n < 0x8000000000000000 then some n else none

def optional {α : Type} (r : Read α) : Read (Option α) := do
  if (← peekPastBlank) == some 0x6e then
    eat
    Skip.letters Skip.afterN
    return none
  else return some (← r)

def nothing : Read Unit := located do
  if (← first) == 0x6e then
    eat
    Skip.letters Skip.afterN
  else mismatch "unit"

def list {α : Type} (item : Read α) : Read (List α) := located do
  if (← first) == 0x5b then
    eat
    (readItems item).closedBy closeList
  else mismatch "a sequence"

def choices (names : List String) : String :=
  let ticked := names.map fun n => "`" ++ n ++ "`"
  match ticked with
  | [] => "nothing"
  | [a] => a
  | [a, b] => a ++ " or " ++ b
  | _ => "one of " ++ String.intercalate ", " ticked

def variantName {α : Type} (variants : List (String × α)) : Read α := located do
  let name ← textAs "variant identifier"
  match variants.lookup name with
  | some a => return a
  | none => reject (.unknownVariant name (choices (variants.map Prod.fst)))

/-- One of several names, alone or as the name of the only member, whose value is null. -/
def variant {α : Type} (variants : List (String × α)) : Read α := do
  match ← peekPastBlank with
  | none => failPeek .eofValue
  | some b =>
    if b == 0x22 then variantName variants
    else if b == 0x7b then
      eat
      let a ← variantName variants
      readColon
      nothing
      match ← peekPastBlank with
      | none => fail .eofObject
      | some b =>
        if b == 0x7d then
          eat
          return a
        else fail .expectedValue
    else failPeek .expectedValue

end Read

/-- A field of a record: its name, the reader of its value, and what stands in for it where an
object or a list ends without it. -/
structure Field (α : Type) where
  name : String
  read : Read α
  absent : Option α
  beyond : Option α

namespace Field

def required {α : Type} (name : String) (read : Read α) : Field α := ⟨name, read, none, none⟩

def optional {α : Type} (name : String) (read : Read α) : Field (Option α) :=
  ⟨name, read.optional, some none, none⟩

def defaulted {α : Type} (name : String) (read : Read α) (value : α) : Field α :=
  ⟨name, read, some value, some value⟩

end Field

/-- The fields of a record in order. -/
inductive Fields : List Type → Type 1 where
  | nil : Fields []
  | cons {α : Type} {types : List Type} (f : Field α) (rest : Fields types) : Fields (α :: types)

@[reducible] def Row : List Type → Type
  | [] => Unit
  | α :: types => α × Row types

@[reducible] def Slots : List Type → Type
  | [] => Unit
  | α :: types => Option α × Slots types

def Slots.empty : (types : List Type) → Slots types
  | [] => ()
  | _ :: types => (none, Slots.empty types)

namespace Fields

def count : {types : List Type} → Fields types → Nat
  | _, .nil => 0
  | _, .cons _ rest => rest.count + 1

/-- Reads the value of a named member into its slot; an unknown one is passed over. -/
def readMember (name : String) : {types : List Type} → Fields types → Slots types →
    Read (Slots types)
  | _, .nil, slots => do
    readColon
    Skip.value
    return slots
  | _, .cons f rest, (slot, slots) =>
    if f.name = name then
      match slot with
      | some _ => Read.reject (.duplicateField name)
      | none => do
        readColon
        return (some (← f.read), slots)
    else do
      return (slot, ← rest.readMember name slots)

def complete : {types : List Type} → Fields types → Slots types → Read (Row types)
  | _, .nil, () => return ()
  | _, .cons f rest, (slot, slots) => do
    match slot.or f.absent with
    | none => Read.reject (.missingField f.name)
    | some a => return (a, ← rest.complete slots)

def readObject {types : List Type} (fields : Fields types) : Read (Row types) := do
  let slots ← Read.iterate
    (fun (state : Bool × Slots types) => do
      if ← hasMember state.1 then
        return .inl (false, ← fields.readMember (← readName) state.2)
      else return .inr state.2)
    (true, Slots.empty types)
  fields.complete slots

/-- Reads the values by position; a list that ends early is refused where nothing stands in. -/
def readList (expected : String) (position : Nat) : {types : List Type} → Fields types →
    Read (Row types)
  | _, .nil => return ()
  | _, .cons f rest => do
    if ← hasItem (position = 0) then
      return (← f.read, ← rest.readList expected (position + 1))
    else
      match f.beyond with
      | none => Read.reject (.invalidLength position expected)
      | some a => return (a, ← rest.readList expected (position + 1))

def record {types : List Type} (name : String) (fields : Fields types) : Read (Row types) :=
  Read.located do
    let b ← Read.first
    if b == 0x5b then
      Read.eat
      (fields.readList ("struct " ++ name ++ " with " ++ toString fields.count ++
        (if fields.count = 1 then " element" else " elements")) 0).closedBy closeList
    else if b == 0x7b then
      Read.eat
      fields.readObject.closedBy closeObject
    else Read.mismatch ("struct " ++ name)

end Fields

end ConfigRegistry.Json
