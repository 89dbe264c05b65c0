/-!
Reading bytes from left to right with line and column. A read either moves the cursor and answers,
or stops with a problem and leaves the cursor where it stopped.
-/
namespace ConfigRegistry.Json

/-- The bytes still to be read, how many they are, and the place of the last one read. -/
structure Cursor where
  rest : List UInt8
  left : Nat
  line : Nat
  column : Nat
  left_eq : left = rest.length

def Cursor.start (bytes : List UInt8) : Cursor := ⟨bytes, bytes.length, 1, 0, rfl⟩

/-- The cursor behind the next byte; a line feed starts a line at column zero. -/
def Cursor.advance (c : Cursor) : Cursor :=
  match c with
  | ⟨[], _, _, _, _⟩ => c
  | ⟨b :: rest, left, line, column, h⟩ =>
    have h : left - 1 = rest.length := by simp [h]
    if b = 0x0a then ⟨rest, left - 1, line + 1, 0, h⟩ else ⟨rest, left - 1, line, column + 1, h⟩

def Cursor.advanceBy (c : Cursor) : Nat → Cursor
  | 0 => c
  | n + 1 => c.advance.advanceBy n

/-- Why reading stops. -/
inductive Cause where
  | eofList
  | eofObject
  | eofString
  | eofValue
  | expectedColon
  | expectedListCommaOrEnd
  | expectedObjectCommaOrEnd
  | expectedIdent
  | expectedValue
  | invalidEscape
  | invalidNumber
  | numberOutOfRange
  | invalidCodePoint
  | controlCharacter
  | keyMustBeString
  | loneSurrogate
  | trailingComma
  | trailingCharacters
  | unexpectedEndOfHexEscape
  | recursionLimit
  | invalidType (found expected : String)
  | invalidValue (found expected : String)
  | invalidLength (found : Nat) (expected : String)
  | missingField (name : String)
  | duplicateField (name : String)
  | unknownVariant (found expected : String)
  | other (text : String)
deriving DecidableEq, Repr

def Cause.message : Cause → String
  | .eofList => "EOF while parsing a list"
  | .eofObject => "EOF while parsing an object"
  | .eofString => "EOF while parsing a string"
  | .eofValue => "EOF while parsing a value"
  | .expectedColon => "expected `:`"
  | .expectedListCommaOrEnd => "expected `,` or `]`"
  | .expectedObjectCommaOrEnd => "expected `,` or `\x7d`"
  | .expectedIdent => "expected ident"
  | .expectedValue => "expected value"
  | .invalidEscape => "invalid escape"
  | .invalidNumber => "invalid number"
  | .numberOutOfRange => "number out of range"
  | .invalidCodePoint => "invalid unicode code point"
  | .controlCharacter => "control character (\\u0000-\\u001F) found while parsing a string"
  | .keyMustBeString => "key must be a string"
  | .loneSurrogate => "lone leading surrogate in hex escape"
  | .trailingComma => "trailing comma"
  | .trailingCharacters => "trailing characters"
  | .unexpectedEndOfHexEscape => "unexpected end of hex escape"
  | .recursionLimit => "recursion limit exceeded"
  | .invalidType found expected => "invalid type: " ++ found ++ ", expected " ++ expected
  | .invalidValue found expected => "invalid value: " ++ found ++ ", expected " ++ expected
  | .invalidLength found expected =>
    "invalid length " ++ toString found ++ ", expected " ++ expected
  | .missingField name => "missing field `" ++ name ++ "`"
  | .duplicateField name => "duplicate field `" ++ name ++ "`"
  | .unknownVariant found expected =>
    "unknown variant `" ++ found ++ "`, expected " ++ expected
  | .other text => text

/-- A cause and, once it is known, the line and column it is reported at. -/
structure Problem where
  cause : Cause
  place : Option (Nat × Nat)
deriving DecidableEq, Repr

def Problem.message (p : Problem) : String :=
  match p.place with
  | none => p.cause.message
  | some (line, column) =>
    p.cause.message ++ " at line " ++ toString line ++ " column " ++ toString column

abbrev Read := EStateM Problem Cursor

namespace Read

def peek : Read (Option UInt8) := fun c => .ok c.rest.head? c

def eat : Read Unit := fun c => .ok () c.advance

def next : Read (Option UInt8) := fun c => .ok c.rest.head? c.advance

/-- Stops at the place of the last byte read. -/
def fail {α : Type} (cause : Cause) : Read α := fun c =>
  .error ⟨cause, some (c.line, c.column)⟩ c

/-- Stops at the place of the byte that would be read next. -/
def failPeek {α : Type} (cause : Cause) : Read α := fun c =>
  .error ⟨cause, some (c.advance.line, c.advance.column)⟩ c

/-- Stops without a place, which an enclosing read fills in. -/
def reject {α : Type} (cause : Cause) : Read α := fun c => .error ⟨cause, none⟩ c

/-- Gives a problem without a place the place where reading stopped. -/
def located {α : Type} (r : Read α) : Read α := fun c =>
  match r c with
  | .ok a c' => .ok a c'
  | .error p c' => .error ⟨p.cause, p.place.or (some (c'.line, c'.column))⟩ c'

/-- Runs the closing read whether or not the first one answered; the first problem counts. -/
def closedBy {α : Type} (r : Read α) (close : Read Unit) : Read α := fun c =>
  match r c with
  | .ok a c' =>
    match close c' with
    | .ok _ c'' => .ok a c''
    | .error p c'' => .error p c''
  | .error p c' =>
    match close c' with
    | .ok _ c'' => .error p c''
    | .error _ c'' => .error p c''

def run (p : UInt8 → Bool) : Read (List UInt8) := fun c =>
  let taken := c.rest.takeWhile p
  .ok taken (c.advanceBy taken.length)

def isBlank (b : UInt8) : Bool := b == 0x20 || b == 0x0a || b == 0x09 || b == 0x0d

/-- Skips white space and looks at the byte behind it. -/
def peekPastBlank : Read (Option UInt8) := do
  let _ ← run isBlank
  peek

/-- How many bytes are left, which bounds every loop. -/
def remaining : Read Nat := fun c => .ok c.left c

/-- Repeats a step until it answers; each step is to read at least one byte. -/
def loop {σ α : Type} (step : σ → Read (σ ⊕ α)) : Nat → σ → Read α
  | 0, _ => fail .eofValue
  | fuel + 1, s => do
    match ← step s with
    | .inl s => loop step fuel s
    | .inr a => return a

/-- Repeats a step as often as there are bytes to read, and once more. -/
def iterate {σ α : Type} (step : σ → Read (σ ⊕ α)) (s : σ) : Read α := do
  loop step ((← remaining) + 1) s

def all {α : Type} (r : Read α) (bytes : List UInt8) : Except Problem α :=
  let whole : Read α := do
    let a ← r
    match ← peekPastBlank with
    | none => return a
    | some _ => failPeek .trailingCharacters
  match whole (.start bytes) with
  | .ok a _ => .ok a
  | .error p _ => .error p

end Read

end ConfigRegistry.Json
