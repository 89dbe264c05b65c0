import ConfigRegistry.Json.Number
import ConfigRegistry.Json.Text

/-!
Passing over a value that nobody asked for. It is checked for its form, but neither for the range
of its numbers nor for its depth.
-/
namespace ConfigRegistry.Json.Skip

/-- What encloses the value being passed over. -/
inductive Frame where
  | list
  | object
deriving DecidableEq, Repr

def Frame.close : Frame → UInt8
  | .list => 0x5d
  | .object => 0x7d

def Frame.eof : Frame → Cause
  | .list => .eofList
  | .object => .eofObject

def Frame.expectedEnd : Frame → Cause
  | .list => .expectedListCommaOrEnd
  | .object => .expectedObjectCommaOrEnd

def letters : List UInt8 → Read Unit
  | [] => return ()
  | expected :: rest => do
    match ← Read.next with
    | none => Read.fail .eofValue
    | some b => if b == expected then letters rest else Read.fail .expectedIdent

/-- The letters behind the first one of the words that stand for a value. -/
def afterN : List UInt8 := [0x75, 0x6c, 0x6c]
def afterT : List UInt8 := [0x72, 0x75, 0x65]
def afterF : List UInt8 := [0x61, 0x6c, 0x73, 0x65]

def exponent : Read Unit := do
  Read.eat
  let sign ← Read.peek
  if sign == some 0x2b || sign == some 0x2d then Read.eat
  let first ← Read.next
  if !first.any Number.isDigit then Read.fail .invalidNumber
  let _ ← Read.run Number.isDigit

def fraction : Read Unit := do
  Read.eat
  let digits ← Read.run Number.isDigit
  if digits.isEmpty then Read.failPeek .invalidNumber
  if Number.isExponentMark (← Read.peek) then exponent

def number : Read Unit := do
  match ← Read.next with
  | some 0x30 => if (← Read.peek).any Number.isDigit then Read.failPeek .invalidNumber
  | some b =>
    if !Number.isDigit b then Read.fail .invalidNumber
    let _ ← Read.run Number.isDigit
  | none => Read.fail .invalidNumber
  let after ← Read.peek
  if after == some 0x2e then fraction
  else if Number.isExponentMark after then exponent

/-- Passes over a value without parts, or opens one with parts. -/
def opening : Read (Option Frame) := do
  match ← Read.peekPastBlank with
  | none => Read.failPeek .eofValue
  | some b =>
    if b == 0x6e then
      Read.eat
      letters afterN
      return none
    else if b == 0x74 then
      Read.eat
      letters afterT
      return none
    else if b == 0x66 then
      Read.eat
      letters afterF
      return none
    else if b == 0x2d then
      Read.eat
      number
      return none
    else if Number.isDigit b then
      number
      return none
    else if b == 0x22 then
      Read.eat
      Text.skip
      return none
    else if b == 0x5b then
      Read.eat
      return some .list
    else if b == 0x7b then
      Read.eat
      return some .object
    else Read.failPeek .expectedValue

/-- Closes frames until another value follows; an empty stack says that all is passed. A comma may
follow a value, not an opening bracket. -/
def closing (state : Bool × List Frame) : Read ((Bool × List Frame) ⊕ List Frame) := do
  match state.2 with
  | [] => return .inr []
  | frame :: outer =>
    match ← Read.peekPastBlank with
    | none => Read.failPeek frame.eof
    | some b =>
      if state.1 && b == 0x2c then
        Read.eat
        return .inr (frame :: outer)
      else if b == frame.close then
        Read.eat
        return .inl (true, outer)
      else if state.1 then Read.failPeek frame.expectedEnd
      else return .inr (frame :: outer)

def key : Read Unit := do
  match ← Read.peekPastBlank with
  | none => Read.failPeek .eofObject
  | some b =>
    if b != 0x22 then Read.failPeek .keyMustBeString
    Read.eat
    Text.skip
  match ← Read.peekPastBlank with
  | none => Read.failPeek .eofObject
  | some b => if b == 0x3a then Read.eat else Read.failPeek .expectedColon

def step (stack : List Frame) : Read (List Frame ⊕ Unit) := do
  let state := match ← opening with
    | some frame => (false, frame :: stack)
    | none => (true, stack)
  match ← Read.iterate closing state with
  | [] => return .inr ()
  | frame :: outer =>
    if frame = .object then key
    return .inl (frame :: outer)

def value : Read Unit := Read.iterate step []

end ConfigRegistry.Json.Skip
