import ConfigRegistry.Coding.Hex
import ConfigRegistry.Coding.Utf8
import ConfigRegistry.Json.Cursor

/-!
Strings of JSON. Writing escapes quotes, backslashes and control characters; reading also accepts
the other escapes, and a character beyond the first plane as a pair of surrogates.
-/
namespace ConfigRegistry.Json.Text

def controlEscape (c : Char) : List Char :=
  ['\\', 'u', '0', '0', Coding.Hex.digit (c.toNat / 16), Coding.Hex.digit (c.toNat % 16)]

def escapeChar (c : Char) : List Char :=
  if c = '"' then ['\\', '"']
  else if c = '\\' then ['\\', '\\']
  else if c = '\x08' then ['\\', 'b']
  else if c = '\x0c' then ['\\', 'f']
  else if c = '\n' then ['\\', 'n']
  else if c = '\r' then ['\\', 'r']
  else if c = '\t' then ['\\', 't']
  else if c.toNat < 0x20 then controlEscape c
  else [c]

def quote (s : String) : String := String.ofList ('"' :: s.toList.flatMap escapeChar ++ ['"'])

/-- Bytes that stand for themselves inside a string. -/
def isPlain (b : UInt8) : Bool := b != 0x22 && b != 0x5c && 0x20 ≤ b

/-- The characters up to the next quote, backslash, control character or end. Wrong UTF-8 is
reported at its first byte, but not before the run is known to end inside the string. -/
def readRun : Read (List Char) := fun c =>
  let bytes := c.rest.takeWhile isPlain
  let after := c.advanceBy bytes.length
  match after.rest with
  | [] => .ok [] after
  | b :: _ =>
    if b < 0x20 then .ok [] after
    else
      match Coding.Utf8.fault? bytes with
      | none => .ok (Coding.Utf8.decodeLossy bytes) after
      | some fault => Read.fail .invalidCodePoint (c.advanceBy (fault.index + 1))

def hexValue (acc : Nat) : List UInt8 → Option Nat
  | [] => some acc
  | b :: rest => do hexValue (16 * acc + (← Coding.Hex.value? (Char.ofNat b.toNat))) rest

def readHex : Read Nat := fun c =>
  let digits := c.rest.take 4
  let after := c.advanceBy digits.length
  if digits.length < 4 then Read.fail .eofString after
  else
    match hexValue 0 digits with
    | some n => .ok n after
    | none => Read.fail .invalidEscape after

def isLeadingSurrogate (n : Nat) : Bool := 0xd800 ≤ n && n ≤ 0xdbff

def isTrailingSurrogate (n : Nat) : Bool := 0xdc00 ≤ n && n ≤ 0xdfff

def readPairByte (expected : UInt8) : Read Unit := do
  match ← Read.next with
  | none => Read.fail .eofString
  | some b => if b != expected then Read.fail .unexpectedEndOfHexEscape

def readNumbered : Read Char := do
  let n ← readHex
  if isTrailingSurrogate n then Read.fail .loneSurrogate
  if !isLeadingSurrogate n then return Char.ofNat n
  readPairByte 0x5c
  readPairByte 0x75
  let m ← readHex
  if !isTrailingSurrogate m then Read.fail .loneSurrogate
  return Char.ofNat (0x10000 + (n - 0xd800) * 0x400 + (m - 0xdc00))

def plainEscape? (b : UInt8) : Option Char :=
  match b with
  | 0x22 => some '"'
  | 0x5c => some '\\'
  | 0x2f => some '/'
  | 0x62 => some '\x08'
  | 0x66 => some '\x0c'
  | 0x6e => some '\n'
  | 0x72 => some '\r'
  | 0x74 => some '\t'
  | _ => none

def readEscape : Read Char := do
  match ← Read.next with
  | none => Read.fail .eofString
  | some b =>
    match plainEscape? b with
    | some c => return c
    | none => if b == 0x75 then readNumbered else Read.fail .invalidEscape

def step (s : String) : Read (String ⊕ String) := do
  let s := s ++ String.ofList (← readRun)
  match ← Read.next with
  | none => Read.fail .eofString
  | some 0x22 => return .inr s
  | some 0x5c => return .inl (s.push (← readEscape))
  | some _ => Read.fail .controlCharacter

def read : Read String := Read.iterate step ""

def skipEscape : Read Unit := do
  match ← Read.next with
  | none => Read.fail .eofString
  | some b =>
    if (plainEscape? b).isSome then return ()
    else if b == 0x75 then let _ ← readHex
    else Read.fail .invalidEscape

def skipStep (_ : Unit) : Read (Unit ⊕ Unit) := do
  let _ ← Read.run isPlain
  match ← Read.peek with
  | none => Read.fail .eofString
  | some 0x22 => return .inr (← Read.eat)
  | some 0x5c =>
    Read.eat
    return .inl (← skipEscape)
  | some _ => Read.fail .controlCharacter

/-- Passes over the string behind an opening quote without looking at its characters. -/
def skip : Read Unit := Read.iterate skipStep ()

end ConfigRegistry.Json.Text
