import ConfigRegistry.Json.Cursor
import ConfigRegistry.Json.Shortest

/-!
Numbers of JSON: whole numbers of 64 bits are exact, all others are floating point. The significand
takes digits as long as 64 bits hold it; the power of ten is applied afterwards.
-/
namespace ConfigRegistry.Json

/-- A number as it was written: a natural number below 2^64, a negative one not below -2^63, or a
floating-point number. -/
inductive Number where
  | natural (n : Nat)
  | negative (n : Int)
  | real (x : Float)

namespace Number

def isDigit (b : UInt8) : Bool := 0x30 ≤ b && b ≤ 0x39

/-- Takes digits into the significand as long as it stays below 2^64; also counts the digits
taken and those left over. -/
def absorb (significand taken : Nat) : List UInt8 → Nat × Nat × Nat
  | [] => (significand, taken, 0)
  | d :: rest =>
    let next := significand * 10 + (d.toNat - 0x30)
    if next < UInt64.size then absorb next (taken + 1) rest
    else (significand, taken, rest.length + 1)

def powerOfTen (n : Nat) : Float := Float.ofScientific 1 false n

/-- Divides by a power of ten in steps that floating point can hold. -/
def shrink (f : Float) (n : Nat) : Float :=
  if n ≤ 308 then f / powerOfTen n
  else if f == 0 then f
  else shrink (f / powerOfTen 308) (n - 308)
termination_by n
decreasing_by omega

/-- The significand times a power of ten, or nothing if that is too large. -/
def scale? (significand : Nat) (exponent : Int) : Option Float :=
  let f := significand.toUInt64.toFloat
  if exponent < 0 then some (shrink f (-exponent).toNat)
  else if exponent ≤ 308 then
    let product := f * powerOfTen exponent.toNat
    if product.isInf then none else some product
  else if significand = 0 then some f
  else none

def signed (positive : Bool) (f : Float) : Float := if positive then f else -f

def finish (positive : Bool) (significand : Nat) (exponent : Int) : Read Number :=
  match scale? significand exponent with
  | some f => return .real (signed positive f)
  | none => Read.fail .numberOutOfRange

def readExponentDigits (exponent : Nat) : Nat → Read (Nat × Bool)
  | 0 => return (exponent, false)
  | fuel + 1 => do
    match ← Read.peek with
    | none => return (exponent, false)
    | some b =>
      if isDigit b then
        Read.eat
        let next := exponent * 10 + (b.toNat - 0x30)
        if next < 0x80000000 then readExponentDigits next fuel else return (next, true)
      else return (exponent, false)

def readExponent (positive : Bool) (significand : Nat) (start : Int) : Read Number := do
  Read.eat
  let sign ← Read.peek
  if sign == some 0x2b || sign == some 0x2d then Read.eat
  let up := sign != some 0x2d
  match ← Read.next with
  | none => Read.fail .eofValue
  | some b =>
    if !isDigit b then Read.fail .invalidNumber
    let (exponent, passed) ← readExponentDigits (b.toNat - 0x30) (← Read.remaining)
    if passed then
      if significand != 0 && up then Read.fail .numberOutOfRange
      let _ ← Read.run isDigit
      return .real (signed positive 0)
    else finish positive significand (if up then start + exponent else start - exponent)

def isExponentMark (b : Option UInt8) : Bool := b == some 0x65 || b == some 0x45

def readFraction (positive : Bool) (significand : Nat) (start : Int) : Read Number := do
  Read.eat
  let digits ← Read.run isDigit
  if digits.isEmpty then
    match ← Read.peek with
    | none => Read.failPeek .eofValue
    | some _ => Read.failPeek .invalidNumber
  let (significand, taken, _) := absorb significand 0 digits
  if isExponentMark (← Read.peek) then readExponent positive significand (start - taken)
  else finish positive significand (start - taken)

/-- A whole number; one that does not fit, and negative zero, is floating point. -/
def whole (positive : Bool) (significand : Nat) : Number :=
  if positive then .natural significand
  else if significand = 0 ∨ 0x8000000000000000 < significand then
    .real (-significand.toUInt64.toFloat)
  else .negative (-significand)

def readUnsigned (positive : Bool) : Read Number := do
  match ← Read.next with
  | none => Read.fail .eofValue
  | some b =>
    if !isDigit b then Read.fail .invalidNumber
    let digits ← if b == 0x30 then pure [] else Read.run isDigit
    let after ← Read.peek
    if b == 0x30 && after.any isDigit then Read.failPeek .invalidNumber
    let (significand, _, left) := absorb (b.toNat - 0x30) 0 digits
    if after == some 0x2e then readFraction positive significand left
    else if isExponentMark after then readExponent positive significand left
    else if left = 0 then return whole positive significand
    else finish positive significand left

def read : Read Number := do
  if (← Read.peek) == some 0x2d then
    Read.eat
    readUnsigned false
  else readUnsigned true

/-- Digits with a point: positional while the first digit stands at most sixteen places before the
point or five behind it, with an exponent otherwise. -/
def renderDecimal (d : Shortest.Decimal) : String :=
  let digits := Nat.toDigits 10 d.digits
  let point : Int := digits.length + d.exponent
  if 0 ≤ d.exponent ∧ point ≤ 16 then
    String.ofList (digits ++ List.replicate d.exponent.toNat '0') ++ ".0"
  else if 0 < point ∧ point ≤ 16 then
    String.ofList (digits.take point.toNat ++ '.' :: digits.drop point.toNat)
  else if -5 < point ∧ point ≤ 0 then
    "0." ++ String.ofList (List.replicate (-point).toNat '0' ++ digits)
  else
    let mantissa := if digits.length ≤ 1 then digits else digits.take 1 ++ '.' :: digits.drop 1
    String.ofList mantissa ++ "e" ++ toString (point - 1)

def renderReal (x : Float) : String :=
  let bits := x.toBits
  let sign := if bits >>> 63 == 1 then "-" else ""
  let magnitude := bits &&& 0x7fffffffffffffff
  if magnitude == 0 then sign ++ "0.0"
  else sign ++ renderDecimal (Shortest.ofBinary (.ofBits magnitude))

def render : Number → String
  | .natural n => toString n
  | .negative n => toString n
  | .real x => renderReal x

def describe : Number → String
  | .real x => "floating point `" ++ renderReal x ++ "`"
  | n => "integer `" ++ n.render ++ "`"

end Number

end ConfigRegistry.Json
