import ConfigRegistry.Text.Blank
import ConfigRegistry.Text.Decimal
import ConfigRegistry.Time.Instant

/-!
Moments as text: date, time and offset. Writing always uses the offset zero and the shortest of
none, three, six or nine digits of a second. Reading is more lenient: it allows white space before
numbers and signs, a space between date and time, years of any length behind a sign, and any offset.
-/
namespace ConfigRegistry.Time.Rfc3339

/-- Why a text is no moment. -/
inductive Fault where
  | tooShort
  | tooLong
  | invalid
  | outOfRange
  | impossible
deriving DecidableEq, Repr

def Fault.message : Fault → String
  | .tooShort => "premature end of input"
  | .tooLong => "trailing input"
  | .invalid => "input contains invalid characters"
  | .outOfRange => "input is out of range"
  | .impossible => "no possible date and time matching input"

def yearText (year : Int) : String :=
  if 0 ≤ year ∧ year ≤ 9999 then Text.Decimal.padded 4 year.toNat
  else (if year < 0 then "-" else "+") ++ Text.Decimal.padded 4 year.natAbs

def fractionText (nanos : Nat) : String :=
  if nanos = 0 then ""
  else if nanos % 1000000 = 0 then "." ++ Text.Decimal.padded 3 (nanos / 1000000)
  else if nanos % 1000 = 0 then "." ++ Text.Decimal.padded 6 (nanos / 1000)
  else "." ++ Text.Decimal.padded 9 nanos

def render (t : Instant) : String :=
  let date := Date.ofDays (t.seconds / Instant.secondsPerDay)
  let second := (t.seconds % Instant.secondsPerDay).toNat
  let leap := 1000000000 ≤ t.nanos
  let two := Text.Decimal.padded 2
  yearText date.year ++ "-" ++ two date.month ++ "-" ++ two date.day ++ "T" ++
    two (second / 3600) ++ ":" ++ two (second / 60 % 60) ++ ":" ++
    two (second % 60 + if leap then 1 else 0) ++
    fractionText (if leap then t.nanos - 1000000000 else t.nanos) ++ "Z"

/-- Reads a first digit and more of them, up to a number of digits and below 2^63. -/
def digits (count : Option Nat) (acc : Nat) (l : List Char) : Except Fault (Nat × List Char) :=
  match l with
  | [] => .ok (acc, [])
  | c :: rest =>
    if count = some 0 then .ok (acc, c :: rest)
    else
      match Text.Decimal.digit? c with
      | none => .ok (acc, c :: rest)
      | some d =>
        if acc * 10 + d < 0x8000000000000000 then digits (count.map (· - 1)) (acc * 10 + d) rest
        else .error .outOfRange

def number (count : Option Nat) (l : List Char) : Except Fault (Nat × List Char) :=
  match l with
  | [] => .error .tooShort
  | c :: _ => if (Text.Decimal.digit? c).isNone then .error .invalid else digits count 0 l

def skipBlank (l : List Char) : List Char := l.dropWhile Text.isBlank

def part (low high : Nat) (l : List Char) : Except Fault (Nat × List Char) := do
  let (n, rest) ← number (some 2) (skipBlank l)
  if low ≤ n ∧ n ≤ high then return (n, rest) else throw .outOfRange

/-- Four digits without a sign, any number of them behind one. -/
def yearPart (l : List Char) : Except Fault (Int × List Char) := do
  let (year, rest) ← match skipBlank l with
    | '-' :: rest => (number none rest).map fun p => (-(p.1 : Int), p.2)
    | '+' :: rest => (number none rest).map fun p => ((p.1 : Int), p.2)
    | rest => (number (some 4) rest).map fun p => ((p.1 : Int), p.2)
  if -0x80000000 ≤ year ∧ year < 0x80000000 then return (year, rest) else throw .outOfRange

/-- A sign between two parts, with white space before it. -/
def mark (expected : Char) (l : List Char) : Except Fault (List Char) :=
  match skipBlank l with
  | [] => .error .tooShort
  | c :: rest => if c = expected then .ok rest else .error .invalid

def separator : List Char → Except Fault (List Char)
  | [] => .error .tooShort
  | c :: rest => if c = 'T' ∨ c = 't' ∨ c = ' ' then .ok rest else .error .invalid

/-- Nanoseconds behind a point; digits behind the ninth do not count. -/
def fractionPart (l : List Char) : Except Fault (Nat × List Char) :=
  match l with
  | '.' :: rest => do
    let (n, after) ← number (some 9) rest
    return (n * Nat.pow 10 (9 - (rest.length - after.length)),
      after.dropWhile fun c => (Text.Decimal.digit? c).isSome)
  | _ => .ok (0, l)

def twoDigits : List Char → Except Fault (Nat × Nat × List Char)
  | a :: b :: rest =>
    match Text.Decimal.digit? a, Text.Decimal.digit? b with
    | some x, some y => .ok (x, y, rest)
    | _, _ => .error .invalid
  | [a] => if a.utf8Size < 2 then .error .tooShort else .error .invalid
  | [] => .error .tooShort

def signedOffset (l : List Char) : Except Fault (Int × List Char) := do
  let (negative, rest) ← match l with
    | [] => throw Fault.tooShort
    | c :: rest =>
      if c = '+' then pure (false, rest)
      else if c = '-' ∨ c = '\u2212' then pure (true, rest)
      else throw Fault.invalid
  let (x, y, rest) ← twoDigits rest
  let (p, q, rest) ← twoDigits (rest.dropWhile fun c => c = ':' || Text.isBlank c)
  if 6 ≤ p then throw .outOfRange
  let seconds : Int := (10 * x + y) * 3600 + (10 * p + q) * 60
  return (if negative then -seconds else seconds, rest)

def offset (l : List Char) : Except Fault (Int × List Char) :=
  match l with
  | a :: b :: c :: rest =>
    if a.toLower = 'u' ∧ b.toLower = 't' ∧ c.toLower = 'c' then .ok (0, rest)
    else if a = 'Z' ∨ a = 'z' then .ok (0, b :: c :: rest)
    else signedOffset l
  | a :: rest => if a = 'Z' ∨ a = 'z' then .ok (0, rest) else signedOffset l
  | [] => .error .tooShort

def parseChars (l : List Char) : Except Fault Instant := do
  let (year, l) ← yearPart l
  let (month, l) ← part 1 12 (← mark '-' l)
  let (day, l) ← part 1 31 (← mark '-' l)
  let (hour, l) ← part 0 23 (← separator l)
  let (minute, l) ← part 0 59 (← mark ':' l)
  let (second, l) ← part 0 60 (← mark ':' l)
  let (nanos, l) ← fractionPart l
  let (shift, l) ← offset (skipBlank l)
  if skipBlank l ≠ [] then throw .tooLong
  let date : Date := ⟨year, month, day⟩
  if year < Instant.minYear ∨ Instant.maxYear < year ∨ !date.isValid then throw .outOfRange
  if shift ≤ -Instant.secondsPerDay ∨ Instant.secondsPerDay ≤ shift then throw .outOfRange
  let leap := second = 60
  let wall : Instant :=
    ⟨date.days * Instant.secondsPerDay + hour * 3600 + minute * 60 + (if leap then 59 else second),
      if leap then nanos + 1000000000 else nanos⟩
  match wall.addSeconds? (-shift) with
  | some t => return t
  | none => throw .impossible

def parse (s : String) : Except Fault Instant := parseChars s.toList

end ConfigRegistry.Time.Rfc3339
