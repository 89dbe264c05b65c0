import ConfigRegistry.Text.Decimal

/-!
The encoding of labels by plain characters: those that are plain already, a hyphen, and then, for
all others in the order of their numbers, how far each is from the one before, in digits whose
weights adapt to the distances.
-/
namespace ConfigRegistry.Url.Punycode

/-- Lengths beyond which labels are not encoded and not decoded. -/
def maxPlain : Nat := 1000
def maxEncoded : Nat := 2000

def base : Nat := 36
def firstCode : Nat := 0x80
def firstBias : Nat := 72

def digitChar (d : Nat) : Char := Char.ofNat (if d < 26 then 0x61 + d else 0x16 + d)

def digit? (c : Char) : Option Nat :=
  if 'a' ≤ c ∧ c ≤ 'z' then some (c.toNat - 0x61)
  else if '0' ≤ c ∧ c ≤ '9' then some (c.toNat - 0x16)
  else none

/-- The greatest last digit at a position. -/
def threshold (k bias : Nat) : Nat := min (max (k - bias) 1) 26

theorem threshold_pos (k bias : Nat) : 0 < threshold k bias := by
  unfold threshold
  omega

theorem threshold_lt (k bias : Nat) : threshold k bias < base := by
  simp only [threshold, base]
  omega

/-- Divides a distance until it is small, and counts by how much. -/
def scaled (delta k : Nat) : Nat × Nat :=
  if 455 < delta then scaled (delta / 35) (k + base) else (delta, k)
termination_by delta
decreasing_by omega

def adapted (delta count : Nat) (isFirst : Bool) : Nat :=
  let damped := if isFirst then delta / 700 else delta / 2
  let (small, k) := scaled (damped + damped / count) 0
  k + base * small / (small + 38)

def digits (bias k n : Nat) : List Char :=
  let t := threshold k bias
  if n < t then [digitChar n]
  else digitChar (t + (n - t) % (base - t)) :: digits bias (k + base) ((n - t) / (base - t))
termination_by n
decreasing_by
  have := threshold_pos k bias
  have := Nat.div_le_self (n - threshold k bias) (base - threshold k bias)
  omega

/-- An encoding under way. -/
structure Progress where
  written : List Char
  delta : Nat
  bias : Nat
  handled : Nat

def Progress.note (plain code : Nat) (p : Progress) (c : Char) : Progress :=
  if c.toNat < code then { p with delta := p.delta + 1 }
  else if c.toNat = code then
    { written := p.written ++ digits p.bias base p.delta
      delta := 0
      bias := adapted p.delta (p.handled + 1) (p.handled == plain)
      handled := p.handled + 1 }
  else p

/-- Writes the characters with the given numbers, of which none is below the one to go on from. -/
def encodeFrom (l : List Char) (plain : Nat) : Nat → List Nat → Progress → List Char
  | _, [], p => p.written
  | code, next :: rest, p =>
    let p := { p with delta := p.delta + (next - code) * (p.handled + 1) }
    let p := l.foldl (Progress.note plain next) p
    encodeFrom l plain (next + 1) rest { p with delta := p.delta + 1 }

def encode? (l : List Char) : Option (List Char) :=
  let plain := l.filter (·.toNat < firstCode)
  let others := ((l.map Char.toNat).filter (firstCode ≤ ·)).mergeSort.eraseDups
  if maxPlain < l.length then none
  else
    some ((if plain.isEmpty then [] else plain ++ ['-']) ++
      encodeFrom l plain.length firstCode others ⟨[], 0, firstBias, plain.length⟩)

/-- Reads a distance, which is added to a position; a number of more than 32 bits is none. -/
def readDistance (bias : Nat) : Nat → Nat → Nat → List Char → Option (Nat × List Char)
  | _, _, _, [] => none
  | position, weight, k, c :: rest =>
    match digit? c with
    | none => none
    | some d =>
      let position := position + d * weight
      let t := threshold k bias
      if Text.Decimal.maxU32 < position then none
      else if d < t then some (position, rest)
      else if Text.Decimal.maxU32 < weight * (base - t) then none
      else readDistance bias position (weight * (base - t)) (k + base) rest

def decodeFrom (fuel : Nat) (read : List Char) (code position bias : Nat) (l : List Char) :
    Option (List Char) :=
  match fuel, l with
  | _, [] => some read
  | 0, _ => none
  | fuel + 1, l => do
    let (far, rest) ← readDistance bias position 1 base l
    let count := read.length + 1
    let code := code + far / count
    if h : code.isValidChar then
      decodeFrom fuel (read.insertIdx (far % count) (Char.ofNatAux code h)) code
        (far % count + 1) (adapted (far - position) count (position == 0)) rest
    else none

def split (l : List Char) : List Char × List Char :=
  let digits := (l.reverse.takeWhile (· != '-')).reverse
  let plain := l.take (l.length - digits.length - 1)
  if plain.isEmpty then ([], l) else (plain, digits)

def decode? (l : List Char) : Option (List Char) :=
  if maxEncoded < l.length then none
  else decodeFrom l.length (split l).1 firstCode 0 firstBias (split l).2

end ConfigRegistry.Url.Punycode
