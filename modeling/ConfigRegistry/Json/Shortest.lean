/-!
The shortest decimal that reads back as a given binary fraction. The candidates with a given number
of digits are the two neighbours of the value on that decimal grid; the first grid with a candidate
inside the rounding interval wins, and of two candidates the nearer one.
-/
namespace ConfigRegistry.Json.Shortest

/-- A positive number `digits * 10 ^ exponent`. -/
structure Decimal where
  digits : Nat
  exponent : Int
deriving DecidableEq, Repr

/-- A positive fraction `significand * 2 ^ exponent` and whether its lower neighbour is at half the
distance of its upper one. -/
structure Binary where
  significand : Nat
  exponent : Int
  narrow : Bool
deriving DecidableEq, Repr

/-- The finite, positive value of the 64 bits of a floating-point number. -/
def Binary.ofBits (bits : UInt64) : Binary :=
  let fraction := (bits &&& 0xfffffffffffff).toNat
  let field := ((bits >>> 52) &&& 0x7ff).toNat
  if field = 0 then ⟨fraction, -1074, false⟩
  else ⟨0x10000000000000 + fraction, (field : Int) - 1075, fraction = 0 ∧ 1 < field⟩

/-- Value and interval ends in quarters of the last binary place, over a common denominator for the
decimal grid of step `10 ^ k`. -/
structure Scaled where
  value : Nat
  low : Nat
  high : Nat
  step : Nat
  closed : Bool

def Binary.scaled (b : Binary) (k : Int) : Scaled :=
  let up := Nat.pow 10 (-k).toNat <<< (b.exponent - 2).toNat
  { value := 4 * b.significand * up
    low := (4 * b.significand - if b.narrow then 1 else 2) * up
    high := (4 * b.significand + 2) * up
    step := Nat.pow 10 k.toNat <<< (2 - b.exponent).toNat
    closed := b.significand % 2 = 0 }

def Scaled.admits (s : Scaled) (d : Nat) : Bool :=
  if s.closed then s.low ≤ d * s.step && d * s.step ≤ s.high
  else s.low < d * s.step && d * s.step < s.high

/-- The admitted neighbour on the grid; the nearer one of two, the even one of a tie. -/
def Scaled.pick? (s : Scaled) : Option Nat :=
  let d := s.value / s.step
  match s.admits d, s.admits (d + 1) with
  | true, true =>
    let below := s.value - d * s.step
    let above := (d + 1) * s.step - s.value
    some (if below < above then d else if above < below then d + 1
      else if d % 2 = 0 then d else d + 1)
  | true, false => some d
  | false, true => some (d + 1)
  | false, false => none

def Binary.search (b : Binary) (k : Int) : Nat → Decimal
  | 0 => ⟨(b.scaled k).value / (b.scaled k).step, k⟩
  | more + 1 =>
    match (b.scaled k).pick? with
    | some d => if d = 0 then b.search (k - 1) more else ⟨d, k⟩
    | none => b.search (k - 1) more

def ofBinary (b : Binary) : Decimal :=
  let whole := if 0 ≤ b.exponent then b.significand <<< b.exponent.toNat
    else b.significand >>> (-b.exponent).toNat
  let top : Int :=
    if 0 < whole then (Nat.toDigits 10 whole).length
    else -((Nat.toDigits 10 ((1 <<< (-b.exponent).toNat) / b.significand)).length : Int) + 2
  b.search top 40

end ConfigRegistry.Json.Shortest
