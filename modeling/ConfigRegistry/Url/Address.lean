import ConfigRegistry.Coding.Hex
import ConfigRegistry.Text.Decimal

/-!
Internet addresses in URLs. A short address has up to four numbers, the last of which fills all
bytes that are left, each in decimal, octal or hexadecimal; it is written with four decimal ones. A
long address has eight pieces, of which one run of zeros may be left out; it is written without the
longest such run.
-/
namespace ConfigRegistry.Url

namespace ShortAddress

def value? (base : Nat) (l : List Char) : Option Nat :=
  l.foldlM (fun n c => ((Coding.Hex.value? c).filter (· < base)).map (n * base + ·)) 0

/-- A number with a sign of its base in front: `0x` for hexadecimal, `0` for octal. -/
def number? : List Char → Option Nat
  | [] => none
  | ['0'] => some 0
  | '0' :: 'x' :: rest | '0' :: 'X' :: rest => value? 16 rest
  | '0' :: rest => value? 8 rest
  | l => value? 10 l

/-- The texts between the dots; one dot at the end does not count. -/
def pieces (s : List Char) : List (List Char) :=
  let all := ((String.ofList s).splitOn ".").map String.toList
  if all.getLast? = some [] then all.dropLast else all

/-- Whether a host is meant as an address: its last piece is a number, or all digits. -/
def isMeant (s : List Char) : Bool :=
  match (pieces s).getLast? with
  | some last => !last.isEmpty && (last.all Char.isDigit || (number? last).isSome)
  | none => false

def parse? (s : List Char) : Option Nat := do
  let numbers ← (pieces s).mapM number?
  let last ← numbers.getLast?
  let front := numbers.dropLast
  if 3 < front.length ∨ front.any (255 < ·) ∨ 0x100000000 >>> (8 * front.length) ≤ last then none
  else some (front.zipIdx.foldl (fun sum (n, i) => sum + n <<< (8 * (3 - i))) last)

/-- A decimal number up to 255 without leading zeros. -/
def byte? (l : List Char) : Option Nat :=
  match l with
  | [] => none
  | ['0'] => some 0
  | '0' :: _ => none
  | _ => (value? 10 l).filter (· ≤ 255)

def plain? (l : List Char) : Option Nat :=
  match ((String.ofList l).splitOn ".").map fun s => byte? s.toList with
  | [some a, some b, some c, some d] => some (((a * 256 + b) * 256 + c) * 256 + d)
  | _ => none

def render (n : Nat) : String :=
  String.intercalate "." ([3, 2, 1, 0].map fun i => toString ((n >>> (8 * i)) % 256))

end ShortAddress

namespace LongAddress

/-- A piece of up to four hexadecimal digits at the start of a text, and the rest. -/
def readPiece (l : List Char) : Option Nat × List Char :=
  let digits := (l.take 4).takeWhile fun c => (Coding.Hex.value? c).isSome
  (if digits.isEmpty then none else ShortAddress.value? 16 digits, l.drop digits.length)

/-- Two pieces in the form of a short address, which end a long one. -/
def tail? (l : List Char) : Option (List Nat) :=
  (ShortAddress.plain? l).map fun n => [n / 65536, n % 65536]

/-- The pieces of an address under way, and where zeros were left out. -/
structure Progress where
  pieces : List Nat
  gap : Option Nat

/-- How many pieces are taken, the gap being at least one. -/
def Progress.used (p : Progress) : Nat := p.pieces.length + if p.gap.isSome then 1 else 0

def Progress.push (p : Progress) (l : List Nat) : Progress := { p with pieces := p.pieces ++ l }

/-- Reads pieces with colons between them; two colons in a row leave out zeros once. -/
def readFrom : Nat → Progress → List Char → Option Progress
  | 0, _, _ => none
  | _ + 1, p, [] => some p
  | fuel + 1, p, ':' :: rest =>
    if p.gap.isSome ∨ 8 ≤ p.used then none
    else readFrom fuel { p with gap := some p.pieces.length } rest
  | fuel + 1, p, l =>
    if 8 ≤ p.used then none
    else
      match readPiece l with
      | (_, '.' :: _) => if 6 < p.used then none else (tail? l).map p.push
      | (some n, []) => some (p.push [n])
      | (some n, ':' :: c :: rest) => readFrom fuel (p.push [n]) (c :: rest)
      | _ => none

def parse? (s : List Char) : Option (List Nat) := do
  let p ← match s with
    | ':' :: ':' :: rest => readFrom (s.length + 1) ⟨[], some 0⟩ rest
    | ':' :: _ => none
    | _ => readFrom (s.length + 1) ⟨[], none⟩ s
  match p.gap with
  | some i =>
    some (p.pieces.take i ++ List.replicate (8 - p.pieces.length) 0 ++ p.pieces.drop i)
  | none => if p.pieces.length = 8 then some p.pieces else none

def zeros (l : List Nat) : Nat := (l.takeWhile (· == 0)).length

/-- Where the longest run of zeros starts, and its length; the first of equally long ones. -/
def longestZeros (l : List Nat) : Nat × Nat :=
  (List.range l.length).foldl (fun best i =>
    if best.2 < zeros (l.drop i) then (i, zeros (l.drop i)) else best) (0, 0)

def hex (n : Nat) : String := String.ofList (Nat.toDigits 16 n)

def render (pieces : List Nat) : String :=
  let write := fun l => String.intercalate ":" (l.map hex)
  let (start, count) := longestZeros pieces
  if count < 2 then write pieces
  else write (pieces.take start) ++ "::" ++ write (pieces.drop (start + count))

end LongAddress

end ConfigRegistry.Url
