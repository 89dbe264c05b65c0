/-!
Whole numbers written in decimal, read within bounds. Reading goes digit by digit, so the first
of several faults wins.
-/
namespace ConfigRegistry.Text.Decimal

/-- Why a text is no whole number in bounds. -/
inductive Fault where
  | empty
  | invalidDigit
  | tooLarge
  | tooSmall
deriving DecidableEq, Repr

def Fault.message : Fault → String
  | .empty => "cannot parse integer from empty string"
  | .invalidDigit => "invalid digit found in string"
  | .tooLarge => "number too large to fit in target type"
  | .tooSmall => "number too small to fit in target type"

def digit? (c : Char) : Option Nat :=
  if '0' ≤ c ∧ c ≤ '9' then some (c.toNat - '0'.toNat) else none

/-- Reads digits after a number read so far; the result may not pass the bound. -/
def readDigits (bound : Nat) (acc : Nat) : List Char → Except Fault Nat
  | [] => .ok acc
  | c :: rest =>
    match digit? c with
    | none => .error .invalidDigit
    | some d => if acc * 10 + d ≤ bound then readDigits bound (acc * 10 + d) rest
                else .error .tooLarge

def natural (bound : Nat) (s : String) : Except Fault Nat :=
  match s.toList with
  | [] => .error .empty
  | ['+'] => .error .invalidDigit
  | '+' :: digits => readDigits bound 0 digits
  | digits => readDigits bound 0 digits

def integer (bound : Nat) (s : String) : Except Fault Int :=
  match s.toList with
  | [] => .error .empty
  | ['+'] => .error .invalidDigit
  | ['-'] => .error .invalidDigit
  | '-' :: digits =>
    match readDigits (bound + 1) 0 digits with
    | .ok n => .ok (-n)
    | .error .tooLarge => .error .tooSmall
    | .error f => .error f
  | '+' :: digits => (readDigits bound 0 digits).map Int.ofNat
  | digits => (readDigits bound 0 digits).map Int.ofNat

def maxU16 : Nat := UInt16.size - 1
def maxU32 : Nat := UInt32.size - 1
def maxU64 : Nat := UInt64.size - 1
def maxI64 : Nat := UInt64.size / 2 - 1

def padded (width n : Nat) : String :=
  let digits := Nat.toDigits 10 n
  String.ofList (List.replicate (width - digits.length) '0' ++ digits)

theorem readDigits_le {bound acc n : Nat} {l : List Char} (hacc : acc ≤ bound)
    (h : readDigits bound acc l = .ok n) : n ≤ bound := by
  induction l generalizing acc with
  | nil => simp only [readDigits, Except.ok.injEq] at h; omega
  | cons c rest ih =>
    simp only [readDigits] at h
    split at h
    · simp at h
    · split at h
      · exact ih (by assumption) h
      · simp at h

end ConfigRegistry.Text.Decimal
