import ConfigRegistry.Coding.Base64
import ConfigRegistry.Coding.Utf8
import ConfigRegistry.Digest.Argon2
import ConfigRegistry.Text.Decimal
import ConfigRegistry.Text.Split

/-!
Password hashes in their text form: fields behind dollar signs for the algorithm, its version and
parameters, the salt and the output. A text that is no such form is a fault; a text that is one
but asks for something else than this hash simply verifies no password.
-/
namespace ConfigRegistry.Digest

/-- Why a value between the delimiters is refused. -/
inductive ValueFault where
  | tooShort
  | tooLong
  | malformed
  | invalidFormat
  | invalidChar (c : Char)
deriving DecidableEq, Repr

def ValueFault.message : ValueFault → String
  | .tooShort => "value to short"
  | .tooLong => "value to long"
  | .malformed => "value malformed"
  | .invalidFormat => "value format is invalid"
  | .invalidChar c => "contains invalid character: '" ++ String.singleton c ++ "'"

/-- Why a text is no password hash. -/
inductive HashFault where
  | missingField
  | parameterName
  | parameterValue (fault : ValueFault)
  | tooManyParameters
  | salt (fault : ValueFault)
  | encoding
  | encodedLength
  | outputTooShort
  | trailing
deriving DecidableEq, Repr

def HashFault.message : HashFault → String
  | .missingField => "password hash string missing field"
  | .parameterName => "invalid parameter name"
  | .parameterValue fault => "invalid parameter value: " ++ fault.message
  | .tooManyParameters => "maximum number of parameters reached"
  | .salt fault => "salt invalid: " ++ fault.message
  | .encoding => "invalid Base64 encoding"
  | .encodedLength => "invalid Base64 length"
  | .outputTooShort => "output size too short, expected at least 10 bytes"
  | .trailing => "password hash string contains trailing characters"

structure PasswordHash where
  algorithm : String
  version : Option Nat
  parameters : List (String × String)
  salt : Option String
  output : Option (List UInt8)
deriving DecidableEq, Repr

namespace PasswordHash

def isNameChar (c : Char) : Bool := ('a' ≤ c && c ≤ 'z') || c.isDigit || c == '-'

def isValueChar (c : Char) : Bool :=
  c.isAlphanum || c == '/' || c == '+' || c == '.' || c == '-'

def name (s : String) : Except HashFault String :=
  if s.utf8ByteSize = 0 ∨ 32 < s.utf8ByteSize then .error .parameterName
  else if s.toList.all isNameChar then .ok s
  else .error .parameterName

def value (s : String) : Except ValueFault String :=
  if 64 < s.utf8ByteSize then .error .tooLong
  else
    match s.toList.find? (!isValueChar ·) with
    | some c => .error (.invalidChar c)
    | none => .ok s

/-- A value that is a number below 2^32 without leading zeros. -/
def decimal (s : String) : Except ValueFault Nat :=
  match s.toList with
  | [] => .error .malformed
  | c :: rest =>
    match (c :: rest).find? (!Char.isDigit ·) with
    | some bad => .error (.invalidChar bad)
    | none =>
      if c = '0' ∧ rest ≠ [] then .error .invalidFormat
      else (Text.Decimal.natural Text.Decimal.maxU32 s).mapError fun _ => .invalidFormat

/-- One name and one value around a single equals sign. -/
def parameter (s : String) : Except HashFault (String × String) :=
  match Text.split '=' s with
  | [] => .error .parameterName
  | n :: pieces => do
    let n ← name n
    match pieces with
    | [] => .error (.parameterValue .malformed)
    | v :: more =>
      let v ← (value v).mapError .parameterValue
      if more.isEmpty then return (n, v) else .error (.parameterValue .malformed)

def parameterList (s : String) : Except HashFault (List (String × String)) :=
  if 127 < s.utf8ByteSize then .error .tooManyParameters
  else (Text.split ',' s).mapM parameter

def saltText (s : String) : Except HashFault String :=
  if s.utf8ByteSize < 4 then .error (.salt .tooShort)
  else if 64 < s.utf8ByteSize then .error (.salt .tooLong)
  else (value s).mapError .salt

def outputBytes (s : String) : Except HashFault (List UInt8) :=
  if 64 < s.utf8ByteSize * 3 / 4 then .error .encodedLength
  else
    match Coding.Base64.decode Coding.Base64.standard s with
    | none => .error .encoding
    | some bytes => if bytes.length < 10 then .error .outputTooShort else .ok bytes

def parseEnd (found : PasswordHash) : List String → Except HashFault PasswordHash
  | [] => .ok found
  | s :: rest => do
    let salt ← saltText s
    match rest with
    | [] => return { found with salt }
    | o :: more =>
      let output ← outputBytes o
      if more.isEmpty then return { found with salt, output } else .error .trailing

def parseParameters (found : PasswordHash) : List String → Except HashFault PasswordHash
  | [] => .ok found
  | s :: rest =>
    if s.contains '=' then do
      parseEnd { found with parameters := ← parameterList s } rest
    else parseEnd found (s :: rest)

def parseVersion (found : PasswordHash) : List String → Except HashFault PasswordHash
  | [] => .ok found
  | s :: rest =>
    if s.startsWith "v=" ∧ ¬ s.contains ',' then do
      let text ← (value (s.drop 2).toString).mapError .parameterValue
      parseParameters { found with version := ← (decimal text).mapError .parameterValue } rest
    else parseParameters found (s :: rest)

/-- The fields stand behind dollar signs, so the text starts with one. -/
def parse (s : String) : Except HashFault PasswordHash :=
  match Text.split '$' s with
  | "" :: algorithm :: rest => do
    parseVersion ⟨← name algorithm, none, [], none, none⟩ rest
  | _ => .error .missingField

def variant? : String → Option Argon2.Variant
  | "argon2d" => some .dependent
  | "argon2i" => some .independent
  | "argon2id" => some .hybrid
  | _ => none

def versionOf? : Option Nat → Option Argon2.Version
  | none => some .v19
  | some n => if n = 16 then some .v16 else if n = 19 then some .v19 else none

/-- Costs used where a text names none, and for every new hash. -/
def defaultCost : Argon2.Cost := ⟨19456, 2, 1⟩

def bytes? (limit : Nat) (s : String) : Option (List UInt8) :=
  (Coding.Base64.decode Coding.Base64.standard s).filter (·.length ≤ limit)

/-- Applies the parameters in order; a later one replaces an earlier one of its name. -/
def applyParameters : List (String × String) → Argon2.Cost × List UInt8 →
    Option (Argon2.Cost × List UInt8)
  | [], found => some found
  | (n, v) :: rest, (cost, associated) =>
    match n with
    | "m" => (decimal v).toOption.bind fun m =>
        applyParameters rest ({ cost with memory := m }, associated)
    | "t" => (decimal v).toOption.bind fun t =>
        applyParameters rest ({ cost with passes := t }, associated)
    | "p" => (decimal v).toOption.bind fun p =>
        applyParameters rest ({ cost with lanes := p }, associated)
    | "keyid" => (bytes? 8 v).bind fun _ => applyParameters rest (cost, associated)
    | "data" => (bytes? 32 v).bind fun d => applyParameters rest (cost, d)
    | _ => none

def admissible (cost : Argon2.Cost) : Bool :=
  8 ≤ cost.memory && 8 * cost.lanes ≤ cost.memory && 1 ≤ cost.passes && 1 ≤ cost.lanes &&
  cost.lanes ≤ 0xffffff

/-- The hash that a parsed text describes, if this library computes it. -/
def setting? (h : PasswordHash) : Option (Argon2.Setting × List UInt8) := do
  let saltText ← h.salt
  let output ← h.output
  let (cost, associated) ← applyParameters h.parameters (defaultCost, [])
  if !admissible cost then none
  let variant ← variant? h.algorithm
  let version ← versionOf? h.version
  let salt ← Coding.Base64.decode Coding.Base64.standard saltText
  if salt.length < 8 then none
  return (⟨variant, version, cost, salt, associated, output.length⟩, output)

def verifies (h : PasswordHash) (password : List UInt8) : Bool :=
  match setting? h with
  | none => false
  | some (setting, output) => Argon2.hash setting password == output

def create (password salt : List UInt8) : PasswordHash :=
  let setting : Argon2.Setting := ⟨.hybrid, .v19, defaultCost, salt, [], 32⟩
  { algorithm := "argon2id"
    version := some 19
    parameters := [("m", toString defaultCost.memory), ("t", toString defaultCost.passes),
      ("p", toString defaultCost.lanes)]
    salt := some (Coding.Base64.encode Coding.Base64.standard salt)
    output := some (Argon2.hash setting password) }

def render (h : PasswordHash) : String :=
  "$" ++ h.algorithm ++
  (match h.version with
    | some v => "$v=" ++ toString v
    | none => "") ++
  (if h.parameters.isEmpty then ""
    else "$" ++ String.intercalate "," (h.parameters.map fun p => p.1 ++ "=" ++ p.2)) ++
  (match h.salt with
    | some s => "$" ++ s
    | none => "") ++
  (match h.output with
    | some o => "$" ++ Coding.Base64.encode Coding.Base64.standard o
    | none => "")

end PasswordHash

end ConfigRegistry.Digest
