import ConfigRegistry.Coding.Form
import ConfigRegistry.Coding.Utf8
import ConfigRegistry.Text.Alphanumeric
import ConfigRegistry.Text.Blank

/-!
Variables of the environment, and a file that adds to them. A variable with bytes that are no text
counts as unset. The file never changes a variable that is set; the first fault ends its reading,
and what was read before it stays.
-/
namespace ConfigRegistry.Settings

abbrev Environment := List (String × List UInt8)

namespace Environment

def get? (env : Environment) (name : String) : Option String :=
  (env.lookup name).bind Coding.Utf8.string?

def set (env : Environment) (name value : String) : Environment :=
  (name, Coding.Utf8.encode value) :: env.filter (·.1 != name)

/-- The variables in a file: each line names one, an equals sign and a value, which may be quoted,
and may refer to variables by dollar signs. -/
structure Reader where
  env : Environment
  /-- Variables of the file, whether they were set or not. -/
  seen : List (String × String)

namespace Reader

/-- What stands between the characters of a logical line; quotes and escapes keep it open. -/
inductive Scan where
  | plain
  | escape
  | blank
  | weak
  | weakEscape
  | strong
  | strongEscape
deriving DecidableEq, Repr

/-- The state behind a character; nothing where a comment starts. -/
def Scan.next (s : Scan) (c : Char) : Option Scan :=
  match s with
  | .plain =>
    if Text.isBlank c ∧ c ≠ '\n' ∧ c ≠ '\r' then some .blank
    else if c = '\\' then some .escape
    else if c = '"' then some .weak
    else if c = '\x27' then some .strong
    else some .plain
  | .blank =>
    if c = '#' then none
    else if c = '\\' then some .escape
    else if c = '"' then some .weak
    else if c = '\x27' then some .strong
    else some .plain
  | .escape => some .plain
  | .weak => some (if c = '\\' then .weakEscape else if c = '"' then .plain else .weak)
  | .weakEscape => some .weak
  | .strong => some (if c = '\\' then .strongEscape else if c = '\x27' then .plain else .strong)
  | .strongEscape => some .strong

/-- Reads a physical line: the characters before a comment, and the state behind them or nothing
for a comment. -/
def scanLine (s : Scan) : List Char → List Char × Option Scan
  | [] => ([], some s)
  | c :: rest =>
    match s.next c with
    | none => ([], none)
    | some s' =>
      let (before, after) := scanLine s' rest
      (c :: before, after)

def isNameStart (c : Char) : Bool := c.isAlpha || c == '_'

def isNameChar (c : Char) : Bool := c.isAlphanum || c == '_' || c == '.'

/-- How far a reference to a variable has been read. -/
inductive Reference where
  | none
  | bare (name : List Char)
  | braced (name : List Char)
deriving DecidableEq, Repr

structure Value where
  output : List Char := []
  strong : Bool := false
  weak : Bool := false
  escaped : Bool := false
  ending : Bool := false
  reference : Reference := .none

/-- The value of a name: the environment comes first, then the file. -/
def resolve (r : Reader) (name : List Char) : List Char :=
  let name := String.ofList name
  match r.env.get? name with
  | some value => value.toList
  | none => ((r.seen.lookup name).getD "").toList

/-- One character of a value; nothing says that the line is faulty, and a flag that the value ends
before a comment. -/
def Value.step (r : Reader) (v : Value) (c : Char) : Option (Value × Bool) :=
  if v.ending then
    if c = ' ' ∨ c = '\t' then some (v, false)
    else if c = '#' then some (v, true)
    else none
  else if v.escaped then
    if c = '\\' ∨ c = '\x27' ∨ c = '"' ∨ c = '$' ∨ c = ' ' then
      some ({ v with output := v.output ++ [c], escaped := false }, false)
    else if c = 'n' then some ({ v with output := v.output ++ ['\n'], escaped := false }, false)
    else none
  else if v.strong then
    if c = '\x27' then some ({ v with strong := false }, false)
    else some ({ v with output := v.output ++ [c] }, false)
  else
    match v.reference with
    | .bare name =>
      if Text.isAlphanumeric c then some ({ v with reference := .bare (name ++ [c]) }, false)
      else if c = '\x7b' ∧ name.isEmpty then some ({ v with reference := .braced [] }, false)
      else
        let output := v.output ++ r.resolve name
        if c = '$' then some ({ v with output, reference := .bare [] }, false)
        else some ({ v with output := output ++ [c], reference := .none }, false)
    | .braced name =>
      if c = '\x7d' then
        some ({ v with output := v.output ++ r.resolve name, reference := .none }, false)
      else some ({ v with reference := .braced (name ++ [c]) }, false)
    | .none =>
      if c = '$' then some ({ v with reference := .bare [] }, false)
      else if v.weak then
        if c = '"' then some ({ v with weak := false }, false)
        else if c = '\\' then some ({ v with escaped := true }, false)
        else some ({ v with output := v.output ++ [c] }, false)
      else if c = '\x27' then some ({ v with strong := true }, false)
      else if c = '"' then some ({ v with weak := true }, false)
      else if c = '\\' then some ({ v with escaped := true }, false)
      else if c = ' ' ∨ c = '\t' then some ({ v with ending := true }, false)
      else some ({ v with output := v.output ++ [c] }, false)

def Value.read (r : Reader) (v : Value) : List Char → Option Value
  | [] => some v
  | c :: rest =>
    match v.step r c with
    | none => none
    | some (v', true) => some v'
    | some (v', false) => v'.read r rest

def value? (r : Reader) (l : List Char) : Option String := do
  let v ← Value.read r {} l
  if v.strong || v.weak then none
  match v.reference with
  | .none => return String.ofList v.output
  | .bare name => return String.ofList (v.output ++ r.resolve name)
  | .braced _ => none

def skipBlank (l : List Char) : List Char := l.dropWhile Text.isBlank

def name? (l : List Char) : Option (String × List Char) :=
  if l.head?.any isNameStart then
    some (String.ofList (l.takeWhile isNameChar), skipBlank (l.dropWhile isNameChar))
  else none

def afterEquals? : List Char → Option (List Char)
  | '=' :: rest => some (skipBlank rest)
  | _ => none

/-- Sets a variable of the file unless the environment has it. -/
def define (r : Reader) (name value : String) : Reader :=
  { env := if (r.env.get? name).isSome then r.env else r.env.set name value
    seen := (name, value) :: r.seen }

/-- One logical line; a word `export` may stand before the name. -/
def line? (r : Reader) (l : List Char) : Option Reader := do
  let l := Text.trimBoth Text.isBlank l
  if l.isEmpty || l.head? == some '#' then return r
  let (name, rest) ← name? l
  let (name, value) ←
    if name = "export" then
      match afterEquals? rest with
      | some value => some (name, value)
      | none => (name? rest).bind fun (name, rest) => (afterEquals? rest).map (name, ·)
    else (afterEquals? rest).map (name, ·)
  if value.isEmpty || value.head? == some '#' then return r.define name ""
  return r.define name (← r.value? value)

/-- Reads the physical lines after the open part of a logical line. -/
def lines (r : Reader) (s : Scan) (part : List Char) : List (List UInt8) → Reader
  | [] => r
  | bytes :: rest =>
    match Coding.Utf8.decode? bytes with
    | none => r
    | some chars =>
      let whole := part ++ chars
      if (skipBlank whole).head? = some '#' then r.lines .plain [] rest
      else
        let (before, after) := scanLine s chars
        let close := fun (l : List Char) =>
          match r.line? l with
          | none => r
          | some r' => r'.lines .plain [] rest
        match after with
        | none => close (part ++ before)
        | some .plain => close whole
        | some s' => r.lines s' whole rest

end Reader

def splitLines (bytes : List UInt8) : List (List UInt8) :=
  let pieces := Coding.Form.splitOn 0x0a bytes
  (pieces.dropLast.map (· ++ [0x0a])) ++ (pieces.getLast?.toList.filter (!·.isEmpty))

/-- The environment with the variables of a file. A byte order mark is skipped. -/
def withFile (env : Environment) (bytes : List UInt8) : Environment :=
  let bytes := if [0xef, 0xbb, 0xbf].isPrefixOf bytes then bytes.drop 3 else bytes
  (Reader.lines ⟨env, []⟩ .plain [] (splitLines bytes)).env

end Environment

end ConfigRegistry.Settings
