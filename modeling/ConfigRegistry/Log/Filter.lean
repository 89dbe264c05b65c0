import ConfigRegistry.Log.Notice
import ConfigRegistry.Text.Alphanumeric
import ConfigRegistry.Text.Blank
import ConfigRegistry.Text.Decimal
import ConfigRegistry.Text.Split

/-!
Which notices are written. A filter is a list of directives, each a level for a target and all that
starts like it, or for everything; the most specific directive that fits decides, and without one
nothing is written. Directives about spans never fit, as there are none.
-/
namespace ConfigRegistry.Log

structure Directive where
  target : Option String
  /-- Details that a notice has to have. -/
  fields : List String
  /-- The greatest rank of a level that is let through, the errors having the least. -/
  rank : Nat
deriving DecidableEq, Repr

namespace Directive

def levelNames : List String := ["off", "error", "warn", "info", "debug", "trace"]

def maxRank : Nat := 5

def rankOf : Level → Nat
  | .error => 1
  | .warn => 2
  | .info => 3
  | .debug => 4

/-- A level as its number or its name, in any case of its letters. -/
def rank? (s : String) : Option Nat :=
  match Text.Decimal.natural maxRank s with
  | .ok n => some n
  | .error _ => levelNames.findIdx? (· == s.toLower)

/-- Everything from a target without a level on. -/
def ofWord (s : String) : Directive :=
  match rank? s with
  | some rank => ⟨none, [], rank⟩
  | none => ⟨if s.isEmpty then none else some s, [], maxRank⟩

/-- A level behind an equals sign; none means all levels. -/
def readRank? (s : String) : Option Nat := if s.isEmpty then some maxRank else rank? s

/-- What stands in square brackets: the name of a span, and fields with or without values. -/
structure Scope where
  span : Option String
  fields : List String

/-- Reads a scope up to its closing bracket, and gives the text behind it. A scope of fields alone
names no span. -/
def readScope? (l : List Char) : Option (Scope × List Char) :=
  let isName := fun (c : Char) => c != ']' && c != '\x7b'
  let name := String.ofList (l.takeWhile isName)
  match l.dropWhile isName with
  | ']' :: rest => some (⟨some name, []⟩, rest)
  | '\x7b' :: inner =>
    match inner.takeWhile (· != '\x7d'), inner.dropWhile (· != '\x7d') with
    | [], _ => none
    | field, '\x7d' :: ']' :: rest =>
      some (⟨if name.isEmpty then none else some name, [String.ofList field]⟩, rest)
    | _, _ => none
  | _ => none

/-- The directive of a scope: one about a span or about values of fields fits no notice. -/
def ofScope (target : Option String) (scope : Scope) (rank : Nat) : Option Directive :=
  if scope.span.isNone && scope.fields.all (!·.contains '=') then
    some ⟨target, scope.fields, rank⟩
  else none

def isStart (c : Char) : Bool := c == '-' || c == ':' || c == '_' || Text.isAlphanumeric c

/-- Reads one directive; a text that is none fails, and one that fits nothing gives nothing. Its
parts are found in the text without blanks around it, and cut from the text as it stands: behind a
blank, no level is read. -/
def parse? (s : String) : Option (Option Directive) :=
  let whole := s.toList
  let l := Text.trimBoth Text.isBlank whole
  let isWord := fun (c : Char) => c != '=' && c != '['
  let word := String.ofList (whole.take (l.takeWhile isWord).length)
  let rankBefore? := fun (rest : List Char) =>
    readRank? (String.ofList (whole.drop (l.length - rest.length)))
  if !(l.head?.any fun c => c == '[' || isStart c) then none
  else
    match l.dropWhile isWord with
    | [] => some (some (ofWord s))
    | '=' :: rest => (rankBefore? rest).map fun rank => some ⟨some word, [], rank⟩
    | _ :: rest =>
      let target := if l.head? = some '[' then none else some word
      match readScope? rest with
      | some (scope, []) => some (ofScope target scope maxRank)
      | some (scope, '=' :: rest) => (rankBefore? rest).map fun rank => ofScope target scope rank
      | _ => none

def fits (d : Directive) (n : Notice) : Bool :=
  d.target.all (n.target.startsWith ·) &&
    d.fields.all fun f => f == "message" || (n.details.lookup f).isSome

/-- Whether a directive is more specific than another, or as specific. -/
def isBefore (d e : Directive) : Bool :=
  let length := fun (d : Directive) => (d.target.map fun t => t.utf8ByteSize + 1).getD 0
  length e < length d || (length d == length e && e.fields.length ≤ d.fields.length)

end Directive

abbrev Filter := List Directive

namespace Filter

/-- Of directives about the same, the last one counts. -/
def add (f : Filter) (d : Directive) : Filter :=
  f.filter (fun e => e.target ≠ d.target ∨ e.fields ≠ d.fields) ++ [d]

def parse? (s : String) : Option Filter :=
  (((Text.split ',' s).filter (!·.isEmpty)).mapM Directive.parse?).map fun ds =>
    (ds.filterMap id).foldl add []

/-- Everything of the program itself but the finest level. -/
def default : Filter := [⟨some "stratus", [], 4⟩, ⟨some "tower_http", [], 4⟩]

def ofText (s : Option String) : Filter := (s.bind parse?).getD default

def passes (f : Filter) (n : Notice) : Bool :=
  match (f.mergeSort Directive.isBefore).find? (·.fits n) with
  | some d => Directive.rankOf n.level ≤ d.rank
  | none => false

end Filter

end ConfigRegistry.Log
