import ConfigRegistry.Coding.Form
import ConfigRegistry.Url.Host

/-!
URLs that stand on their own. Reading brings a text into its plain form: scheme and host in small
letters, default ports left out, dots in the path resolved, and characters escaped where they would
mean something else. Pairs can be added to the query.
-/
namespace ConfigRegistry

structure Url.Authority where
  username : String
  password : String
  /-- No host is written as nothing. -/
  host : Option Url.Host
  port : Option Nat
deriving DecidableEq, Repr

structure Url where
  scheme : String
  authority : Option Url.Authority
  path : String
  query : Option String
  fragment : Option String
deriving DecidableEq, Repr

namespace Url

def Authority.render (a : Authority) : String :=
  let password := if a.password.isEmpty then "" else ":" ++ a.password
  let user := if a.username.isEmpty && a.password.isEmpty then "" else a.username ++ password ++ "@"
  user ++ ((a.host.map Host.render).getD "") ++
    ((a.port.map fun n => ":" ++ toString n).getD "")

/-- A path of two slashes at its start is kept apart from a host. -/
def render (u : Url) : String :=
  let authority := match u.authority with
    | some a => "//" ++ a.render
    | none => if u.path.startsWith "//" then "/." else ""
  u.scheme ++ ":" ++ authority ++ u.path ++ ((u.query.map ("?" ++ ·)).getD "") ++
    ((u.fragment.map ("#" ++ ·)).getD "")

/-! Schemes. -/

def defaultPorts : List (String × Nat) :=
  [("http", 80), ("https", 443), ("ws", 80), ("wss", 443), ("ftp", 21)]

inductive Kind where
  | file
  | hosted (port : Nat)
  | other
deriving DecidableEq, Repr

def Kind.ofScheme (scheme : String) : Kind :=
  if scheme = "file" then .file
  else
    match defaultPorts.lookup scheme with
    | some port => .hosted port
    | none => .other

/-- Whether the scheme takes a backslash for a slash. -/
def Kind.isSpecial (k : Kind) : Bool := k != .other

def Kind.isSlash (k : Kind) (c : Char) : Bool := c == '/' || (c == '\\' && k.isSpecial)

def splitScheme? (l : List Char) : Option (String × List Char) :=
  let isPart := fun (c : Char) => c.isAlphanum || c == '+' || c == '-' || c == '.'
  match l.head?, l.dropWhile isPart with
  | some first, ':' :: rest =>
    if first.isAlpha then some (String.ofList ((l.takeWhile isPart).map Char.toLower), rest)
    else none
  | _, _ => none

/-! Characters that are written as they are. -/

def keptInFragment (c : Char) : Bool := isVisible c && c ∉ " \"<>\x60".toList

def keptInPath (c : Char) : Bool := keptInFragment c && c ∉ "#?\x7b\x7d".toList

def keptInUser (c : Char) : Bool := keptInPath c && c ∉ "/:;=@[\\]^|".toList

def keptInQuery (k : Kind) (c : Char) : Bool :=
  isVisible c && c ∉ " \"#<>".toList && !(c == '\x27' && k.isSpecial)

/-! Paths. -/

def isDrive (l : List Char) : Bool :=
  match l with
  | [c, d] => c.isAlpha && (d == ':' || d == '|')
  | _ => false

def readDots : List Char → List Char
  | '%' :: '2' :: 'e' :: rest | '%' :: '2' :: 'E' :: rest => '.' :: readDots rest
  | c :: rest => c :: readDots rest
  | [] => []

/-- The segments before the one under way, the last first. A drive is never left. -/
def parentOf : List String → List String
  | [] => []
  | last :: rest => if isDrive last.toList then last :: rest else rest

/-- What a segment adds to those before it, which stand in reverse; dots at the end of a path
leave an empty segment. -/
def addSegment (k : Kind) (before : List String) (segment : List Char) (isLast : Bool) :
    List String :=
  let ended := fun (l : List String) => if isLast then "" :: l else l
  if readDots segment = ['.', '.'] then ended (parentOf before)
  else if readDots segment = ['.'] then ended before
  else if k = .file ∧ before = [] ∧ isDrive segment then
    String.ofList (segment.take 1 ++ [':']) :: before
  else String.ofList segment :: before

def addSegments (k : Kind) (before : List String) : List (List Char) → List String
  | [] => before
  | [last] => addSegment k before last true
  | segment :: rest => addSegments k (addSegment k before segment false) rest

def pieces (k : Kind) : List Char → List (List Char)
  | [] => [[]]
  | c :: rest =>
    if k.isSlash c then [] :: pieces k rest
    else
      match pieces k rest with
      | [] => [[c]]
      | first :: others => (c :: first) :: others

def segments (k : Kind) (l : List Char) : List String :=
  (addSegments k [] ((pieces k l).map fun s => (escaped keptInPath s).toList)).reverse

/-- The path behind a first slash. A path of a file does not start with empty segments. -/
def pathText (k : Kind) (l : List Char) : String :=
  let named := if k = .file then (segments k l).dropWhile (·.isEmpty) else segments k l
  "/" ++ String.intercalate "/" named

def startsWithDrive (l : List Char) : Bool := isDrive ((segments .file l).headD "").toList

/-! Reading. -/

/-- A text cut into what comes before the query, the query and the fragment. -/
structure Parts where
  front : List Char
  query : Option (List Char)
  fragment : Option (List Char)

def Parts.ofText (l : List Char) : Parts :=
  let fragment := match l.dropWhile (· != '#') with
    | _ :: rest => some rest
    | [] => none
  let body := l.takeWhile (· != '#')
  match body.dropWhile (· != '?') with
  | _ :: query => ⟨body.takeWhile (· != '?'), some query, fragment⟩
  | [] => ⟨body, none, fragment⟩

/-- The text before the last at-sign, and the text behind it. -/
def splitUser? (l : List Char) : Option (List Char × List Char) :=
  if '@' ∈ l then
    let host := (l.reverse.takeWhile (· != '@')).reverse
    some (l.take (l.length - host.length - 1), host)
  else none

/-- The text before the first colon outside brackets, and the text behind it. -/
def splitPort (inBrackets : Bool) : List Char → List Char × Option (List Char)
  | [] => ([], none)
  | c :: rest =>
    if c = ':' ∧ inBrackets = false then ([], some rest)
    else
      let inside := if c = '[' then true else if c = ']' then false else inBrackets
      let (host, port) := splitPort inside rest
      (c :: host, port)

/-- A port; the default one, or none, is not written. A backslash ends it in every scheme. -/
def readPort (k : Kind) (l : List Char) : Except Fault (Option Nat) :=
  match Text.Decimal.readDigits Text.Decimal.maxU16 0 (l.takeWhile (· != '\\')) with
  | .error _ => .error .port
  | .ok n => .ok (if l.head?.all (· == '\\') ∨ k = .hosted n then none else some n)

/-- An authority, and what follows its port where a slash should. Nothing but an at-sign is no
authority, unless the URL ends with it. -/
def readAuthority (k : Kind) (l : List Char) (isEnd : Bool) :
    Except Fault (Authority × List Char) := do
  if splitUser? l = some ([], []) ∧ !isEnd then throw .emptyHost
  let (user, host) := (splitUser? l).getD ([], l)
  let (name, port) := splitPort false host
  if name = [] ∧ k.isSpecial then throw .emptyHost
  let parsed ← if k.isSpecial then Host.parse name else Host.parseOpaque name
  if parsed.isEmpty ∧ port.isSome then throw .emptyHost
  let number ← match port with
    | some digits => readPort k digits
    | none => pure none
  let password := (user.dropWhile (· != ':')).drop 1
  let authority : Authority :=
    ⟨escaped keptInUser (user.takeWhile (· != ':')), escaped keptInUser password,
      if parsed.isEmpty then none else some parsed, number⟩
  if parsed.isEmpty ∧ !(authority.username.isEmpty && authority.password.isEmpty) then
    throw .emptyHost
  return (authority, (port.getD []).dropWhile (· != '\\'))

def readHosted (k : Kind) (l : List Char) (isEnd : Bool) : Except Fault (Authority × String) := do
  let behind := l.dropWhile (!k.isSlash ·)
  let (authority, extra) ← readAuthority k (l.takeWhile (!k.isSlash ·)) (isEnd && behind.isEmpty)
  match extra ++ behind with
  | [] => return (authority, if k.isSpecial then "/" else "")
  | c :: rest => return (authority, pathText k (if k.isSlash c then rest else c :: rest))

def noAuthority : Authority := ⟨"", "", none, none⟩

/-- Text behind the colon of the file scheme. A drive takes the place of a host. -/
def readFile (l : List Char) : Except Fault (Authority × String) :=
  match l with
  | a :: b :: rest =>
    if Kind.file.isSlash a && Kind.file.isSlash b then do
      let name := rest.takeWhile (!Kind.file.isSlash ·)
      let path := rest.dropWhile (!Kind.file.isSlash ·)
      if isDrive name then return (noAuthority, pathText .file rest)
      let host ← if name = [] then pure none else (Host.parse name).map some
      let isLocal := host = some (.name "localhost") ∨ startsWithDrive (path.drop 1)
      return ({ noAuthority with host := if isLocal then none else host },
        pathText .file (path.drop 1))
    else .ok (noAuthority, pathText .file (if Kind.file.isSlash a then b :: rest else l))
  | [a] => .ok (noAuthority, pathText .file (if Kind.file.isSlash a then [] else [a]))
  | [] => .ok (noAuthority, pathText .file [])

def readOther (l : List Char) (isEnd : Bool) : Except Fault (Option Authority × String) :=
  match l with
  | '/' :: '/' :: rest => (readHosted .other rest isEnd).map fun (a, path) => (some a, path)
  | '/' :: rest => .ok (none, pathText .other rest)
  | _ => .ok (none, escaped isVisible l)

/-- Characters around a text that do not belong to it. -/
def isMargin (c : Char) : Bool := c ≤ ' '

def isBreak (c : Char) : Bool := c == '\t' || c == '\n' || c == '\x0d'

def trimmed (l : List Char) : List Char :=
  ((l.dropWhile isMargin).reverse.dropWhile isMargin).reverse

def parse (s : String) : Except Fault Url := do
  let l := (trimmed s.toList).filter (!isBreak ·)
  match splitScheme? l with
  | none => throw .relative
  | some (scheme, rest) =>
    let k := Kind.ofScheme scheme
    let parts := Parts.ofText rest
    let isEnd := parts.query.isNone && parts.fragment.isNone
    let present := fun (r : Authority × String) => (some r.1, r.2)
    let (authority, path) ← match k with
      | .file => (readFile parts.front).map present
      | .hosted _ => (readHosted k (parts.front.dropWhile k.isSlash) isEnd).map present
      | .other => readOther parts.front isEnd
    return ⟨scheme, authority, path, parts.query.map (escaped (keptInQuery k)),
      parts.fragment.map (escaped keptInFragment)⟩

def withPairs (u : Url) (pairs : List (String × String)) : Url :=
  let added := String.ofList ((Coding.Form.encode pairs).map fun b => Char.ofNat b.toNat)
  let query := u.query.getD ""
  { u with query := some (if query.isEmpty then added else query ++ "&" ++ added) }

end Url

end ConfigRegistry
