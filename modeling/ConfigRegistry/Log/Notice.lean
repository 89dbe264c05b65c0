import ConfigRegistry.Json.Value
import ConfigRegistry.Log.Event

/-!
Events of the program with the part that reports them and their details, and the two forms in which
they are written, one line for each.
-/
namespace ConfigRegistry.Log

inductive Detail where
  | text (s : String)
  | number (n : Nat)
deriving DecidableEq, Repr

def Detail.render : Detail → String
  | .text s => s
  | .number n => toString n

def Detail.toJson : Detail → Json.Value
  | .text s => .string s
  | .number n => .natural n

structure Notice where
  level : Level
  target : String
  message : String
  details : List (String × Detail)
deriving DecidableEq, Repr

namespace Notice

def event (n : Notice) : Event := ⟨n.level, n.message⟩

def styled (hasStyles : Bool) (style s : String) : String :=
  if hasStyles then "\x1b[" ++ style ++ "m" ++ s ++ "\x1b[0m" else s

def levelColumn : Level → String × String
  | .debug => ("34", "DEBUG")
  | .info => ("32", " INFO")
  | .warn => ("33", " WARN")
  | .error => ("31", "ERROR")

def renderPretty (hasStyles : Bool) (time : String) (n : Notice) : String :=
  let styled := styled hasStyles
  let detail := fun (name, value) =>
    " " ++ styled "3" name ++ styled "2" "=" ++ Detail.render value
  styled "2" time ++ " " ++ styled (levelColumn n.level).1 (levelColumn n.level).2 ++ " " ++
    styled "2" n.target ++ styled "2" ":" ++ " " ++ n.message ++
    String.join (n.details.map detail)

def toJson (time : String) (n : Notice) : Json.Value :=
  .object [("timestamp", .string time), ("level", .string n.level.name),
    ("fields", .object (("message", .string n.message) ::
      n.details.map fun (name, value) => (name, value.toJson))),
    ("target", .string n.target)]

end Notice

end ConfigRegistry.Log
