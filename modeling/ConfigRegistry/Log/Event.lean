/-!
Events that the registry reports about its own work.
-/
namespace ConfigRegistry

namespace Log

inductive Level where
  | debug
  | info
  | warn
  | error
deriving DecidableEq, Repr

def Level.name : Level → String
  | .debug => "DEBUG"
  | .info => "INFO"
  | .warn => "WARN"
  | .error => "ERROR"

/-- How severe a level is, the least severe first. -/
def Level.rank : Level → Nat
  | .debug => 1
  | .info => 2
  | .warn => 3
  | .error => 4

structure Event where
  level : Level
  message : String
deriving DecidableEq, Repr

end Log

end ConfigRegistry
