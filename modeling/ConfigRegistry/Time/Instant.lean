import ConfigRegistry.Time.Calendar

/-!
Moments in time: whole seconds from the start of 1970 and the part of a second behind them. A leap
second is the second before it with a part of one second or more.
-/
namespace ConfigRegistry.Time

structure Instant where
  seconds : Int
  nanos : Nat
deriving DecidableEq, Repr

namespace Instant

def isBefore (a b : Instant) : Bool :=
  a.seconds < b.seconds || (a.seconds == b.seconds && a.nanos < b.nanos)

/-- The moment a number of nanoseconds later, with no leap second on the way. -/
def addNanos (t : Instant) (n : Nat) : Instant :=
  ⟨t.seconds + (t.nanos + n) / 1000000000, (t.nanos + n) % 1000000000⟩

def secondsPerDay : Int := 86400

/-- The first and the last year that a moment can lie in. -/
def minYear : Int := -262143
def maxYear : Int := 262142

def minSeconds : Int := (Date.mk minYear 1 1).days * secondsPerDay
def maxSeconds : Int := (Date.mk (maxYear + 1) 1 1).days * secondsPerDay - 1

/-- A number of seconds later, if a moment can lie there. -/
def addSeconds? (t : Instant) (n : Int) : Option Instant :=
  let moved := t.seconds + n
  if minSeconds ≤ moved ∧ moved ≤ maxSeconds then some ⟨moved, t.nanos⟩ else none

end Instant

end ConfigRegistry.Time
