import ConfigRegistry.Table

/-!
Locks by identifier. A table refers to one mutex for every identifier that is being worked on. A
caller takes the mutex that the table refers to, or puts a new one there, and queues on it; whoever
lets go of a mutex passes it to the first in the queue, and then takes it out of the table if nobody
else refers to it. A caller that gives up while it queues leaves the table alone.
-/
namespace ConfigRegistry.Service

/-- A mutex: who holds it, and who queues for it, the first first. -/
structure Mutex where
  holder : Option Nat
  queue : List Nat
deriving DecidableEq, Repr

namespace Mutex

def free : Mutex := ⟨none, []⟩

def enter (m : Mutex) (caller : Nat) : Mutex :=
  match m.holder with
  | none => { m with holder := some caller }
  | some _ => { m with queue := m.queue ++ [caller] }

/-- The holder leaves; the first in the queue holds the mutex next. -/
def pass (m : Mutex) : Mutex := ⟨m.queue.head?, m.queue.tail⟩

def references (m : Mutex) : Nat := m.holder.toList.length + m.queue.length

end Mutex

structure Locks where
  /-- The number of the mutex of an identifier. -/
  table : Table Nat
  /-- All mutexes by number. -/
  mutexes : List Mutex

namespace Locks

def empty : Locks := ⟨.empty, []⟩

def mutex (l : Locks) (number : Nat) : Mutex := l.mutexes[number]?.getD .free

def modify (l : Locks) (number : Nat) (f : Mutex → Mutex) : Locks :=
  { l with mutexes := l.mutexes.modify number f }

/-- The mutex of an identifier, new if the table has none. -/
def refer (l : Locks) (id : String) : Nat × Locks :=
  match l.table.get? id with
  | some number => (number, l)
  | none =>
    (l.mutexes.length, ⟨l.table.insert id l.mutexes.length, l.mutexes ++ [.free]⟩)

def enter (l : Locks) (id : String) (caller : Nat) : Nat × Locks :=
  let (number, l) := l.refer id
  (number, l.modify number (·.enter caller))

def holds (l : Locks) (number caller : Nat) : Bool := (l.mutex number).holder == some caller

def pass (l : Locks) (number : Nat) : Locks := l.modify number Mutex.pass

/-- Takes the mutex of an identifier out of the table if nobody refers to it any more. -/
def sweep (l : Locks) (id : String) : Locks :=
  match l.table.get? id with
  | some number =>
    if (l.mutex number).references = 0 then { l with table := l.table.erase id } else l
  | none => l

def release (l : Locks) (id : String) (number : Nat) : Locks := (l.pass number).sweep id

/-- What happens to a caller that gives up before it works: it leaves the queue, or passes on a
mutex that it was given meanwhile. -/
def abandon (l : Locks) (number caller : Nat) : Locks :=
  if l.holds number caller then l.pass number
  else l.modify number fun m => { m with queue := m.queue.filter (· != caller) }

end Locks

end ConfigRegistry.Service
