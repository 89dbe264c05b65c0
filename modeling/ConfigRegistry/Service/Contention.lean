import ConfigRegistry.Service.Basic

/-!
Locks under contention. Here the steps by which a caller comes to a lock and leaves it are taken
apart into single acts, and callers that run side by side may act in any order. To look into the
table, to queue for a mutex, to pass it on and to drop a reference to it are acts of their own, so
that between any two of them others may act.
-/
namespace ConfigRegistry.Service

/-- Where a caller stands with the locks. -/
inductive Stance where
  /-- It refers to no mutex. -/
  | outside
  /-- It refers to the mutex that the table had for it, and does not queue yet. -/
  | found (g : Guard)
  /-- It queues for the mutex, or was given it and has not noticed yet. -/
  | waiting (g : Guard)
  /-- It works under the lock. -/
  | holding (g : Guard)
  /-- It has passed the mutex on and still refers to it. -/
  | leaving (g : Guard)
  /-- It refers to the mutex no longer and is about to look into the table. -/
  | clearing (id : String)
  /-- It gave up before it worked, is out of the queue, and still refers to the mutex. -/
  | quitting (g : Guard)
deriving DecidableEq, Repr

namespace Stance

def refers? : Stance → Option Guard
  | .found g | .waiting g | .holding g | .leaving g | .quitting g => some g
  | .outside | .clearing _ => none

def id? : Stance → Option String
  | .found g | .waiting g | .holding g | .leaving g | .quitting g => some g.id
  | .clearing id => some id
  | .outside => none

end Stance

/-- What a caller does at once. -/
inductive Act where
  /-- A new caller comes. -/
  | comes
  /-- Refers to the mutex of an identifier, a new one if the table has none. -/
  | finds (caller : Nat) (id : String)
  /-- Takes the mutex if it is free, or queues for it. -/
  | enters (caller : Nat) (g : Guard)
  /-- Notices that it was given the mutex, and starts to work. -/
  | takes (caller : Nat) (g : Guard)
  /-- Passes the mutex on, when it is done or given up at work. -/
  | passes (caller : Nat) (g : Guard)
  /-- Drops its reference after it passed the mutex on. -/
  | drops (caller : Nat) (g : Guard)
  /-- Takes the mutex of an identifier out of the table if nobody refers to it. -/
  | clears (caller : Nat) (id : String)
  /-- Is given up while it waits: leaves the queue, or passes on the mutex that it was given. -/
  | quits (caller : Nat) (g : Guard)
  /-- Drops its reference after it was given up before it worked. It leaves the table alone. -/
  | forgets (caller : Nat) (g : Guard)
deriving DecidableEq, Repr

structure Contention where
  locks : Locks
  /-- By the number of the caller. -/
  stances : List Stance

namespace Contention

def start : Contention := ⟨.empty, []⟩

def At (c : Contention) (caller : Nat) (stance : Stance) : Prop := c.stances[caller]? = some stance

instance (c : Contention) (caller : Nat) (stance : Stance) : Decidable (c.At caller stance) :=
  inferInstanceAs (Decidable (_ = _))

/-- How many callers refer to a mutex. The reference that the table has is not counted. -/
def references (c : Contention) (number : Nat) : Nat :=
  c.stances.countP fun s => s.refers?.any (·.number == number)

/-- The locks without the mutex of an identifier, if no caller refers to it. -/
def swept (c : Contention) (id : String) : Locks :=
  match c.locks.table.get? id with
  | some number =>
    if c.references number = 0 then { c.locks with table := c.locks.table.erase id } else c.locks
  | none => c.locks

def moved (c : Contention) (locks : Locks) (caller : Nat) (stance : Stance) : Contention :=
  ⟨locks, c.stances.set caller stance⟩

/-- Who can do what. A caller may be held up after its look-up and be given up before it queues. -/
def Enabled (c : Contention) : Act → Prop
  | .comes => True
  | .finds caller _ => c.At caller .outside
  | .enters caller g => c.At caller (.found g)
  | .takes caller g => c.At caller (.waiting g) ∧ c.locks.holds g.number caller = true
  | .passes caller g => c.At caller (.holding g)
  | .drops caller g => c.At caller (.leaving g)
  | .clears caller id => c.At caller (.clearing id)
  | .quits caller g => c.At caller (.waiting g)
  | .forgets caller g => c.At caller (.found g) ∨ c.At caller (.quitting g)

instance (c : Contention) (act : Act) : Decidable (c.Enabled act) :=
  match act with
  | .comes => inferInstanceAs (Decidable True)
  | .finds _ _ | .enters _ _ | .passes _ _ | .drops _ _ | .clears _ _ | .quits _ _ =>
    inferInstanceAs (Decidable (At _ _ _))
  | .takes _ _ => inferInstanceAs (Decidable (_ ∧ _))
  | .forgets _ _ => inferInstanceAs (Decidable (_ ∨ _))

def next (c : Contention) : Act → Contention
  | .comes => { c with stances := c.stances ++ [.outside] }
  | .finds caller id =>
    let (number, locks) := c.locks.refer id
    c.moved locks caller (.found ⟨id, number⟩)
  | .enters caller g =>
    let locks := c.locks.modify g.number (·.enter caller)
    c.moved locks caller (if locks.holds g.number caller then .holding g else .waiting g)
  | .takes caller g => c.moved c.locks caller (.holding g)
  | .passes caller g => c.moved (c.locks.pass g.number) caller (.leaving g)
  | .drops caller g => c.moved c.locks caller (.clearing g.id)
  | .clears caller id => c.moved (c.swept id) caller .outside
  | .quits caller g => c.moved (c.locks.abandon g.number caller) caller (.quitting g)
  | .forgets caller _ => c.moved c.locks caller .outside

/-- What any number of callers can come to that act in any order, with their acts, the first
first. -/
inductive Runs : List Act → Contention → Prop
  | start : Runs [] start
  | step {log : List Act} {c : Contention} (h : Runs log c) (act : Act) (henabled : c.Enabled act) :
      Runs (log ++ [act]) (c.next act)

end Contention

end ConfigRegistry.Service
