import ConfigRegistry.Text.Ranges

/-!
Maps between characters as sorted runs: equally spaced characters that all move by the same
distance. A table is written as four hexadecimal numbers for each run.
-/
namespace ConfigRegistry.Text

/-- The first character, how many there are, the step between them, and how far they move. -/
structure Run where
  first : Nat
  count : Nat
  step : Nat
  shift : Int

abbrev Runs := Array Run

/-- The distance in a table is doubled, and one less than that if it is negative. -/
def Runs.ofNumbers : List Nat → List Run
  | first :: count :: step :: shift :: rest =>
    ⟨first, count, step, if shift % 2 = 0 then (shift / 2 : Nat) else -((shift + 1) / 2 : Nat)⟩ ::
      Runs.ofNumbers rest
  | _ => []

def Runs.ofText (s : String) : Runs := (Runs.ofNumbers (tableNumbers s)).toArray

def Run.image? (r : Run) (n : Nat) : Option Nat :=
  if r.first ≤ n ∧ n ≤ r.first + (r.count - 1) * r.step ∧ (n - r.first) % r.step = 0 then
    some (n + r.shift).toNat
  else none

def Runs.image? (r : Runs) (n : Nat) : Option Nat :=
  (r[lastStart (fun i => ((r[i]?).map Run.first).getD 0) n 0 r.size]?).bind (·.image? n)

end ConfigRegistry.Text
