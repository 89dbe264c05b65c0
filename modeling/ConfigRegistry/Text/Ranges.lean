/-!
Sets of characters as sorted, disjoint ranges. A table is written as pairs of hexadecimal numbers:
how far a range starts behind the end of the one before it, and how many characters follow its
first one.
-/
namespace ConfigRegistry.Text

/-- The numbers of a table text, written in hexadecimal with white space between them. -/
def tableNumbers (s : String) : List Nat :=
  let step := fun (state : Option Nat × List Nat) (c : Char) =>
    let value := if '0' ≤ c ∧ c ≤ '9' then some (c.toNat - 0x30)
      else if 'a' ≤ c ∧ c ≤ 'f' then some (c.toNat - 0x57)
      else none
    match value with
    | some v => (some (state.1.getD 0 * 16 + v), state.2)
    | none => (none, match state.1 with
      | some n => n :: state.2
      | none => state.2)
  let (last, numbers) := s.foldl step (none, [])
  (match last with
    | some n => n :: numbers
    | none => numbers).reverse

/-- Ranges from first to last character. -/
abbrev Ranges := Array (Nat × Nat)

def Ranges.ofNumbers (start : Nat) : List Nat → List (Nat × Nat)
  | gap :: span :: rest =>
    (start + gap, start + gap + span) :: Ranges.ofNumbers (start + gap + span) rest
  | _ => []

def Ranges.ofText (s : String) : Ranges := (Ranges.ofNumbers 0 (tableNumbers s)).toArray

/-- The position below `high` of the last entry that does not start behind `n`. -/
def lastStart (start : Nat → Nat) (n low high : Nat) : Nat :=
  if h : low + 1 < high then
    let middle := (low + high) / 2
    if start middle ≤ n then lastStart start n middle high else lastStart start n low middle
  else low
termination_by high - low
decreasing_by all_goals omega

def Ranges.contains (r : Ranges) (n : Nat) : Bool :=
  match r[lastStart (fun i => ((r[i]?).map Prod.fst).getD 0) n 0 r.size]? with
  | some (first, last) => first ≤ n && n ≤ last
  | none => false

end ConfigRegistry.Text
