/-!
White space, and cutting it off both ends of a text.
-/
namespace ConfigRegistry.Text

def isBlank (c : Char) : Bool :=
  let n := c.toNat
  (0x09 ≤ n && n ≤ 0x0d) || n == 0x20 || n == 0x85 || n == 0xa0 || n == 0x1680 ||
  (0x2000 ≤ n && n ≤ 0x200a) || n == 0x2028 || n == 0x2029 || n == 0x202f || n == 0x205f ||
  n == 0x3000

/-- The white space bytes of ASCII: space, tab, line feed, form feed and carriage return. -/
def isBlankByte (b : UInt8) : Bool :=
  b == 0x20 || b == 0x09 || b == 0x0a || b == 0x0c || b == 0x0d

/-- Drops the matching elements at both ends. -/
def trimBoth {α : Type} (p : α → Bool) (l : List α) : List α :=
  ((l.dropWhile p).reverse.dropWhile p).reverse

/-- Drops the white space at both ends. -/
def trim (s : String) : String := String.ofList (trimBoth isBlank s.toList)

theorem trimBoth_eq_self_of_ends {α : Type} (p : α → Bool) (l : List α)
    (hfirst : ∀ x ∈ l.head?, p x = false) (hlast : ∀ x ∈ l.getLast?, p x = false) :
    trimBoth p l = l := by
  have hdrop : ∀ m : List α, (∀ x ∈ m.head?, p x = false) → m.dropWhile p = m := by
    intro m hm
    cases m with
    | nil => rfl
    | cons x rest => simp [hm x (by simp)]
  unfold trimBoth
  rw [hdrop l hfirst, hdrop l.reverse (by simpa using hlast), List.reverse_reverse]

end ConfigRegistry.Text
