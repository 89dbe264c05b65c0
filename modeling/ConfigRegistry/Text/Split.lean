/-!
Texts cut into pieces at every occurrence of a character. Gluing two texts with the character glues
their pieces, and a text without the character is its own only piece.
-/
namespace ConfigRegistry.Text

/-- The pieces of a text between the occurrences of a character. -/
def split (mark : Char) (s : String) : List String := (s.toList.splitOn mark).map String.ofList

theorem split_append_mark (mark : Char) (s t : String) :
    split mark (s ++ String.ofList [mark] ++ t) = split mark s ++ split mark t := by
  simp [split, List.splitOn_append_cons_self]

theorem split_of_not_mem {mark : Char} {s : String} (h : mark ∉ s.toList) :
    split mark s = [s] := by
  simp [split, List.splitOn_eq_singleton h]

/-- A text is its pieces with the character between them. -/
theorem intercalate_split (mark : Char) (s : String) :
    [mark].intercalate ((split mark s).map String.toList) = s.toList := by
  have hpieces : (split mark s).map String.toList = s.toList.splitOn mark := by
    simp [split, Function.comp_def]
  rw [hpieces, List.intercalate_splitOn]

/-- No piece holds the mark that the pieces were split at. -/
theorem not_mem_of_mem_splitOn {mark : Char} {l piece : List Char}
    (h : piece ∈ l.splitOn mark) : mark ∉ piece := by
  induction l generalizing piece with
  | nil =>
    obtain rfl : piece = [] := by simpa using h
    simp
  | cons c rest ih =>
    rw [List.splitOn_cons_eq_if_modifyHead] at h
    split at h
    · rcases List.mem_cons.mp h with rfl | hrest
      · simp
      · exact ih hrest
    · next hne =>
      cases hsplit : rest.splitOn mark with
      | nil => exact absurd hsplit (List.splitOn_ne_nil mark rest)
      | cons first others =>
        rw [hsplit, List.modifyHead_cons] at h
        rcases List.mem_cons.mp h with rfl | hothers
        · have hfirst := ih (hsplit ▸ List.mem_cons_self)
          have hc : mark ≠ c := fun heq => hne (beq_iff_eq.mpr heq.symm)
          exact List.not_mem_cons_of_ne_of_not_mem hc hfirst
        · exact ih (hsplit ▸ List.mem_cons_of_mem _ hothers)

theorem not_mem_of_mem_split {mark : Char} {s piece : String} (h : piece ∈ split mark s) :
    mark ∉ piece.toList := by
  obtain ⟨l, hl, rfl⟩ := List.mem_map.mp h
  simpa using not_mem_of_mem_splitOn hl

end ConfigRegistry.Text
