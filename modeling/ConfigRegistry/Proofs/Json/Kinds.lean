import ConfigRegistry.Proofs.Json.Objects

/-!
Values of a kind that is known beforehand are read back: flags, texts with a further reading, names
of choices, values that may be null, and lists of values.
-/
namespace ConfigRegistry.Json

open Coding Fields

variable {α : Type} {r : Read α} {v : Value} {a : α}

/-- A reader gets this from the text of a value, whatever follows the text. -/
def Restores (r : Read α) (v : Value) (a : α) : Prop :=
  ∀ left, Reads r (Utf8.encode v.render ++ left) a left

namespace Restores

theorem all (h : Restores r v a) : r.all (Utf8.encode v.render) = .ok a := by
  have hread := h []
  rw [List.append_nil] at hread
  exact hread.all

theorem takes (h : Restores r v a) (name : String) : (Field.required name r).Takes v a :=
  fun left _ => h left

theorem text (s : String) : Restores Read.text (.string s) s := reads_text s

theorem boolean (b : Bool) : Restores Read.boolean (.bool b) b := by
  intro left
  cases b with
  | true =>
    rw [Value.encode_true]
    refine Reads.located ((Reads.first rfl _).bind ?_)
    exact (Reads.eat 0x74 _).bind ((reads_letters _ left).bind (Reads.pure true left))
  | false =>
    rw [Value.encode_false]
    refine Reads.located ((Reads.first rfl _).bind ?_)
    exact (Reads.eat 0x66 _).bind ((reads_letters _ left).bind (Reads.pure false left))

/-- A text is read further if the further reading accepts it. -/
theorem textBy {parse : String → Except String α} {s : String} (h : parse s = .ok a)
    (expected : String) : Restores (Read.textBy expected parse) (.string s) a := by
  refine fun left => Reads.located ((reads_textAs expected s left).bind ?_)
  simp only [h]
  exact Reads.pure a left

theorem variant {variants : List (String × α)} {name : String} (h : variants.lookup name = some a) :
    Restores (Read.variant variants) (.string name) a := by
  intro left
  have hname : Reads (Read.variantName variants) (Utf8.encode (Value.string name).render ++ left) a
      left := by
    refine Reads.located ((reads_textAs _ name left).bind ?_)
    simp only [h]
    exact Reads.pure a left
  rw [Value.render, Text.encode_quote, List.cons_append] at hname ⊢
  exact (Reads.peekPastBlank rfl _).bind hname

end Restores

/-! Values that may be null. -/

/-- Texts and objects begin with a mark of their own. -/
inductive Value.IsMarked : Value → Prop
  | string (s : String) : IsMarked (.string s)
  | object (members : List (String × Value)) : IsMarked (.object members)

theorem Value.IsMarked.exists_render_eq_cons (h : v.IsMarked) :
    ∃ b rest, Utf8.encode v.render = b :: rest ∧ (b = 0x22 ∨ b = 0x7b) := by
  cases h with
  | string s => exact ⟨0x22, _, Text.encode_quote s, .inl rfl⟩
  | object members =>
    have hopen : Utf8.encode "\x7b" = [0x7b] := (Utf8.encode_eq_flatMap _).trans rfl
    refine ⟨0x7b, Utf8.encode (Value.renderMembers members) ++ Utf8.encode "\x7d", ?_, .inr rfl⟩
    rw [Value.render, Utf8.encode_append, Utf8.encode_append, hopen, List.append_assoc,
      List.singleton_append]

theorem reads_optional_null (r : Read α) (left : List UInt8) :
    Reads r.optional (Utf8.encode Value.null.render ++ left) none left := by
  have hword : Utf8.encode Value.null.render = 0x6e :: Skip.afterN := by
    rw [Utf8.encode_eq_flatMap]
    decide
  rw [hword]
  refine (Reads.peekPastBlank rfl _).bind ?_
  exact (Reads.eat 0x6e _).bind ((reads_letters _ left).bind (Reads.pure none left))

theorem reads_optional_some (hv : v.IsMarked) (h : Restores r v a) (left : List UInt8) :
    Reads r.optional (Utf8.encode v.render ++ left) (some a) left := by
  have hread := h left
  obtain ⟨b, rest, hrender, hb⟩ := hv.exists_render_eq_cons
  rw [hrender, List.cons_append] at hread ⊢
  rcases hb with rfl | rfl
  · exact (Reads.peekPastBlank rfl _).bind (hread.bind (Reads.pure _ left))
  · exact (Reads.peekPastBlank rfl _).bind (hread.bind (Reads.pure _ left))

/-- A field that may be null takes a value that stands there. -/
theorem Restores.takes_optional (h : Restores r v a) (hv : v.IsMarked) (name : String) :
    (Field.optional name r).Takes v (some a) := fun left _ => reads_optional_some hv h left

/-- A field that may be null takes null or a value. -/
theorem takes_optional {f : α → Value} {o : Option α} (h : ∀ x ∈ o, Restores r (f x) x)
    (hf : ∀ x, (f x).IsMarked) (name : String) :
    (Field.optional name r).Takes (Value.optional f o) o := by
  cases o with
  | none => exact fun left _ => reads_optional_null r left
  | some x => exact (h x rfl).takes_optional (hf x) name

/-- A member that is left out if there is nothing in it is written as such. -/
theorem Fields.Written.optional {types : List Type} {rest : Fields types} {row : Row types}
    {members : List (String × Value)} {f : α → Value} {o : Option α}
    (h : ∀ x ∈ o, Restores r (f x) x) (hf : ∀ x, (f x).IsMarked) (name : String)
    (hrest : Written rest members row) :
    Written (.cons (.optional name r) rest) (Value.member? name (o.map f) ++ members) (o, row) := by
  cases o with
  | none => exact .leftOut rfl hrest
  | some x => exact .member ((h x rfl).takes_optional (hf x) name) hrest

/-! Lists. -/

def laterItems (items : List Value) : List UInt8 :=
  items.flatMap fun v => 0x2c :: Utf8.encode v.render

theorem encode_renderItems (v : Value) (items : List Value) :
    Utf8.encode (Value.renderItems (v :: items)) = Utf8.encode v.render ++ laterItems items := by
  have hcomma : Utf8.encode "," = [0x2c] := (Utf8.encode_eq_flatMap _).trans rfl
  induction items generalizing v with
  | nil => simp [Value.renderItems, laterItems]
  | cons next items ih =>
    simp only [Value.renderItems, Utf8.encode_append, hcomma, ih]
    simp [laterItems]

theorem length_le_laterItems (items : List Value) : items.length ≤ (laterItems items).length := by
  induction items with
  | nil => exact Nat.le_refl 0
  | cons v items ih =>
    rw [laterItems, List.flatMap_cons, List.length_append, List.length_cons, List.length_cons]
    exact Nat.le_trans (Nat.succ_le_succ ih) (by rw [laterItems]; omega)

def itemStep (item : Read α) (found : List α) : Read (List α ⊕ List α) := do
  if ← hasItem found.isEmpty then return .inl ((← item) :: found)
  else return .inr found.reverse

theorem reads_itemStep_end (item : Read α) (found : List α) (left : List UInt8) :
    Reads (itemStep item found) (0x5d :: left) (.inr found.reverse) (0x5d :: left) := by
  have hend : Reads (hasItem found.isEmpty) (0x5d :: left) false (0x5d :: left) :=
    (Reads.peekPastBlank rfl left).bind (Reads.pure false _)
  exact hend.bind (Reads.pure _ _)

theorem reads_itemStep (h : Restores r v a) (hv : v.IsMarked) (found : List α)
    (left : List UInt8) :
    Reads (itemStep r found) (lead found.isEmpty ++ (Utf8.encode v.render ++ left))
      (.inl (a :: found)) left := by
  have hread := h left
  obtain ⟨b, rest, hrender, hb⟩ := hv.exists_render_eq_cons
  rw [hrender, List.cons_append] at hread ⊢
  have hhas : Reads (hasItem found.isEmpty) (lead found.isEmpty ++ b :: (rest ++ left)) true
      (b :: (rest ++ left)) := by
    cases found.isEmpty with
    | true =>
      rcases hb with rfl | rfl <;> exact (Reads.peekPastBlank rfl _).bind (Reads.pure true _)
    | false =>
      refine (Reads.peekPastBlank rfl _).bind ((Reads.eat 0x2c _).bind ?_)
      rcases hb with rfl | rfl <;> exact (Reads.peekPastBlank rfl _).bind (Reads.pure true _)
  exact hhas.bind (hread.bind (Reads.pure _ left))

section

variable {f : α → Value} {xs : List α}

/-- The items of a list are read one by one in order, after at least one of them. -/
theorem reads_items (h : ∀ x ∈ xs, Restores r (f x) x) (hf : ∀ x, (f x).IsMarked)
    {found : List α} (hfound : found ≠ []) {fuel : Nat} (hfuel : xs.length < fuel)
    (left : List UInt8) :
    Reads (Read.loop (itemStep r) fuel found) (laterItems (xs.map f) ++ 0x5d :: left)
      (found.reverse ++ xs) (0x5d :: left) := by
  induction xs generalizing found fuel with
  | nil =>
    obtain ⟨fuel, rfl⟩ : ∃ n, fuel = n + 1 := ⟨fuel - 1, by omega⟩
    rw [List.append_nil]
    exact (reads_itemStep_end r found left).loop_done
  | cons x xs ih =>
    obtain ⟨fuel, rfl⟩ : ∃ n, fuel = n + 1 := ⟨fuel - 1, by omega⟩
    have hstep := reads_itemStep (h x List.mem_cons_self) (hf x) found
      (laterItems (xs.map f) ++ 0x5d :: left)
    have hrest := ih (fun y hy => h y (List.mem_cons_of_mem _ hy)) (List.cons_ne_nil x found)
      (Nat.lt_of_succ_lt_succ hfuel)
    have hbytes : laterItems ((x :: xs).map f) ++ 0x5d :: left = lead found.isEmpty ++
        (Utf8.encode (f x).render ++ (laterItems (xs.map f) ++ 0x5d :: left)) := by
      simp [laterItems, lead, hfound]
    rw [hbytes]
    simpa using hstep.loop_next hrest

/-- A list of values that are read back is read back. -/
theorem Restores.list (h : ∀ x ∈ xs, Restores r (f x) x) (hf : ∀ x, (f x).IsMarked) :
    Restores (Read.list r) (.array (xs.map f)) xs := by
  intro left
  have hopen : Utf8.encode "[" = [0x5b] := (Utf8.encode_eq_flatMap _).trans rfl
  have hclose : Utf8.encode "]" = [0x5d] := (Utf8.encode_eq_flatMap _).trans rfl
  have hbytes : Utf8.encode (Value.array (xs.map f)).render ++ left =
      0x5b :: (Utf8.encode (Value.renderItems (xs.map f)) ++ 0x5d :: left) := by
    simp only [Value.render, Utf8.encode_append, hopen, hclose, List.append_assoc,
      List.cons_append, List.nil_append]
  have hend : Reads closeList (0x5d :: left) () left :=
    (Reads.peekPastBlank rfl left).bind (Reads.eat 0x5d left)
  rw [hbytes]
  refine Reads.located ((Reads.first rfl _).bind ((Reads.eat 0x5b _).bind ?_))
  refine Reads.closedBy (Reads.iterate ?_) hend
  cases xs with
  | nil =>
    have hempty : Utf8.encode (Value.renderItems []) = [] :=
      (Utf8.encode_eq_flatMap _).trans rfl
    rw [List.map_nil, hempty, List.nil_append]
    exact (reads_itemStep_end r [] left).loop_done
  | cons x xs =>
    have hstep := reads_itemStep (h x List.mem_cons_self) (hf x) []
      (laterItems (xs.map f) ++ 0x5d :: left)
    have hfuel : xs.length < (Utf8.encode (f x).render ++
        (laterItems (xs.map f) ++ 0x5d :: left)).length := by
      have hlength := length_le_laterItems (xs.map f)
      rw [List.length_map] at hlength
      simp only [List.length_append, List.length_cons]
      omega
    have hrest := reads_items (fun y hy => h y (List.mem_cons_of_mem _ hy)) hf
      (List.cons_ne_nil x []) hfuel left
    rw [List.map_cons, encode_renderItems, List.append_assoc]
    exact hstep.loop_next hrest

end

end ConfigRegistry.Json
