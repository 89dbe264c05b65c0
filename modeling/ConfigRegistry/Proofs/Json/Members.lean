import ConfigRegistry.Json.Value

/-!
The members in a value, at any depth.
-/
namespace ConfigRegistry.Json.Value

/-- Somewhere in a value stands a member of this name. -/
inductive Mentions (name : String) : Value → Prop
  | here {members : List (String × Value)} {v : Value} (h : (name, v) ∈ members) :
      Mentions name (.object members)
  | item {items : List Value} {v : Value} (h : v ∈ items) (hv : Mentions name v) :
      Mentions name (.array items)
  | member {members : List (String × Value)} {m : String × Value} (h : m ∈ members)
      (hv : Mentions name m.2) : Mentions name (.object members)

variable {name : String}

@[simp] theorem not_mentions_null : ¬ Mentions name .null := nofun

@[simp] theorem not_mentions_bool (b : Bool) : ¬ Mentions name (.bool b) := nofun

@[simp] theorem not_mentions_number (n : Number) : ¬ Mentions name (.number n) := nofun

@[simp] theorem not_mentions_string (s : String) : ¬ Mentions name (.string s) := nofun

@[simp] theorem mentions_array {items : List Value} :
    Mentions name (.array items) ↔ ∃ v ∈ items, Mentions name v := by
  constructor
  · rintro (_ | ⟨h, hv⟩ | _)
    exact ⟨_, h, hv⟩
  · rintro ⟨v, h, hv⟩
    exact .item h hv

theorem mentions_object {members : List (String × Value)} :
    Mentions name (.object members) ↔ ∃ m ∈ members, m.1 = name ∨ Mentions name m.2 := by
  constructor
  · rintro (h | _ | ⟨h, hv⟩)
    · exact ⟨_, h, .inl rfl⟩
    · exact ⟨_, h, .inr hv⟩
  · rintro ⟨⟨other, v⟩, h, rfl | hv⟩
    · exact .here h
    · exact .member h hv

@[simp] theorem not_mentions_object_nil : ¬ Mentions name (.object []) := by
  simp [mentions_object]

@[simp] theorem mentions_object_cons (m : String × Value) (rest : List (String × Value)) :
    Mentions name (.object (m :: rest)) ↔
      m.1 = name ∨ Mentions name m.2 ∨ Mentions name (.object rest) := by
  simp [mentions_object, or_assoc]

@[simp] theorem mentions_object_append (front rest : List (String × Value)) :
    Mentions name (.object (front ++ rest)) ↔
      Mentions name (.object front) ∨ Mentions name (.object rest) := by
  simp [mentions_object, or_and_right, exists_or]

@[simp] theorem mentions_object_member? (other : String) (v : Option Value) :
    Mentions name (.object (member? other v)) ↔
      ∃ w, v = some w ∧ (other = name ∨ Mentions name w) := by
  cases v with
  | none => simp [member?]
  | some w => simp [member?]

/-- A member that may be left out is mentioned if it is there. -/
theorem mentions_object_member?_map {α : Type} {f : α → Value} (hf : ∀ x, ¬ Mentions name (f x))
    (other : String) (a : Option α) :
    Mentions name (.object (member? other (a.map f))) ↔ other = name ∧ a.isSome := by
  cases a <;> simp [hf]

@[simp] theorem mentions_optional {α : Type} (f : α → Value) (a : Option α) :
    Mentions name (optional f a) ↔ ∃ x, a = some x ∧ Mentions name (f x) := by
  cases a <;> simp [optional]

end ConfigRegistry.Json.Value
