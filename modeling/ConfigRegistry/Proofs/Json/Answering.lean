import ConfigRegistry.Json.Record

/-!
What reads answer, whatever bytes they are given. Every part of an answer is an answer of the reader
of that part, but for the values that stand in for missing fields.
-/
namespace ConfigRegistry.Json

def Answers {α : Type} (r : Read α) (a : α) : Prop := ∃ c c', r c = .ok a c'

namespace Answers

open Read

variable {α β σ : Type} {r : Read α} {a : α}

theorem of_pure {a' : α} (h : Answers (pure a') a) : a = a' := by
  obtain ⟨c, c', h⟩ := h
  cases h
  rfl

/-- What an answer of two reads in a row was made of. -/
theorem of_bind {f : α → Read β} {b : β} (h : Answers (r >>= f) b) :
    ∃ a, Answers r a ∧ Answers (f a) b := by
  obtain ⟨c, c'', h⟩ := h
  change EStateM.bind r f c = _ at h
  unfold EStateM.bind at h
  split at h
  · next a c' hr => exact ⟨a, ⟨c, c', hr⟩, ⟨c', c'', h⟩⟩
  · cases h

theorem not_fail (cause : Cause) : ¬ Answers (fail cause : Read α) a := by
  rintro ⟨c, c', h⟩
  cases h

theorem not_failPeek (cause : Cause) : ¬ Answers (failPeek cause : Read α) a := by
  rintro ⟨c, c', h⟩
  cases h

theorem not_reject (cause : Cause) : ¬ Answers (reject cause : Read α) a := by
  rintro ⟨c, c', h⟩
  cases h

theorem of_located (h : Answers (located r) a) : Answers r a := by
  obtain ⟨c, c'', h⟩ := h
  unfold located at h
  split at h
  · next hr =>
    cases h
    exact ⟨c, _, hr⟩
  · cases h

theorem of_closedBy {close : Read Unit} (h : Answers (r.closedBy close) a) : Answers r a := by
  obtain ⟨c, c'', h⟩ := h
  unfold closedBy at h
  split at h
  · next hr =>
    split at h
    · cases h
      exact ⟨c, _, hr⟩
    · cases h
  · split at h <;> cases h

theorem of_all {bytes : List UInt8} (h : r.all bytes = .ok a) : Answers r a := by
  unfold Read.all at h
  dsimp only at h
  split at h
  · next ho =>
    obtain rfl := Except.ok.inj h
    obtain ⟨a', hr, hrest⟩ := of_bind ⟨_, _, ho⟩
    obtain ⟨next, _, hend⟩ := of_bind hrest
    cases next with
    | none => exact of_pure hend ▸ hr
    | some b => exact absurd hend (not_failPeek _)
  · cases h

/-- A loop answers what its last step answers, so all its answers are so if the steps keep to
states that lead there. -/
theorem of_iterate {step : σ → Read (σ ⊕ α)} {s : σ} {I : σ → Prop} {P : α → Prop} (hs : I s)
    (hstep : ∀ s, I s → ∀ next, Answers (step s) next → Sum.elim I P next)
    (h : Answers (iterate step s) a) : P a := by
  have hloop : ∀ fuel s, I s → Answers (loop step fuel s) a → P a := by
    intro fuel
    induction fuel with
    | zero => exact fun s _ h => absurd h (not_fail _)
    | succ fuel ih =>
      intro s hs h
      obtain ⟨next, hnext, hrest⟩ := of_bind h
      have hkept := hstep s hs next hnext
      cases next with
      | inl s' => exact ih s' hkept hrest
      | inr a' => exact of_pure hrest ▸ hkept
  obtain ⟨n, _, h⟩ := of_bind h
  exact hloop _ s hs h

theorem not_mismatch (expected : String) : ¬ Answers (mismatch expected : Read α) a := by
  intro h
  obtain ⟨found, _, h⟩ := of_bind (of_located h)
  cases found with
  | none => exact not_failPeek _ h
  | some name => exact not_reject _ h

/-- What is read further from a text is what the further reading makes of some text. -/
theorem of_textBy {expected : String} {parse : String → Except String α}
    (h : Answers (textBy expected parse) a) : ∃ s, parse s = .ok a := by
  obtain ⟨s, _, h⟩ := of_bind (of_located h)
  refine ⟨s, ?_⟩
  revert h
  cases parse s with
  | ok a' => exact fun h => congrArg _ (of_pure h).symm
  | error message => exact fun h => absurd h (not_reject _)

theorem of_list {xs : List α} (h : Answers (list r) xs) : ∀ a ∈ xs, Answers r a := by
  obtain ⟨b, _, h⟩ := of_bind (of_located h)
  split at h
  · obtain ⟨_, _, h⟩ := of_bind h
    refine of_iterate (I := fun found => ∀ a ∈ found, Answers r a)
      (P := fun xs => ∀ a ∈ xs, Answers r a) ?_ ?_ (of_closedBy h)
    · simp
    · intro found hfound next h
      obtain ⟨more, _, h⟩ := of_bind h
      split at h
      · obtain ⟨a, ha, h⟩ := of_bind h
        obtain rfl := of_pure h
        exact List.forall_mem_cons.mpr ⟨ha, hfound⟩
      · obtain rfl := of_pure h
        exact fun a ha => hfound a (List.mem_reverse.mp ha)
  · exact absurd h (not_mismatch _)

end Answers

/-! Records. -/

def Field.Gives {α : Type} (f : Field α) (a : α) : Prop :=
  Answers f.read a ∨ f.absent = some a ∨ f.beyond = some a

namespace Fields

def Give : {types : List Type} → Fields types → Row types → Prop
  | _, .nil, _ => True
  | _, .cons f rest, (a, row) => f.Gives a ∧ rest.Give row

def Found : {types : List Type} → Fields types → Slots types → Prop
  | _, .nil, _ => True
  | _, .cons f rest, (slot, slots) => (∀ a ∈ slot, Answers f.read a) ∧ rest.Found slots

open Answers

variable {types : List Type} {fields : Fields types} {slots : Slots types} {row : Row types}

theorem found_empty (fields : Fields types) : fields.Found (Slots.empty types) := by
  induction fields with
  | nil => trivial
  | cons f rest ih => exact ⟨by simp, ih⟩

/-- One more member keeps the slots true to what was read. -/
theorem Found.readMember {name : String} {slots' : Slots types} (hslots : fields.Found slots)
    (h : Answers (fields.readMember name slots) slots') : fields.Found slots' := by
  induction fields with
  | nil => trivial
  | cons f rest ih =>
    obtain ⟨slot, slots⟩ := slots
    obtain ⟨hslot, hslots⟩ := hslots
    unfold readMember at h
    split at h
    · cases slot with
      | some a => exact absurd h (not_reject _)
      | none =>
        obtain ⟨_, _, h⟩ := of_bind h
        obtain ⟨a, ha, h⟩ := of_bind h
        obtain rfl := of_pure h
        exact ⟨fun a' ha' => Option.some.inj ha' ▸ ha, hslots⟩
    · obtain ⟨slots', hread, h⟩ := of_bind h
      obtain rfl := of_pure h
      exact ⟨hslot, ih hslots hread⟩

theorem Found.complete (hslots : fields.Found slots) (h : Answers (fields.complete slots) row) :
    fields.Give row := by
  induction fields with
  | nil => trivial
  | cons f rest ih =>
    obtain ⟨slot, slots⟩ := slots
    obtain ⟨hslot, hslots⟩ := hslots
    unfold Fields.complete at h
    cases hvalue : slot.or f.absent with
    | none =>
      rw [hvalue] at h
      exact absurd h (not_reject _)
    | some a =>
      rw [hvalue] at h
      obtain ⟨row', hrest, h⟩ := of_bind h
      obtain rfl := of_pure h
      refine ⟨?_, ih hslots hrest⟩
      rcases Option.or_eq_some_iff.mp hvalue with hfound | ⟨_, habsent⟩
      · exact .inl (hslot a hfound)
      · exact .inr (.inl habsent)

/-- Whatever record comes out of an object, its fields give it. -/
theorem give_of_readObject (h : Answers fields.readObject row) : fields.Give row := by
  obtain ⟨slots, hslots, h⟩ := of_bind h
  refine Found.complete (of_iterate (I := fun state => fields.Found state.2) ?_ ?_ hslots) h
  · exact found_empty fields
  · intro state hstate next h
    obtain ⟨more, _, h⟩ := of_bind h
    split at h
    · obtain ⟨name, _, h⟩ := of_bind h
      obtain ⟨slots', hmember, h⟩ := of_bind h
      obtain rfl := of_pure h
      exact hstate.readMember hmember
    · obtain rfl := of_pure h
      exact hstate

/-- The same for a record that is written as a list. -/
theorem give_of_readList {expected : String} {position : Nat}
    (h : Answers (fields.readList expected position) row) : fields.Give row := by
  induction fields generalizing position with
  | nil => trivial
  | cons f rest ih =>
    obtain ⟨more, _, h⟩ := of_bind h
    split at h
    · obtain ⟨a, ha, h⟩ := of_bind h
      obtain ⟨row', hrest, h⟩ := of_bind h
      obtain rfl := of_pure h
      exact ⟨.inl ha, ih hrest⟩
    · split at h
      · exact absurd h (not_reject _)
      · next a hbeyond =>
        obtain ⟨row', hrest, h⟩ := of_bind h
        obtain rfl := of_pure h
        exact ⟨.inr (.inr hbeyond), ih hrest⟩

/-- The values of a record that is read are answers of the readers of its fields, or stand in for
them. -/
theorem give_of_record {name : String} (h : Answers (record name fields) row) :
    fields.Give row := by
  obtain ⟨b, _, h⟩ := of_bind (of_located h)
  split at h
  · obtain ⟨_, _, h⟩ := of_bind h
    exact give_of_readList (of_closedBy h)
  · split at h
    · obtain ⟨_, _, h⟩ := of_bind h
      exact give_of_readObject (of_closedBy h)
    · exact absurd h (not_mismatch _)

end Fields

/-- A field that must be there gives answers of its reader only. -/
theorem Field.Gives.answers {α : Type} {name : String} {r : Read α} {a : α}
    (h : (Field.required name r).Gives a) : Answers r a := by
  simpa [Field.Gives, Field.required] using h

end ConfigRegistry.Json
