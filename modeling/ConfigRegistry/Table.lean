/-!
Finite tables from names to values. A table holds every name at most once; look-ups after insertion
and removal behave as those of a map.
-/
namespace ConfigRegistry

structure Table (α : Type) where
  entries : List (String × α)

namespace Table

variable {α : Type}

def empty : Table α := ⟨[]⟩

def get? (t : Table α) (name : String) : Option α := t.entries.lookup name

def contains (t : Table α) (name : String) : Bool := (t.get? name).isSome

def erase (t : Table α) (name : String) : Table α := ⟨t.entries.filter (·.1 != name)⟩

/-- The pairs with a value under a name: in the place of the value that it had, or behind all. -/
def place (name : String) (a : α) : List (String × α) → List (String × α)
  | [] => [(name, a)]
  | e :: rest => if e.1 = name then (name, a) :: rest else e :: place name a rest

def insert (t : Table α) (name : String) (a : α) : Table α := ⟨place name a t.entries⟩

def size (t : Table α) : Nat := t.entries.length

def values (t : Table α) : List α := t.entries.map Prod.snd

@[simp] theorem get?_empty (name : String) : (empty : Table α).get? name = none := rfl

/-- Dropping pairs by their keys drops the values of those keys and no others. -/
theorem lookup_filter {κ : Type} [BEq κ] [LawfulBEq κ] (keep : κ → Bool) (l : List (κ × α))
    (key : κ) :
    (l.filter fun e => keep e.1).lookup key = if keep key then l.lookup key else none := by
  induction l with
  | nil => simp
  | cons e rest ih =>
    obtain ⟨name, a⟩ := e
    by_cases hkey : key = name
    · subst hkey
      cases hkeep : keep key <;> simp [hkeep, ih]
    · have hne : (key == name) = false := by simpa using hkey
      cases hkeep : keep name <;> simp [List.lookup_cons, hkeep, hne, ih]

/-- Where names are told apart, an entry is found by its name. -/
theorem lookup_of_mem {l : List (String × α)} {name : String} {a : α} (h : (l.map Prod.fst).Nodup)
    (hmem : (name, a) ∈ l) : l.lookup name = some a := by
  induction l with
  | nil => simp at hmem
  | cons e rest ih =>
    obtain ⟨hnew, hrest⟩ := List.nodup_cons.mp h
    rcases List.mem_cons.mp hmem with rfl | hlater
    · exact List.lookup_cons_self
    · have hne : (name == e.1) = false := by
        rw [beq_eq_false_iff_ne]
        rintro rfl
        exact hnew (List.mem_map.mpr ⟨_, hlater, rfl⟩)
      rw [List.lookup_cons, hne]
      exact ih hrest hlater

theorem lookup_eq_some_iff_mem {l : List (String × α)} (h : (l.map Prod.fst).Nodup)
    {name : String} {a : α} : l.lookup name = some a ↔ (name, a) ∈ l := by
  constructor
  · intro hlookup
    obtain ⟨front, back, rfl, _⟩ := List.lookup_eq_some_iff.mp hlookup
    exact List.mem_append_right front List.mem_cons_self
  · exact lookup_of_mem h

@[simp] theorem get?_erase (t : Table α) (name other : String) :
    (t.erase name).get? other = if other = name then none else t.get? other := by
  have h := lookup_filter (· != name) t.entries other
  by_cases ho : other = name <;> simpa [erase, get?, ho] using h

/-- A name that is not there is erased for nothing. -/
theorem erase_of_absent {t : Table α} {name : String} (h : t.contains name = false) :
    t.erase name = t := by
  have hnone : t.entries.lookup name = none := by simpa [contains, get?] using h
  have hkeep : t.entries.filter (·.1 != name) = t.entries := by
    refine List.filter_eq_self.mpr fun e he => ?_
    rw [bne_comm]
    exact List.lookup_eq_none_iff.mp hnone e he
  exact congrArg Table.mk hkeep

/-- Placing an entry changes what is found under its own name and under no other. -/
theorem lookup_place (name other : String) (a : α) (l : List (String × α)) :
    (place name a l).lookup other = if other = name then some a else l.lookup other := by
  induction l with
  | nil =>
    by_cases h : other = name
    · simp [place, h]
    · have hb : (other == name) = false := by simpa using h
      simp [place, List.lookup_cons, hb, h]
  | cons e rest ih =>
    obtain ⟨key, b⟩ := e
    by_cases hkey : key = name
    · subst hkey
      by_cases h : other = key
      · simp [place, h]
      · have hb : (other == key) = false := by simpa using h
        simp [place, List.lookup_cons, hb, h]
    · by_cases h : other = key
      · simp [place, hkey, h]
      · have hb : (other == key) = false := by simpa using h
        simp [place, List.lookup_cons, hkey, hb, ih]

@[simp] theorem get?_insert (t : Table α) (name other : String) (a : α) :
    (t.insert name a).get? other = if other = name then some a else t.get? other :=
  lookup_place name other a t.entries

/-- An entry that is there already is placed for nothing. -/
theorem place_of_lookup {name : String} {a : α} {l : List (String × α)}
    (h : l.lookup name = some a) : place name a l = l := by
  induction l with
  | nil => contradiction
  | cons e rest ih =>
    obtain ⟨key, b⟩ := e
    by_cases hkey : key = name
    · subst hkey
      obtain rfl : b = a := by simpa using h
      simp [place]
    · have hne : (name == key) = false := by simpa using Ne.symm hkey
      rw [List.lookup_cons, hne] at h
      rw [place, if_neg hkey, ih h]

/-- To put a value where it is already changes nothing. -/
theorem insert_of_get? {t : Table α} {name : String} {a : α} (h : t.get? name = some a) :
    t.insert name a = t := congrArg Table.mk (place_of_lookup h)

end Table

end ConfigRegistry
