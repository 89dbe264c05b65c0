import ConfigRegistry.Proofs.Json.Records

/-!
Objects of texts and flags are read back as values, with each name leading to the last member that
has it. Bytes that begin like no value are not read at all.
-/
namespace ConfigRegistry.Json

open Coding Fields

/-! Members of sorted objects. -/

namespace Value

theorem lookup_member (name other : String) (v : Value) (rest : List (String × Value)) :
    ((name, v) :: rest).lookup other = if other = name then some v else rest.lookup other := by
  rw [List.lookup_cons]
  by_cases hother : other = name
  · simp [hother]
  · have hne : (other == name) = false := by simpa using hother
    simp [hne, hother]

/-- A member that is inserted hides what stood under its name, and nothing else. -/
theorem lookup_insertMember (name other : String) (v : Value) (members : List (String × Value)) :
    (insertMember name v members).lookup other =
      if other = name then some v else members.lookup other := by
  induction members with
  | nil => exact lookup_member name other v []
  | cons m rest ih =>
    obtain ⟨key, w⟩ := m
    unfold insertMember
    split
    · exact lookup_member name other v _
    · split
      · next hkey =>
        subst hkey
        simp only [lookup_member]
        split <;> rfl
      · next hkey =>
        simp only [lookup_member, ih]
        by_cases hother : other = key
        · simp [hother, Ne.symm hkey]
        · simp [hother]

/-- Sorting leaves the last member of each name. -/
theorem lookup_sortMembers (members : List (String × Value)) (name : String) :
    (sortMembers members).lookup name = members.reverse.lookup name := by
  have hfold : ∀ (sorted : List (String × Value)),
      (members.foldl (fun sorted m => insertMember m.1 m.2 sorted) sorted).lookup name =
        (members.reverse.lookup name).or (sorted.lookup name) := by
    induction members with
    | nil => exact fun _ => rfl
    | cons m rest ih =>
      intro sorted
      rw [List.foldl_cons, ih, lookup_insertMember, List.reverse_cons, List.lookup_append,
        Option.or_assoc]
      congr 1
      rw [lookup_member]
      split <;> rfl
  have hempty := hfold []
  rwa [List.lookup_nil, Option.or_none] at hempty

/-- A text or a flag. -/
inductive IsSimple : Value → Prop
  | bool (b : Bool) : IsSimple (.bool b)
  | string (s : String) : IsSimple (.string s)

theorem canonicalMembers_of_isSimple {members : List (String × Value)}
    (h : ∀ m ∈ members, m.2.IsSimple) : canonicalMembers members = members := by
  induction members with
  | nil => rfl
  | cons m rest ih =>
    obtain ⟨name, v⟩ := m
    have hv : v.canonical = v := by
      cases h (name, v) List.mem_cons_self with
      | bool b => simp [canonical]
      | string s => simp [canonical]
    rw [canonicalMembers, hv, ih fun m hm => h m (List.mem_cons_of_mem _ hm)]

end Value

/-! Reading objects. -/

theorem reads_letters (word left : List UInt8) :
    Reads (Skip.letters word) (word ++ left) () left := by
  induction word with
  | nil => exact Reads.pure () left
  | cons b rest ih =>
    refine (Reads.next b _).bind ?_
    simpa using ih

theorem Value.encode_true : Utf8.encode (Value.bool true).render = 0x74 :: Skip.afterT := by
  rw [Utf8.encode_eq_flatMap]
  decide

theorem Value.encode_false : Utf8.encode (Value.bool false).render = 0x66 :: Skip.afterF := by
  rw [Utf8.encode_eq_flatMap]
  decide

theorem reads_simple {v : Value} (h : v.IsSimple) (deeper : Option (Read Value))
    (left : List UInt8) : Reads (readValueWith deeper) (Utf8.encode v.render ++ left) v left := by
  cases h with
  | string s =>
    rw [Value.render, Text.encode_quote, List.cons_append, List.append_assoc]
    refine Reads.located ((Reads.peekPastBlank rfl _).bind ?_)
    exact (Reads.eat 0x22 _).bind ((Text.reads_read s left).bind (Reads.pure _ left))
  | bool b =>
    cases b with
    | true =>
      rw [Value.encode_true]
      refine Reads.located ((Reads.peekPastBlank rfl _).bind ?_)
      exact (Reads.eat 0x74 _).bind ((reads_letters _ left).bind (Reads.pure _ left))
    | false =>
      rw [Value.encode_false]
      refine Reads.located ((Reads.peekPastBlank rfl _).bind ?_)
      exact (Reads.eat 0x66 _).bind ((reads_letters _ left).bind (Reads.pure _ left))

/-- How the next member of an object is kept, if there is one. -/
def keepStep {α : Type} (item : Read α) (found : List (String × α)) :
    Read (List (String × α) ⊕ List (String × α)) := do
  if ← hasMember found.isEmpty then
    let name ← readName
    readColon
    return .inl ((name, ← item) :: found)
  else return .inr found.reverse

section

variable {item : Read Value} {members : List (String × Value)}

def ReadsValues (item : Read Value) (members : List (String × Value)) : Prop :=
  ∀ m ∈ members, ∀ left, Reads item (Utf8.encode m.2.render ++ left) m.2 left

theorem reads_keepStep (found : List (String × Value)) {m : String × Value} {left : List UInt8}
    (hitem : Reads item (Utf8.encode m.2.render ++ left) m.2 left) :
    Reads (keepStep item found) (lead found.isEmpty ++ (memberBytes m ++ left))
      (.inl (m :: found)) left := by
  refine (reads_hasMember found.isEmpty m left).bind ?_
  rw [memberBytes, List.append_assoc]
  refine (reads_readName m.1 _).bind ?_
  exact (reads_readColon _).bind (hitem.bind (Reads.pure _ left))

theorem reads_keepStep_end (found : List (String × Value)) (left : List UInt8) :
    Reads (keepStep item found) (0x7d :: left) (.inr found.reverse) (0x7d :: left) := by
  have hend : Reads (hasMember found.isEmpty) (0x7d :: left) false (0x7d :: left) :=
    (Reads.peekPastBlank rfl left).bind (Reads.pure false _)
  exact hend.bind (Reads.pure _ _)

/-- The members behind the first one are kept in their order. -/
theorem reads_keep (hitem : ReadsValues item members) {found : List (String × Value)}
    (hfound : found ≠ []) {fuel : Nat} (hfuel : members.length < fuel) (left : List UInt8) :
    Reads (Read.loop (keepStep item) fuel found) (laterBytes members ++ 0x7d :: left)
      (found.reverse ++ members) (0x7d :: left) := by
  induction members generalizing found fuel with
  | nil =>
    obtain ⟨fuel, rfl⟩ : ∃ n, fuel = n + 1 := ⟨fuel - 1, by omega⟩
    rw [List.append_nil]
    exact (reads_keepStep_end found left).loop_done
  | cons m members ih =>
    obtain ⟨fuel, rfl⟩ : ∃ n, fuel = n + 1 := ⟨fuel - 1, by omega⟩
    have hstep := reads_keepStep found
      (hitem m List.mem_cons_self (laterBytes members ++ 0x7d :: left))
    have hrest := ih (fun n hn => hitem n (List.mem_cons_of_mem _ hn))
      (List.cons_ne_nil m found) (Nat.lt_of_succ_lt_succ hfuel)
    have hbytes : laterBytes (m :: members) ++ 0x7d :: left =
        lead found.isEmpty ++ (memberBytes m ++ (laterBytes members ++ 0x7d :: left)) := by
      simp [laterBytes, lead, hfound]
    rw [hbytes]
    simpa using hstep.loop_next hrest

/-- The members of an object are read back in order, each by the reader of its value. -/
theorem reads_readMembers (hitem : ReadsValues item members) (left : List UInt8) :
    Reads (readMembers item) (Utf8.encode (Value.renderMembers members) ++ 0x7d :: left) members
      (0x7d :: left) := by
  cases members with
  | nil =>
    have hempty : Utf8.encode (Value.renderMembers []) = [] := by
      rw [Utf8.encode_eq_flatMap]
      decide
    rw [hempty, List.nil_append]
    exact Reads.iterate (reads_keepStep_end [] left).loop_done
  | cons m members =>
    have hfuel :
        members.length < (memberBytes m ++ (laterBytes members ++ 0x7d :: left)).length := by
      have hlength := length_le_laterBytes members
      simp only [List.length_append, List.length_cons]
      omega
    have hstep := reads_keepStep []
      (hitem m List.mem_cons_self (laterBytes members ++ 0x7d :: left))
    have hrest := reads_keep (fun n hn => hitem n (List.mem_cons_of_mem _ hn))
      (List.cons_ne_nil m []) hfuel left
    rw [encode_renderMembers, List.append_assoc]
    exact Reads.iterate (hstep.loop_next hrest)

end

/-- An object of texts and flags is read back with its members sorted. -/
theorem parse_object (members : List (String × Value)) (h : ∀ m ∈ members, m.2.IsSimple) :
    Value.parse (Utf8.encode (Value.object members).render) =
      .ok (.object (Value.sortMembers members)) := by
  have hopen : Utf8.encode "\x7b" = [0x7b] := (Utf8.encode_eq_flatMap _).trans (by decide)
  have hclose : Utf8.encode "\x7d" = [0x7d] := (Utf8.encode_eq_flatMap _).trans (by decide)
  have hbytes : Utf8.encode (Value.object members).render =
      0x7b :: (Utf8.encode (Value.renderMembers members) ++ [0x7d]) := by
    simp only [Value.render, Utf8.encode_append, hopen, hclose, List.cons_append,
      List.nil_append]
  have hitem : ReadsValues (readValue 126) members := fun m hm left =>
    reads_simple (h m hm) _ left
  have hread : Reads (readValue maxDepth) (Utf8.encode (Value.object members).render)
      (.object members) [] := by
    rw [hbytes]
    refine Reads.located ((Reads.peekPastBlank rfl _).bind ?_)
    refine (Reads.eat 0x7b _).bind ?_
    exact ((reads_readMembers hitem []).closedBy (reads_closeObject [])).bind (Reads.pure _ [])
  rw [Value.parse, hread.all, Except.map, Value.canonical, Value.canonicalMembers_of_isSimple h]

/-! Bytes that are not read. -/

def Fails {α : Type} (r : Read α) (bytes : List UInt8) : Prop :=
  ∀ c : Cursor, c.rest = bytes → ∃ p c', r c = .error p c'

namespace Fails

variable {α β : Type} {r : Read α} {a : α} {bytes left : List UInt8}

theorem failPeek (cause : Cause) (bytes : List UInt8) :
    Fails (α := α) (Read.failPeek cause) bytes :=
  fun _ _ => ⟨_, _, rfl⟩

theorem behind {f : α → Read β} (h : Reads r bytes a left) (hf : Fails (f a) left) :
    Fails (r >>= f) bytes := by
  intro c hc
  obtain ⟨c', hr, hleft⟩ := h c hc
  obtain ⟨p, c'', hfail⟩ := hf c' hleft
  refine ⟨p, c'', ?_⟩
  show EStateM.bind r f c = _
  simp only [EStateM.bind, hr, hfail]

theorem before {f : α → Read β} (h : Fails r bytes) : Fails (r >>= f) bytes := by
  intro c hc
  obtain ⟨p, c', hr⟩ := h c hc
  refine ⟨p, c', ?_⟩
  show EStateM.bind r f c = _
  simp only [EStateM.bind, hr]

theorem located (h : Fails r bytes) : Fails (Read.located r) bytes := by
  intro c hc
  obtain ⟨p, c', hr⟩ := h c hc
  exact ⟨_, c', by rw [Read.located, hr]⟩

theorem ne_ok (h : Fails r bytes) {f : α → Read β} {b : β} {c' : Cursor} :
    (r >>= f) (.start bytes) ≠ .ok b c' := by
  intro hok
  obtain ⟨p, c, hc⟩ := h.before (f := f) (.start bytes) rfl
  rw [hok] at hc
  contradiction

theorem all (h : Fails r bytes) : ∃ p, r.all bytes = .error p := by
  unfold Read.all
  dsimp only
  split
  · next ho => exact absurd ho h.ne_ok
  · exact ⟨_, rfl⟩

end Fails

def beginsValue (b : UInt8) : Bool :=
  Read.isBlank b || b == 0x6e || b == 0x74 || b == 0x66 || b == 0x2d || Number.isDigit b ||
    b == 0x22 || b == 0x5b || b == 0x7b

theorem parse_of_not_beginsValue {b : UInt8} (hb : beginsValue b = false) (rest : List UInt8) :
    ∃ p, Value.parse (b :: rest) = .error p := by
  simp only [beginsValue, Bool.or_eq_false_iff] at hb
  obtain ⟨⟨⟨⟨⟨⟨⟨⟨hblank, hnull⟩, htrue⟩, hfalse⟩, hminus⟩, hdigit⟩, hquote⟩, hlist⟩, hobject⟩ :=
    hb
  have hfails : Fails (readValue maxDepth) (b :: rest) := by
    refine Fails.located (Fails.behind (Reads.peekPastBlank hblank rest) ?_)
    simp only [hnull, htrue, hfalse, hminus, hdigit, hquote, hlist, hobject]
    exact .failPeek .expectedValue _
  obtain ⟨p, hall⟩ := hfails.all
  exact ⟨p, by rw [Value.parse, hall, Except.map]⟩

theorem parse_nil : ∃ p, Value.parse [] = .error p := by
  have hfails : Fails (readValue maxDepth) [] :=
    Fails.located (Fails.behind Reads.peekPastBlank_nil (.failPeek .eofValue _))
  obtain ⟨p, hall⟩ := hfails.all
  exact ⟨p, by rw [Value.parse, hall, Except.map]⟩

end ConfigRegistry.Json
