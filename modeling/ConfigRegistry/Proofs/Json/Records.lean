import ConfigRegistry.Proofs.Json.Numbers
import ConfigRegistry.Proofs.Json.Strings

/-!
Records are read back from objects. Every member fills the slot of its name, so that a record has
all its values when the last member is read, but for those that are left out.
-/
namespace ConfigRegistry.Json

open Coding

def Delimits (left : List UInt8) : Prop :=
  ∃ b rest, left = b :: rest ∧ (b = 0x2c ∨ b = 0x5d ∨ b = 0x7d)

theorem Delimits.ends {left : List UInt8} (h : Delimits left) : Number.Ends left := by
  obtain ⟨b, rest, rfl, hb⟩ := h
  intro d hd
  obtain rfl := Option.some.inj hd
  rcases hb with rfl | rfl | rfl <;> decide

theorem reads_textAs (expected s : String) (left : List UInt8) :
    Reads (Read.textAs expected) (Utf8.encode (Text.quote s) ++ left) s left := by
  rw [Text.encode_quote, List.cons_append, List.append_assoc]
  refine Reads.located ((Reads.first rfl _).bind ?_)
  exact (Reads.eat 0x22 _).bind (Text.reads_read s left)

theorem reads_text (s : String) (left : List UInt8) :
    Reads Read.text (Utf8.encode (Text.quote s) ++ left) s left := reads_textAs _ s left

theorem reads_readColon (left : List UInt8) : Reads readColon (0x3a :: left) () left :=
  (Reads.peekPastBlank rfl left).bind (Reads.eat 0x3a left)

def Field.Takes {α : Type} (f : Field α) (v : Value) (a : α) : Prop :=
  ∀ left, Delimits left → Reads f.read (Utf8.encode v.render ++ left) a left

theorem Field.takes_text (name s : String) :
    (Field.required name Read.text).Takes (.string s) s := fun left _ => reads_text s left

theorem Field.takes_integer {n : Int} (name : String) (hlow : -0x8000000000000000 ≤ n)
    (hhigh : n < 0x8000000000000000) :
    (Field.required name Read.integer).Takes (.integer n) n := fun _ hleft =>
  reads_integer hlow hhigh hleft.ends

namespace Fields

def names : {types : List Type} → Fields types → List String
  | _, .nil => []
  | _, .cons f rest => f.name :: rest.names

def Takes (name : String) (v : Value) : {types : List Type} → Fields types → Row types → Prop
  | _, .nil, _ => False
  | _, .cons f rest, (a, row) => if f.name = name then f.Takes v a else rest.Takes name v row

def Holds (unread : List String) : {types : List Type} → Fields types → Slots types →
    Row types → Prop
  | _, .nil, _, _ => True
  | _, .cons f rest, (slot, slots), (a, row) =>
    slot = (if f.name ∈ unread then none else some a) ∧ rest.Holds unread slots row

variable {types : List Type} {fields : Fields types} {slots : Slots types} {row : Row types}
  {unread : List String}

theorem Holds.congr {unread' : List String} (h : fields.Holds unread slots row)
    (hnames : ∀ name ∈ fields.names, name ∈ unread ↔ name ∈ unread') :
    fields.Holds unread' slots row := by
  induction fields with
  | nil => trivial
  | cons f rest ih =>
    obtain ⟨slot, slots⟩ := slots
    obtain ⟨a, row⟩ := row
    refine ⟨?_, ih h.2 fun name hname => hnames name (List.mem_cons_of_mem _ hname)⟩
    rw [h.1]
    simp only [hnames f.name List.mem_cons_self]

theorem holds_empty {fields : Fields types} (row : Row types)
    (h : ∀ name ∈ fields.names, name ∈ unread) : fields.Holds unread (Slots.empty types) row := by
  induction fields with
  | nil => trivial
  | cons f rest ih =>
    obtain ⟨a, row⟩ := row
    exact ⟨(if_pos (h f.name List.mem_cons_self)).symm,
      ih row fun name hname => h name (List.mem_cons_of_mem _ hname)⟩

/-- The member of an unread name fills its slot. -/
theorem reads_readMember {name : String} {v : Value} (hnames : fields.names.Nodup)
    (hslots : fields.Holds (name :: unread) slots row) (hname : name ∉ unread)
    (hv : fields.Takes name v row) {left : List UInt8} (hleft : Delimits left) :
    ∃ slots', fields.Holds unread slots' row ∧
      Reads (fields.readMember name slots) (0x3a :: (Utf8.encode v.render ++ left)) slots'
        left := by
  induction fields with
  | nil => exact absurd hv id
  | cons f rest ih =>
    obtain ⟨slot, slots⟩ := slots
    obtain ⟨a, row⟩ := row
    obtain ⟨hfresh, hnames⟩ := List.nodup_cons.mp hnames
    by_cases hf : f.name = name
    · obtain rfl : slot = none := by rw [hslots.1, if_pos (by rw [hf]; exact List.mem_cons_self)]
      have htakes : f.Takes v a := by simpa [Takes, hf] using hv
      refine ⟨(some a, slots), ⟨(if_neg (by rw [hf]; exact hname)).symm, ?_⟩, ?_⟩
      · refine hslots.2.congr fun other hother => ?_
        have hne : other ≠ name := by
          rintro rfl
          exact hfresh (hf ▸ hother)
        simp [hne]
      · simp only [readMember, if_pos hf]
        refine (reads_readColon _).bind ?_
        exact (htakes left hleft).bind (Reads.pure _ left)
    · have hrest : rest.Takes name v row := by simpa [Takes, hf] using hv
      obtain ⟨slots', hholds, hread⟩ := ih hnames hslots.2 hrest
      refine ⟨(slot, slots'), ⟨?_, hholds⟩, ?_⟩
      · rw [hslots.1]
        simp [hf]
      · simp only [readMember, if_neg hf]
        exact hread.bind (Reads.pure _ left)

def StandsIn (unread : List String) : {types : List Type} → Fields types → Row types → Prop
  | _, .nil, _ => True
  | _, .cons f rest, (a, row) => (f.name ∈ unread → f.absent = some a) ∧ rest.StandsIn unread row

/-- Slots that are filled but for fields with stand-ins make the row. -/
theorem reads_complete (h : fields.Holds unread slots row) (hmissing : fields.StandsIn unread row)
    (left : List UInt8) : Reads (fields.complete slots) left row left := by
  induction fields with
  | nil => exact Reads.pure row left
  | cons f rest ih =>
    obtain ⟨slot, slots⟩ := slots
    obtain ⟨a, row⟩ := row
    obtain ⟨hslot, hrest⟩ := h
    obtain ⟨habsent, hmissing⟩ := hmissing
    have hvalue : slot.or f.absent = some a := by
      rw [hslot]
      split
      · next hname => exact habsent hname
      · rfl
    simp only [complete, hvalue]
    exact (ih hrest hmissing).bind (Reads.pure _ left)

/-! Whole objects. -/

def memberBytes (m : String × Value) : List UInt8 :=
  Utf8.encode (Text.quote m.1) ++ 0x3a :: Utf8.encode m.2.render

def laterBytes (members : List (String × Value)) : List UInt8 :=
  members.flatMap fun m => 0x2c :: memberBytes m

theorem delimits_laterBytes (members : List (String × Value)) (left : List UInt8) :
    Delimits (laterBytes members ++ 0x7d :: left) := by
  cases members with
  | nil => exact ⟨0x7d, left, rfl, .inr (.inr rfl)⟩
  | cons m members => exact ⟨0x2c, _, rfl, .inl rfl⟩

theorem length_le_laterBytes (members : List (String × Value)) :
    members.length ≤ (laterBytes members).length := by
  induction members with
  | nil => exact Nat.le_refl 0
  | cons m members ih =>
    rw [laterBytes, List.flatMap_cons, List.length_append, List.length_cons, List.length_cons]
    exact Nat.le_trans (Nat.succ_le_succ ih) (by rw [laterBytes]; omega)

theorem encode_renderMembers (m : String × Value) (members : List (String × Value)) :
    Utf8.encode (Value.renderMembers (m :: members)) = memberBytes m ++ laterBytes members := by
  have hcolon : Utf8.encode ":" = [0x3a] := (Utf8.encode_eq_flatMap _).trans rfl
  have hcomma : Utf8.encode "," = [0x2c] := (Utf8.encode_eq_flatMap _).trans rfl
  induction members generalizing m with
  | nil =>
    simp only [Value.renderMembers, Utf8.encode_append, hcolon]
    simp [memberBytes, laterBytes]
  | cons next members ih =>
    simp only [Value.renderMembers, Utf8.encode_append, hcolon, hcomma, ih]
    simp [memberBytes, laterBytes]

def memberStep (fields : Fields types) (state : Bool × Slots types) :
    Read ((Bool × Slots types) ⊕ Slots types) := do
  if ← hasMember state.1 then
    return .inl (false, ← fields.readMember (← readName) state.2)
  else return .inr state.2

theorem reads_memberStep_end (first : Bool) (slots : Slots types) (left : List UInt8) :
    Reads (fields.memberStep (first, slots)) (0x7d :: left) (.inr slots) (0x7d :: left) := by
  have hend : Reads (hasMember first) (0x7d :: left) false (0x7d :: left) :=
    (Reads.peekPastBlank rfl left).bind (Reads.pure false _)
  exact hend.bind (Reads.pure _ _)

/-- The texts before which a member is read: none for the first one, a comma for the others. -/
def lead (first : Bool) : List UInt8 := if first then [] else [0x2c]

theorem reads_hasMember (first : Bool) (m : String × Value) (left : List UInt8) :
    Reads (hasMember first) (lead first ++ (memberBytes m ++ left)) true
      (memberBytes m ++ left) := by
  rw [memberBytes, Text.encode_quote]
  cases first with
  | true => exact (Reads.peekPastBlank rfl _).bind (Reads.pure true _)
  | false =>
    refine (Reads.peekPastBlank rfl _).bind ((Reads.eat 0x2c _).bind ?_)
    exact (Reads.peekPastBlank rfl _).bind (Reads.pure true _)

theorem reads_readName (s : String) (left : List UInt8) :
    Reads readName (Utf8.encode (Text.quote s) ++ left) s left := by
  rw [Text.encode_quote, List.cons_append, List.append_assoc]
  exact (Reads.eat 0x22 _).bind (Text.reads_read s left)

theorem reads_closeObject (left : List UInt8) : Reads closeObject (0x7d :: left) () left :=
  (Reads.peekPastBlank rfl left).bind (Reads.eat 0x7d left)

variable (hnames : fields.names.Nodup)
include hnames

theorem reads_memberStep (first : Bool) {m : String × Value} (hslots : fields.Holds (m.1 :: unread)
    slots row) (hname : m.1 ∉ unread) (hm : fields.Takes m.1 m.2 row) {left : List UInt8}
    (hleft : Delimits left) : ∃ slots', fields.Holds unread slots' row ∧
      Reads (fields.memberStep (first, slots)) (lead first ++ (memberBytes m ++ left))
        (.inl (false, slots')) left := by
  obtain ⟨slots', hholds, hread⟩ := reads_readMember hnames hslots hname hm hleft
  refine ⟨slots', hholds, (reads_hasMember first m left).bind ?_⟩
  rw [memberBytes, List.append_assoc]
  refine (reads_readName m.1 _).bind ?_
  exact hread.bind (Reads.pure _ left)

/-- The members of an object fill all slots but those of the names that are left out. -/
theorem reads_members (members : List (String × Value))
    (hmembers : (members.map Prod.fst).Nodup) (hunread : ∀ m ∈ members, m.1 ∉ unread)
    (htakes : ∀ m ∈ members, fields.Takes m.1 m.2 row)
    (hslots : fields.Holds (members.map Prod.fst ++ unread) slots row) {fuel : Nat}
    (hfuel : members.length < fuel) (left : List UInt8) :
    ∃ slots', fields.Holds unread slots' row ∧
      Reads (Read.loop fields.memberStep fuel (false, slots)) (laterBytes members ++ 0x7d :: left)
        slots' (0x7d :: left) := by
  induction members generalizing slots fuel with
  | nil =>
    obtain ⟨fuel, rfl⟩ : ∃ n, fuel = n + 1 := ⟨fuel - 1, by omega⟩
    exact ⟨slots, hslots, (reads_memberStep_end false slots left).loop_done⟩
  | cons m members ih =>
    obtain ⟨fuel, rfl⟩ : ∃ n, fuel = n + 1 := ⟨fuel - 1, by omega⟩
    obtain ⟨hm, hmembers⟩ := List.nodup_cons.mp hmembers
    have hfresh : m.1 ∉ members.map Prod.fst ++ unread := by
      rw [List.mem_append, not_or]
      exact ⟨hm, hunread m List.mem_cons_self⟩
    obtain ⟨slots', hholds, hstep⟩ := reads_memberStep hnames false hslots hfresh
      (htakes m List.mem_cons_self) (delimits_laterBytes members left)
    obtain ⟨slots'', hall, hloop⟩ := ih hmembers (fun n hn => hunread n (List.mem_cons_of_mem _ hn))
      (fun n hn => htakes n (List.mem_cons_of_mem _ hn)) hholds (Nat.lt_of_succ_lt_succ hfuel)
    refine ⟨slots'', hall, ?_⟩
    have hbytes : laterBytes (m :: members) ++ 0x7d :: left =
        lead false ++ (memberBytes m ++ (laterBytes members ++ 0x7d :: left)) := by
      simp [laterBytes, lead]
    rw [hbytes]
    exact hstep.loop_next hloop

/-- What an object has to be for a record: it has no name twice, and leaves out only fields with
stand-ins. -/
structure Fits (fields : Fields types) (members : List (String × Value)) (row : Row types) :
    Prop where
  nodup : (members.map Prod.fst).Nodup
  takes : ∀ m ∈ members, fields.Takes m.1 m.2 row
  missing : fields.StandsIn (fields.names.filter (· ∉ members.map Prod.fst)) row

theorem reads_readObject {members : List (String × Value)} (h : fields.Fits members row)
    (left : List UInt8) :
    Reads fields.readObject (Utf8.encode (Value.renderMembers members) ++ 0x7d :: left) row
      (0x7d :: left) := by
  -- the names that no member is written for stay open until the end, where absence stands in
  obtain ⟨unread, hunread⟩ : ∃ l, l = fields.names.filter (· ∉ members.map Prod.fst) := ⟨_, rfl⟩
  have hmissing := h.missing
  rw [← hunread] at hmissing
  have hnodup := h.nodup
  have hleftOut : ∀ m ∈ members, m.1 ∉ unread := by
    intro m hm
    simp only [hunread, List.mem_filter, decide_eq_true_eq, not_and]
    exact fun _ hnot => hnot (List.mem_map_of_mem hm)
  have hslots : fields.Holds (members.map Prod.fst ++ unread) (Slots.empty types) row := by
    refine holds_empty row fun name hname => List.mem_append.mpr ?_
    by_cases hmember : name ∈ members.map Prod.fst
    · exact .inl hmember
    · exact .inr (hunread ▸ List.mem_filter.mpr ⟨hname, by simpa using hmember⟩)
  cases members with
  | nil =>
    have hempty : Utf8.encode (Value.renderMembers []) = [] :=
      (Utf8.encode_eq_flatMap _).trans rfl
    rw [hempty, List.nil_append]
    exact (Reads.iterate (reads_memberStep_end true _ left).loop_done).bind
      (reads_complete hslots hmissing _)
  | cons m members =>
    obtain ⟨hm, hnodup⟩ := List.nodup_cons.mp hnodup
    have hfresh : m.1 ∉ members.map Prod.fst ++ unread := by
      rw [List.mem_append, not_or]
      exact ⟨hm, hleftOut m List.mem_cons_self⟩
    obtain ⟨slots', hholds, hstep⟩ := reads_memberStep hnames true hslots hfresh
      (h.takes m List.mem_cons_self) (delimits_laterBytes members left)
    have hfuel :
        members.length < (memberBytes m ++ (laterBytes members ++ 0x7d :: left)).length := by
      have hlength := length_le_laterBytes members
      simp only [List.length_append, List.length_cons]
      omega
    obtain ⟨slots'', hall, hloop⟩ := reads_members hnames members hnodup
      (fun n hn => hleftOut n (List.mem_cons_of_mem _ hn))
      (fun n hn => h.takes n (List.mem_cons_of_mem _ hn)) hholds hfuel left
    rw [encode_renderMembers, List.append_assoc]
    rw [lead, if_pos rfl, List.nil_append] at hstep
    exact (Reads.iterate (hstep.loop_next hloop)).bind (reads_complete hall hmissing _)

/-- A record is read back from an object that fits it. -/
theorem reads_record (name : String) (row : Row types) {members : List (String × Value)}
    (h : fields.Fits members row) (left : List UInt8) :
    Reads (record name fields) (Utf8.encode (Value.object members).render ++ left) row left := by
  have hbytes : Utf8.encode (Value.object members).render ++ left =
      0x7b :: (Utf8.encode (Value.renderMembers members) ++ 0x7d :: left) := by
    have hopen : Utf8.encode "\x7b" = [0x7b] := (Utf8.encode_eq_flatMap _).trans rfl
    have hclose : Utf8.encode "\x7d" = [0x7d] := (Utf8.encode_eq_flatMap _).trans rfl
    simp only [Value.render, Utf8.encode_append, hopen, hclose, List.append_assoc,
      List.cons_append, List.nil_append]
  rw [hbytes]
  refine Reads.located ((Reads.first rfl _).bind ?_)
  refine (Reads.eat 0x7b _).bind ?_
  exact (reads_readObject hnames h left).closedBy (reads_closeObject left)

/-! Objects whose members stand in the order of the fields. -/

/-- The members of a record as they are written: in the order of its fields, without some of those
that have stand-ins. -/
inductive Written : {types : List Type} → Fields types → List (String × Value) → Row types → Prop
  | nil : Written .nil [] ()
  | member {α : Type} {types : List Type} {f : Field α} {rest : Fields types} {v : Value} {a : α}
      {members : List (String × Value)} {row : Row types} (h : f.Takes v a)
      (hrest : Written rest members row) : Written (.cons f rest) ((f.name, v) :: members) (a, row)
  | leftOut {α : Type} {types : List Type} {f : Field α} {rest : Fields types} {a : α}
      {members : List (String × Value)} {row : Row types} (h : f.absent = some a)
      (hrest : Written rest members row) : Written (.cons f rest) members (a, row)

omit hnames in
theorem StandsIn.mono {unread' : List String} (h : fields.StandsIn unread row)
    (hnames : ∀ name ∈ fields.names, name ∈ unread' → name ∈ unread) :
    fields.StandsIn unread' row := by
  induction fields with
  | nil => trivial
  | cons f rest ih =>
    exact ⟨fun hname => h.1 (hnames f.name List.mem_cons_self hname),
      ih h.2 fun name hname => hnames name (List.mem_cons_of_mem _ hname)⟩

namespace Written

variable {members : List (String × Value)}

omit hnames in
theorem sublist (h : Written fields members row) : (members.map Prod.fst).Sublist fields.names := by
  induction h with
  | nil => exact .slnil
  | member _ _ ih => exact ih.cons_cons _
  | leftOut _ _ ih => exact ih.cons _

/-- Each member that is written is taken by the field of its name. -/
theorem takes (h : Written fields members row) : ∀ m ∈ members, fields.Takes m.1 m.2 row := by
  induction h with
  | nil => simp
  | @member _ _ f rest v a members row hv hrest ih =>
    obtain ⟨hfresh, hnames⟩ := List.nodup_cons.mp hnames
    intro m hm
    rcases List.mem_cons.mp hm with rfl | hm
    · simpa [Takes] using hv
    · have hne : f.name ≠ m.1 := by
        rintro heq
        exact hfresh (heq ▸ hrest.sublist.subset (List.mem_map_of_mem hm))
      simpa [Takes, hne] using ih hnames m hm
  | @leftOut _ _ f rest a members row habsent hrest ih =>
    obtain ⟨hfresh, hnames⟩ := List.nodup_cons.mp hnames
    intro m hm
    have hne : f.name ≠ m.1 := by
      rintro heq
      exact hfresh (heq ▸ hrest.sublist.subset (List.mem_map_of_mem hm))
    simpa [Takes, hne] using ih hnames m hm

omit hnames in
/-- The fields that no member is written for have a value that stands in for them. -/
theorem standsIn (h : Written fields members row) :
    fields.StandsIn (fields.names.filter (· ∉ members.map Prod.fst)) row := by
  induction h with
  | nil => trivial
  | @member _ _ f rest v a members row hv hrest ih =>
    refine ⟨fun hname => ?_, ih.mono fun name hname hunread => ?_⟩
    · simp at hname
    · simp only [List.map_cons, List.mem_filter, List.mem_cons, not_or, decide_eq_true_eq]
        at hunread ⊢
      exact ⟨hname, hunread.2.2⟩
  | @leftOut _ _ f rest a members row habsent hrest ih =>
    refine ⟨fun _ => habsent, ih.mono fun name hname hunread => ?_⟩
    simp only [List.mem_filter, decide_eq_true_eq] at hunread ⊢
    exact ⟨hname, hunread.2⟩

/-- A record is read back from its members as they are written. -/
theorem reads_record (h : Written fields members row) (name : String) (left : List UInt8) :
    Reads (record name fields) (Utf8.encode (Value.object members).render ++ left) row left :=
  Fields.reads_record hnames name row
    ⟨h.sublist.nodup hnames, h.takes hnames, h.standsIn⟩ left

end Written

end Fields

end ConfigRegistry.Json
