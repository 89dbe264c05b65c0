import ConfigRegistry.Login.Parameters
import ConfigRegistry.Proofs.Http.Answers
import ConfigRegistry.Proofs.Url.Queries
import ConfigRegistry.Table
import Mathlib.Data.List.Infix

/-!
Which value of a parameter counts. The parameters of a body come before those of the query, but
only if the body is said to be a form in a field that is text; any other body has no influence.
Parameters that are sent as a form are received as they were, by either way.
-/
namespace ConfigRegistry.Login.Parameters

open Coding Http

variable {h : Headers} {body : List UInt8} {query : Option String} {pairs : Parameters}
  {name value : String}

def SaysForm (h : Headers) : Prop :=
  ∃ rest, h.get? "content-type" = some (Utf8.encode formType ++ rest) ∧
    rest.all Headers.isTextByte = true

def First (pairs : Parameters) (name value : String) : Prop :=
  ∃ before after, pairs = before ++ (name, value) :: after ∧ ∀ p ∈ before, p.1 ≠ name

def Lacks (pairs : Parameters) (name : String) : Prop := ∀ p ∈ pairs, p.1 ≠ name

def ofQuery (query : Option String) : Parameters :=
  (query.map fun q => Form.decode (Utf8.encode q)).getD []

def sent (pairs : Parameters) : String :=
  String.ofList ((Form.encode pairs).map fun b => Char.ofNat b.toNat)

/-- A table with pairs put into it one after the other; a name that is there keeps its value. -/
def gather (t : Table String) (pairs : Parameters) : Table String :=
  pairs.foldl (fun t p => if t.contains p.1 then t else t.insert p.1 p.2) t

def gathered (query : Option String) (h : Headers) (body : List UInt8) : Table String :=
  gather (gather .empty (if isForm h then Form.decode body else [])) (ofQuery query)

/-! Bodies that are forms. -/

theorem small_of_mem_formType : ∀ c ∈ formType.toList, c.toNat < 128 := by
  have hsmall : formType.toList.all (fun c => c.toNat < 128) = true := by decide
  exact fun c hc => of_decide_eq_true (List.all_eq_true.mp hsmall c hc)

theorem all_isTextByte_formType : (Utf8.encode formType).all Headers.isTextByte = true := by
  rw [Utf8.encode_eq_flatMap]
  decide

/-- The bytes of a value start with those of the type exactly if its characters do so. -/
theorem formType_prefix_iff (value : List UInt8) :
    formType.toList <+: value.map (fun b => Char.ofNat b.toNat) ↔
      Utf8.encode formType <+: value := by
  have htext : formType.toList = (Utf8.encode formType).map fun b => Char.ofNat b.toNat := by
    rw [← String.toList_ofList (l := (Utf8.encode formType).map _),
      Utf8.ofList_map_encode small_of_mem_formType]
  rw [htext]
  exact List.prefix_map_iff_of_injective fun _ _ => Utf8.ofNat_toNat_inj

/-- A body counts as a form exactly if its content type is text that begins with that of forms. -/
theorem isForm_iff : isForm h = true ↔ SaysForm h := by
  unfold isForm Headers.text? SaysForm
  cases h.get? "content-type" with
  | none => simp
  | some field =>
    by_cases htext : field.all Headers.isTextByte = true
    · have hstart : (String.ofList (field.map fun b => Char.ofNat b.toNat)).startsWith formType =
          true ↔ Utf8.encode formType <+: field := by
        rw [String.startsWith_string_iff, String.toList_ofList, formType_prefix_iff]
      simp only [htext, if_true, Option.any_some, hstart, Option.some.injEq]
      constructor
      · rintro ⟨rest, rfl⟩
        rw [List.all_append, Bool.and_eq_true] at htext
        exact ⟨rest, rfl, htext.2⟩
      · rintro ⟨rest, rfl, _⟩
        exact List.prefix_append _ rest
    · simp only [htext, Bool.false_eq_true, if_false, Option.any_none, Option.some.injEq, false_iff]
      rintro ⟨rest, rfl, hrest⟩
      rw [List.all_append, all_isTextByte_formType, hrest] at htext
      exact htext rfl

theorem ofRequest_of_saysForm (hform : SaysForm h) (query : Option String) (body : List UInt8) :
    ofRequest query h body = Form.decode body ++ ofQuery query := by
  rw [ofRequest, if_pos (isForm_iff.mpr hform), ofQuery]

theorem ofRequest_of_not_saysForm (hform : ¬ SaysForm h) (query : Option String)
    (body : List UInt8) : ofRequest query h body = ofQuery query := by
  rw [ofRequest, if_neg (fun h => hform (isForm_iff.mp h)), ofQuery, List.nil_append]

/-! Values of names. -/

theorem lookup_eq_some_iff_first : pairs.lookup name = some value ↔ First pairs name value := by
  simp only [List.lookup_eq_some_iff, First, bne_iff_ne, ne_comm]

theorem lookup_eq_none_iff_lacks : pairs.lookup name = none ↔ Lacks pairs name := by
  simp only [List.lookup_eq_none_iff, Lacks, bne_iff_ne, ne_comm]

theorem first_append_iff {others : Parameters} :
    First (pairs ++ others) name value ↔
      First pairs name value ∨ Lacks pairs name ∧ First others name value := by
  simp only [← lookup_eq_some_iff_first, ← lookup_eq_none_iff_lacks, List.lookup_append,
    Option.or_eq_some_iff]

theorem lacks_append_iff {others : Parameters} :
    Lacks (pairs ++ others) name ↔ Lacks pairs name ∧ Lacks others name :=
  List.forall_mem_append

/-- A name that has a value already keeps it; otherwise the first pair of that name counts. -/
theorem get?_gather (t : Table String) (pairs : Parameters) (name : String) :
    (gather t pairs).get? name = (t.get? name).or (pairs.lookup name) := by
  induction pairs generalizing t with
  | nil => exact (Option.or_none).symm
  | cons p rest ih =>
    rw [gather, List.foldl_cons, ← gather, ih, List.lookup_cons]
    by_cases hname : name = p.1
    · subst hname
      cases hvalue : t.get? p.1 with
      | none => simp [Table.contains, hvalue]
      | some value => simp [Table.contains, hvalue]
    · have hne : (name == p.1) = false := by simpa using hname
      split
      · simp [hne]
      · simp [hne, hname]

/-- A request has the same parameters if they are gathered in a table. -/
theorem get?_gathered (query : Option String) (h : Headers) (body : List UInt8) (name : String) :
    (gathered query h body).get? name = (ofRequest query h body).lookup name := by
  rw [gathered, get?_gather, get?_gather, Table.get?_empty, Option.none_or, ← List.lookup_append]
  rfl

/-! Pairs that are sent. -/

theorem ofQuery_sent (pairs : Parameters) : ofQuery (some (sent pairs)) = pairs := by
  simp only [ofQuery, sent, Option.map_some, Option.getD_some, Url.encode_added,
    Form.decode_encode]

theorem ofRequest_posted (hform : SaysForm h) (pairs : Parameters) :
    ofRequest none h (Form.encode pairs) = pairs := by
  rw [ofRequest_of_saysForm hform, Form.decode_encode]
  exact List.append_nil pairs

theorem ofRequest_asked (h : Headers) (pairs : Parameters) :
    ofRequest (some (sent pairs)) h [] = pairs := by
  have hnone : Form.decode [] = [] := rfl
  rw [ofRequest, hnone, ite_self, List.nil_append]
  exact ofQuery_sent pairs

/-- A parameter has the first value that it has in the body, if the body is said to be a form and
has the parameter, and else the first value that it has in the query. -/
theorem lookup_ofRequest_iff (query : Option String) (h : Headers) (body : List UInt8)
    (name value : String) :
    (ofRequest query h body).lookup name = some value ↔
      (SaysForm h ∧ First (Form.decode body) name value) ∨
        ((SaysForm h → Lacks (Form.decode body) name) ∧ First (ofQuery query) name value) := by
  rw [lookup_eq_some_iff_first]
  by_cases hform : SaysForm h
  · simp only [ofRequest_of_saysForm hform, first_append_iff, hform, true_and, forall_const]
  · simp only [ofRequest_of_not_saysForm hform, hform, false_and, false_or, false_implies, true_and]

theorem lookup_ofRequest_eq_none_iff (query : Option String) (h : Headers) (body : List UInt8)
    (name : String) :
    (ofRequest query h body).lookup name = none ↔
      (SaysForm h → Lacks (Form.decode body) name) ∧ Lacks (ofQuery query) name := by
  rw [lookup_eq_none_iff_lacks]
  by_cases hform : SaysForm h
  · simp only [ofRequest_of_saysForm hform, lacks_append_iff, hform, forall_const]
  · simp only [ofRequest_of_not_saysForm hform, hform, false_implies, true_and]

/-- A parameter has the first value that it has in the body, if the body is said to be a form in a
field that is text and has the parameter, else the first value that it has in the query, else none.
Gathering the parameters in a table finds the same. No other body has any influence, and pairs of
different names that are sent as a form, in the body or in the query, are the parameters that are
received. -/
theorem precedence (query : Option String) (h : Headers) (body : List UInt8) :
    (∀ name value, (ofRequest query h body).lookup name = some value ↔
        (SaysForm h ∧ First (Form.decode body) name value) ∨
          ((SaysForm h → Lacks (Form.decode body) name) ∧ First (ofQuery query) name value)) ∧
      (∀ name, (ofRequest query h body).lookup name = none ↔
        (SaysForm h → Lacks (Form.decode body) name) ∧ Lacks (ofQuery query) name) ∧
      (∀ name, (gathered query h body).get? name = (ofRequest query h body).lookup name) ∧
      (¬ SaysForm h → ∀ body', ofRequest query h body' = ofRequest query h body) ∧
      ∀ pairs : Parameters, (pairs.map Prod.fst).Nodup →
        (∀ name value,
          (ofRequest (some (sent pairs)) h []).lookup name = some value ↔ (name, value) ∈ pairs) ∧
        (SaysForm h → ∀ name value,
          (ofRequest none h (Form.encode pairs)).lookup name = some value ↔
            (name, value) ∈ pairs) := by
  refine ⟨lookup_ofRequest_iff query h body, lookup_ofRequest_eq_none_iff query h body,
    get?_gathered query h body, ?_, fun pairs hnames => ?_⟩
  · intro hform body'
    rw [ofRequest_of_not_saysForm hform, ofRequest_of_not_saysForm hform]
  · have hpairs : ∀ name value, pairs.lookup name = some value ↔ (name, value) ∈ pairs :=
      fun _ _ => Table.lookup_eq_some_iff_mem hnames
    refine ⟨?_, fun hform => ?_⟩
    · rw [ofRequest_asked]
      exact hpairs
    · rw [ofRequest_posted hform]
      exact hpairs

def plainFields : Headers :=
  [("content-type", Utf8.encode formType ++ Utf8.encode "; charset=utf-8")]

theorem saysForm_plainFields : SaysForm plainFields := by
  refine ⟨Utf8.encode "; charset=utf-8", rfl, ?_⟩
  rw [Utf8.encode_eq_flatMap]
  decide

/-- The code in a form is the one that counts, also beside one in the query. -/
theorem precedence_code :
    (ofRequest (some "code=a&code=b") plainFields
        (Form.encode [("code", "c"), ("state", "")])).lookup "code" = some "c" ∧
      (ofRequest none plainFields (Form.encode [("code", "c"), ("state", "")])).lookup "state" =
        some "" := by
  have h := precedence (some "code=a&code=b") plainFields
    (Form.encode [("code", "c"), ("state", "")])
  refine ⟨(h.1 "code" "c").mpr (.inl ⟨saysForm_plainFields, ?_⟩), ?_⟩
  · rw [Form.decode_encode]
    exact ⟨[], [("state", "")], rfl, fun _ hp => absurd hp List.not_mem_nil⟩
  · have hsent := h.2.2.2.2 [("code", "c"), ("state", "")] (by decide)
    exact (hsent.2 saysForm_plainFields "state" "").mpr (by decide)

/-- Fields of a form in a character set whose name is no text. -/
def strangeFields : Headers :=
  [("content-type", Utf8.encode formType ++ (Utf8.encode "; charset=" ++ [0xe9]))]

/-- A field that starts with the type of forms, but is no text, does not make the body a form. -/
theorem code_of_strangeFields :
    (∃ rest, strangeFields.get? "content-type" = some (Utf8.encode formType ++ rest)) ∧
      First (Form.decode (Form.encode [("code", "abc")])) "code" "abc" ∧
      (ofRequest none strangeFields (Form.encode [("code", "abc")])).lookup "code" = none := by
  refine ⟨⟨_, rfl⟩, ?_, ?_⟩
  · rw [Form.decode_encode]
    exact ⟨[], [], rfl, fun _ hp => absurd hp List.not_mem_nil⟩
  · have hform : ¬ SaysForm strangeFields := by
      rintro ⟨rest, hfield, hrest⟩
      obtain rfl := List.append_cancel_left (Option.some.inj hfield)
      rw [List.all_append, Bool.and_eq_true] at hrest
      exact absurd hrest.2 (by decide)
    rw [ofRequest_of_not_saysForm hform]
    rfl

end ConfigRegistry.Login.Parameters
