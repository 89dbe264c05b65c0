import ConfigRegistry.Proofs.Http.Answers

/-!
How often a field stands in an answer. A field that is set stands there once, whatever stood there
before, and all other fields stand there as often as they did.
-/
namespace ConfigRegistry.Http

open Coding

namespace Headers

def values (h : Headers) (name : String) : List (List UInt8) :=
  (h.filter (·.1 == name)).map Prod.snd

theorem values_set_self (h : Headers) (name value : String) :
    (h.set name value).values name = [Utf8.encode value] := by
  have hothers : (h.filter (·.1 != name)).filter (·.1 == name) = [] := by
    rw [List.filter_filter, List.filter_eq_nil_iff]
    intro f _
    simp
  simp [values, set, List.filter_append, hothers]

theorem values_set_of_ne {h : Headers} {name other : String} (hne : other ≠ name)
    (value : String) : (h.set name value).values other = h.values other := by
  have hkept : (h.filter (·.1 != name)).filter (·.1 == other) = h.filter (·.1 == other) := by
    rw [List.filter_filter]
    refine List.filter_congr fun f _ => ?_
    by_cases hf : f.1 = other
    · simp [hf, hne]
    · simp [hf]
  simp [values, set, List.filter_append, hkept, hne.symm]

theorem values_setDefault_of_ne {h : Headers} {name other : String} (hne : other ≠ name)
    (value : String) : (h.setDefault name value).values other = h.values other := by
  unfold setDefault
  split
  · rfl
  · exact values_set_of_ne hne value

end Headers

namespace Response

def values (r : Response) (name : String) : List (List UInt8) := r.headers.values name

@[simp] theorem values_empty (status : Nat) (name : String) : (empty status).values name = [] := rfl

theorem values_set (r : Response) (name other value : String) :
    (r.set name value).values other =
      if other = name then [Utf8.encode value] else r.values other := by
  split
  · next heq => exact heq ▸ Headers.values_set_self r.headers other value
  · next hne => exact Headers.values_set_of_ne hne value

theorem values_setDefault_of_ne {name other : String} (hne : other ≠ name) (r : Response)
    (value : String) :
    values { r with headers := r.headers.setDefault name value } other = r.values other :=
  Headers.values_setDefault_of_ne hne value

theorem values_measured_of_ne {name : String} (hne : name ≠ "content-length") (r : Response) :
    r.measured.values name = r.values name := values_setDefault_of_ne hne r _

@[simp] theorem values_withoutBody (r : Response) (name : String) :
    r.withoutBody.values name = r.values name := rfl

/-! What requests are handled with. -/

/-- The answers that requests are handled with: nothing, bytes of some kind, or an address; and such
an answer that is not to be kept. -/
inductive IsPlain : Response → Prop
  | empty (status : Nat) : IsPlain (.empty status)
  | typed (status : Nat) (mediaType : String) (body : ByteArray) :
      IsPlain (.typed status mediaType body)
  | redirect (location : String) : IsPlain (.redirect location)
  | passing {r : Response} (h : IsPlain r) : IsPlain (r.set "cache-control" "no-store")

def plainNames : List String := ["content-type", "location", "cache-control"]

/-- They have no other fields. -/
theorem IsPlain.values_eq_nil {r : Response} (h : r.IsPlain) {name : String}
    (hname : name ∉ plainNames) : r.values name = [] := by
  simp only [plainNames, List.mem_cons, List.not_mem_nil, or_false, not_or] at hname
  obtain ⟨htype, hlocation, hcache⟩ := hname
  induction h with
  | empty status => rfl
  | typed status mediaType body =>
    exact Headers.values_set_of_ne (h := []) htype mediaType
  | redirect location => exact Headers.values_set_of_ne (h := []) hlocation location
  | passing _ ih => rw [values_set, if_neg hcache, ih]

end Response

end ConfigRegistry.Http
