import ConfigRegistry.Http.Message
import ConfigRegistry.Proofs.Coding.Utf8
import ConfigRegistry.Table

/-!
Fields of answers. A field that is set is found with its value, and no other field changes, so
that an answer goes on leading to the same place.
-/
namespace ConfigRegistry.Http

open Coding

namespace Headers

theorem get?_set (h : Headers) (name other value : String) :
    (h.set name value).get? other =
      if other = name then some (Coding.Utf8.encode value) else h.get? other := by
  have hkept := Table.lookup_filter (· != name) h other
  simp only [get?, set, List.lookup_append, hkept]
  by_cases hother : other = name
  · subst hother
    simp
  · have hne : (other == name) = false := by simpa using hother
    simp [List.lookup_cons, hother, hne]

theorem get?_setDefault_of_ne {h : Headers} {name other : String} (hne : other ≠ name)
    (value : String) : (h.setDefault name value).get? other = h.get? other := by
  unfold setDefault
  split
  · rfl
  · rw [get?_set, if_neg hne]

theorem isTextByte_of_visible {b : UInt8} (hlow : 0x20 ≤ b.toNat) (hhigh : b.toNat < 0x7f) :
    isTextByte b = true := by
  simp [isTextByte, UInt8.le_iff_toNat_le, UInt8.lt_iff_toNat_lt, hlow, hhigh]

theorem all_isTextByte_of_visible {value : String}
    (h : ∀ c ∈ value.toList, 0x20 ≤ c.toNat ∧ c.toNat < 0x7f) :
    (Utf8.encode value).all isTextByte = true := by
  rw [Utf8.encode_of_small fun c hc => Nat.lt_trans (h c hc).2 (by decide), List.all_map,
    List.all_eq_true]
  intro c hc
  have hbyte : (UInt8.ofNat c.toNat).toNat = c.toNat := by
    rw [UInt8.toNat_ofNat', Nat.mod_eq_of_lt (Nat.lt_trans (h c hc).2 (by decide))]
  exact isTextByte_of_visible (hbyte ▸ (h c hc).1) (hbyte ▸ (h c hc).2)

/-- A field of visible characters is text. -/
theorem text?_of_visible {h : Headers} {name value : String}
    (hvalue : h.get? name = some (Utf8.encode value))
    (hvisible : ∀ c ∈ value.toList, 0x20 ≤ c.toNat ∧ c.toNat < 0x7f) :
    h.text? name = some value := by
  have hsmall : ∀ c ∈ value.toList, c.toNat < 128 := fun c hc =>
    Nat.lt_trans (hvisible c hc).2 (by decide)
  simp only [text?, hvalue, all_isTextByte_of_visible hvisible, if_true,
    Utf8.ofList_map_encode hsmall]

end Headers

namespace Response

/-- Where an answer leads: its status, and the address in it. -/
def direction (r : Response) : Nat × Option (List UInt8) := (r.status, r.headers.get? "location")

theorem direction_set {name : String} (hne : "location" ≠ name) (r : Response) (value : String) :
    (r.set name value).direction = r.direction := by
  simp only [direction, set, Headers.get?_set, if_neg hne]

theorem direction_setDefault {name : String} (hne : "location" ≠ name) (r : Response)
    (value : String) :
    direction { r with headers := r.headers.setDefault name value } = r.direction := by
  simp only [direction, Headers.get?_setDefault_of_ne hne]

@[simp] theorem direction_measured (r : Response) : r.measured.direction = r.direction :=
  direction_setDefault (by decide) r _

@[simp] theorem direction_withoutBody (r : Response) : r.withoutBody.direction = r.direction := rfl

@[simp] theorem direction_typed (status : Nat) (mediaType : String) (body : ByteArray) :
    (typed status mediaType body).direction = (status, none) :=
  direction_set (by decide) ⟨status, [], body⟩ mediaType

@[simp] theorem direction_text (status : Nat) (s : String) :
    (text status s).direction = (status, none) := direction_typed ..

@[simp] theorem direction_page (s : String) : (page s).direction = (200, none) :=
  direction_typed ..

@[simp] theorem direction_redirect (location : String) :
    (redirect location).direction = (302, some (Coding.Utf8.encode location)) := by
  simp [direction, redirect, set, Headers.get?_set, empty]

/-- What an answer says: its status and its bytes. -/
def content (r : Response) : Nat × ByteArray := (r.status, r.body)

@[simp] theorem content_set (r : Response) (name value : String) :
    (r.set name value).content = r.content := rfl

@[simp] theorem content_measured (r : Response) : r.measured.content = r.content := rfl

@[simp] theorem content_typed (status : Nat) (mediaType : String) (body : ByteArray) :
    (typed status mediaType body).content = (status, body) := rfl

theorem status_of_content {r : Response} {status : Nat} {body : ByteArray}
    (h : r.content = (status, body)) : r.status = status := congrArg Prod.fst h

theorem body_of_content {r : Response} {status : Nat} {body : ByteArray}
    (h : r.content = (status, body)) : r.body = body := congrArg Prod.snd h

end Response

end ConfigRegistry.Http
