import Mathlib.Data.List.TakeWhile
import ConfigRegistry.Http.Body

/-!
Bodies that are read whole. What a body is read as depends on the bytes in front of the place where
it breaks off, if it does, and not on the frames in which they arrive.
-/
namespace ConfigRegistry.Http.Body

/-- All bytes that the frames of a body carry, unless it breaks off. -/
def content? : Body → Option ByteArray
  | [] => some .empty
  | .data bytes :: rest => (content? rest).map (bytes ++ ·)
  | .trailers :: rest => content? rest
  | .broken _ :: _ => none

/-- A body that fits is read to its end, whatever frames it comes in. -/
theorem readBehind_eq_ok {limit : Nat} {b : Body} {data : ByteArray} (h : b.content? = some data)
    (read : ByteArray) (hsize : read.size + data.size ≤ limit) :
    b.readBehind limit read = .ok (read ++ data) := by
  induction b generalizing read data with
  | nil =>
    obtain rfl := Option.some.inj h
    simp [readBehind]
  | cons frame rest ih =>
    cases frame with
    | data bytes =>
      obtain ⟨behind, hbehind, rfl⟩ := Option.map_eq_some_iff.mp h
      rw [ByteArray.size_append] at hsize
      rw [readBehind, if_neg (by omega), ih hbehind _ (by rw [ByteArray.size_append]; omega),
        ByteArray.append_assoc]
    | trailers => exact ih h read hsize
    | broken reason => contradiction

/-- A body within the limit is read whole, whatever frames it comes in. -/
theorem read_eq_ok {limit : Nat} {b : Body} {data : ByteArray} (h : b.content? = some data)
    (hsize : data.size ≤ limit) : b.read limit = .ok data := by
  rw [read, readBehind_eq_ok h .empty (by simpa using hsize), ByteArray.empty_append]

/-- What a body is read as is what its frames carry. -/
theorem content?_of_readBehind {limit : Nat} {b : Body} {read data : ByteArray}
    (h : b.readBehind limit read = .ok data) :
    ∃ bytes, b.content? = some bytes ∧ data = read ++ bytes := by
  induction b generalizing read with
  | nil =>
    obtain rfl := Except.ok.inj h
    exact ⟨.empty, rfl, by simp⟩
  | cons frame rest ih =>
    cases frame with
    | data bytes =>
      rw [readBehind] at h
      split at h
      · contradiction
      · obtain ⟨behind, hbehind, rfl⟩ := ih h
        exact ⟨bytes ++ behind, by simp [content?, hbehind], ByteArray.append_assoc⟩
    | trailers => exact ih h
    | broken reason => contradiction

theorem content?_of_read {limit : Nat} {b : Body} {data : ByteArray} (h : b.read limit = .ok data) :
    b.content? = some data := by
  obtain ⟨bytes, hbytes, rfl⟩ := content?_of_readBehind h
  rw [hbytes, ByteArray.empty_append]

/-- A body that does not fit is refused, whatever frames it comes in. -/
theorem readBehind_eq_tooLarge {limit : Nat} {b : Body} {data : ByteArray}
    (h : b.content? = some data) {read : ByteArray} (hread : read.size ≤ limit)
    (hsize : limit < read.size + data.size) : b.readBehind limit read = .error .tooLarge := by
  induction b generalizing read data with
  | nil =>
    obtain rfl := Option.some.inj h
    rw [ByteArray.size_empty] at hsize
    omega
  | cons frame rest ih =>
    cases frame with
    | data bytes =>
      obtain ⟨behind, hbehind, rfl⟩ := Option.map_eq_some_iff.mp h
      rw [readBehind]
      split
      · rfl
      · rw [ByteArray.size_append] at hsize
        exact ih hbehind (by rw [ByteArray.size_append]; omega)
          (by rw [ByteArray.size_append]; omega)
    | trailers => exact ih h hread hsize
    | broken reason => contradiction

/-- A body beyond the limit is refused, whatever frames it comes in. -/
theorem read_eq_tooLarge {limit : Nat} {b : Body} {data : ByteArray} (h : b.content? = some data)
    (hsize : limit < data.size) : b.read limit = .error .tooLarge :=
  readBehind_eq_tooLarge h (by simp) (by simpa using hsize)

end ConfigRegistry.Http.Body

/-! Bodies that may break off. -/

namespace ConfigRegistry.Http

def Frame.bytes : Frame → ByteArray
  | .data bytes => bytes
  | .trailers => .empty
  | .broken _ => .empty

def Frame.breach? : Frame → Option String
  | .data _ => none
  | .trailers => none
  | .broken reason => some reason

namespace Body

def joined : Body → ByteArray
  | [] => .empty
  | frame :: rest => frame.bytes ++ joined rest

/-- The frames in front of the first one behind which nothing arrives. -/
def intact (b : Body) : Body := b.takeWhile (·.breach?.isNone)

def breach? (b : Body) : Option String := b.findSome? Frame.breach?

theorem breach?_eq_none_iff {b : Body} :
    b.breach? = none ↔ ∀ frame ∈ b, frame.breach? = none := List.findSome?_eq_none_iff

theorem intact_eq_self {b : Body} (h : b.breach? = none) : b.intact = b :=
  List.takeWhile_eq_self_iff.mpr fun frame hframe =>
    Option.isNone_iff_eq_none.mpr (breach?_eq_none_iff.mp h frame hframe)

/-- Behind bytes within the limit, the bytes in front of the breach decide first whether the body is
too large, and only then the breach counts. -/
theorem readBehind_eq {limit : Nat} {read : ByteArray} (hread : read.size ≤ limit) (b : Body) :
    b.readBehind limit read =
      if limit < read.size + b.intact.joined.size then .error .tooLarge
      else match b.breach? with
        | some reason => .error (.broken reason)
        | none => .ok (read ++ b.intact.joined) := by
  induction b generalizing read with
  | nil => simp [readBehind, intact, joined, breach?, hread]
  | cons frame rest ih =>
    cases frame with
    | data bytes =>
      have hintact : intact (.data bytes :: rest) = .data bytes :: intact rest := rfl
      have hjoined : joined (.data bytes :: intact rest) = bytes ++ joined (intact rest) := rfl
      have hbreach : breach? (.data bytes :: rest) = breach? rest := rfl
      rw [readBehind, hintact, hjoined, hbreach, ByteArray.size_append]
      split
      · rw [if_pos (by omega)]
      · next hfits =>
        have hsize : (read ++ bytes).size ≤ limit := by
          rw [ByteArray.size_append]
          omega
        rw [ih hsize, ByteArray.size_append, Nat.add_assoc, ByteArray.append_assoc]
    | trailers =>
      have hjoined : joined (intact (.trailers :: rest)) = joined (intact rest) :=
        ByteArray.empty_append
      rw [hjoined]
      exact ih hread
    | broken reason =>
      have hnothing : joined (intact (.broken reason :: rest)) = .empty := rfl
      rw [hnothing, if_neg (by simpa using hread)]
      rfl

theorem read_eq (limit : Nat) (b : Body) :
    b.read limit =
      if limit < b.intact.joined.size then .error .tooLarge
      else match b.breach? with
        | some reason => .error (.broken reason)
        | none => .ok b.intact.joined := by
  rw [read, readBehind_eq (Nat.zero_le limit) b, ByteArray.size_empty, Nat.zero_add,
    ByteArray.empty_append]

end Body

end ConfigRegistry.Http
