import ConfigRegistry.Proofs.Sequencing
import ConfigRegistry.Store.Versions

/-!
The records of versions lie under their own identifiers. A record comes to be under an identifier
that has none, and moves once, out of its pending status.
-/
namespace ConfigRegistry

def Version.movedTo (v : Version) (next : Version.Status) (moment : Time.Instant) : Version :=
  { v with status := next, timestamps := v.timestamps ++ [⟨next, moment⟩] }

theorem Version.transition_eq_ok {v moved : Version} {next : Version.Status}
    {moment : Time.Instant} (h : v.transition next moment = (.ok (), moved)) :
    v.status = .pending ∧ next ≠ .pending ∧ moved = v.movedTo next moment := by
  unfold Version.transition at h
  split at h
  · next hcan =>
    have hparts : v.status = .pending ∧ next ≠ .pending := by
      simpa [Version.Status.canBecome, Version.Status.isTerminal] using hcan
    exact ⟨hparts.1, hparts.2, (Prod.mk.inj h).2.symm⟩
  · exact absurd (Prod.mk.inj h).1 (by simp)

/-- A version that may not move stays as it is. -/
theorem Version.transition_of_error {v after : Version} {next : Version.Status}
    {moment : Time.Instant} {f : Failure} (h : v.transition next moment = (.error f, after)) :
    after = v := by
  unfold Version.transition at h
  split at h
  · exact absurd (Prod.mk.inj h).1 (by simp)
  · exact (Prod.mk.inj h).2.symm

namespace Versions

theorem create_eq_ok {vs vs' : Versions} {v : Version} (h : vs.create v = (.ok (), vs')) :
    vs.get? v.id = none ∧ vs' = vs.insert v.id v := by
  unfold create at h
  split at h
  · exact absurd (Prod.mk.inj h).1 (by simp)
  · next hcontains =>
    exact ⟨by simpa [Table.contains] using hcontains, (Prod.mk.inj h).2.symm⟩

/-- A creation that is refused leaves all records as they were. -/
theorem create_of_error {vs vs' : Versions} {v : Version} {f : Failure}
    (h : vs.create v = (.error f, vs')) : vs' = vs := by
  unfold create at h
  split at h
  · exact (Prod.mk.inj h).2.symm
  · exact absurd (Prod.mk.inj h).1 (by simp)

/-- A transition succeeds only from pending, to a status that is not, and touches one record. -/
theorem transition_eq_ok {vs vs' : Versions} {id : String} {moved : Version}
    {next : Version.Status} {moment : Time.Instant}
    (h : vs.transition id next moment = (.ok moved, vs')) :
    ∃ v, vs.get? id = some v ∧ v.status = .pending ∧ next ≠ .pending ∧
      moved = v.movedTo next moment ∧ vs' = vs.insert id moved := by
  unfold transition at h
  split at h
  · exact absurd (Prod.mk.inj h).1 (by simp)
  · next v hv =>
    cases hmove : v.transition next moment with
    | mk outcome other =>
      cases outcome with
      | error f => simp [hmove, Except.map] at h
      | ok done =>
        obtain ⟨rfl, rfl⟩ : other = moved ∧ vs.insert id other = vs' := by
          simpa [hmove, Except.map] using h
        obtain ⟨hpending, hnext, hmovedTo⟩ := Version.transition_eq_ok hmove
        exact ⟨v, hv, hpending, hnext, hmovedTo, rfl⟩

/-- A move that is refused leaves all records as they were. -/
theorem transition_of_error {vs vs' : Versions} {id : String} {next : Version.Status}
    {moment : Time.Instant} {f : Failure} (h : vs.transition id next moment = (.error f, vs')) :
    vs' = vs := by
  unfold transition at h
  split at h
  · exact (Prod.mk.inj h).2.symm
  · next v hv =>
    cases hmove : v.transition next moment with
    | mk outcome after =>
      cases outcome with
      | ok done => simp [hmove, Except.map] at h
      | error f' =>
        obtain rfl := Version.transition_of_error hmove
        have hback : vs.insert id after = vs' := by simpa [hmove] using congrArg Prod.snd h
        rw [← hback, Table.insert_of_get? hv]

theorem contains_iff {vs : Versions} {id : String} :
    vs.contains id = true ↔ ∃ v, vs.get? id = some v := by
  simp [Table.contains, Option.isSome_iff_exists]

def Keyed (vs : Versions) : Prop := ∀ id v, vs.get? id = some v → v.id = id

theorem keyed_empty : Keyed Table.empty := by
  intro id v h
  simp at h

theorem Keyed.insert {vs : Versions} (h : vs.Keyed) {id : String} {v : Version}
    (hv : v.id = id) : Keyed (vs.insert id v) := by
  intro other w hw
  rw [Table.get?_insert] at hw
  split at hw
  · next heq => exact (Option.some.inj hw ▸ hv).trans heq.symm
  · exact h other w hw

theorem Keyed.erase {vs : Versions} (h : vs.Keyed) (id : String) : Keyed (vs.erase id) := by
  intro other w hw
  rw [Table.get?_erase] at hw
  split at hw
  · contradiction
  · exact h other w hw

end Versions

end ConfigRegistry
