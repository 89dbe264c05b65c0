import ConfigRegistry.Proofs.Server.Authority

/-!
Records and archives are told to nobody without a credential. A request that has none gets the same
answer whatever versions there are, at every resource, also where it is refused and from the check
of the server's health.
-/
namespace ConfigRegistry.Server

open Http

variable {a : App} {s s' : State} {o : Occasion} {r : Request} {route : Route} {v : Visitor}

/-- The check of its health tells nothing about what a store of archives holds. -/
theorem contains_probeKey (blobs : Blob.Store) :
    ∃ found, blobs.contains Blob.probeKey = .ok found := by
  cases blobs with
  | memory archives => exact ⟨_, rfl⟩
  | directory d =>
    have hempty : Blob.probeKey.isEmpty = false := by decide
    have hdots : Blob.Directory.hasDots Blob.probeKey.toList = false := by decide
    have hslash : Blob.probeKey.startsWith "/" = false := by
      rw [Blob.startsWith_slash]
      decide
    have hkey : Blob.Directory.isKey Blob.probeKey = true := by
      simp [Blob.Directory.isKey, hempty, hdots, hslash]
    refine ⟨d.tree.exists? (Blob.Directory.join d.base Blob.probeKey), ?_⟩
    simp [Blob.Store.contains, Blob.Directory.contains, Blob.Directory.path, hkey]

/-- The health check looks at the store of archives but at nothing in it. -/
theorem health_archives_eq (outages : Outages) (blobs blobs' : Blob.Store) :
    Health.archives outages blobs = Health.archives outages blobs' := by
  obtain ⟨found, h⟩ := contains_probeKey blobs
  obtain ⟨found', h'⟩ := contains_probeKey blobs'
  unfold Health.archives
  rw [h, h']
  cases outages.ofBlobs .exists with
  | none => rfl
  | some outage =>
    cases outage with
    | fail fault => rfl
    | pause times => rfl
    | hang => rfl

theorem health_answer_eq (outages : Outages) (blobs blobs' : Blob.Store) :
    Health.answer outages blobs = Health.answer outages blobs' := by
  unfold Health.answer
  rw [health_archives_eq outages blobs blobs']

theorem withBody_response {handle handle' : ByteArray → Exchange}
    (h : ∀ body, (handle body).response = (handle' body).response) :
    (withBody s route r handle).response = (withBody s' route r handle').response := by
  unfold withBody
  split
  · exact h _
  · rfl

/-- Resources without a gate, and those for sessions, know nothing of versions. -/
theorem handle_response_eq (htokens : s.tokens = s'.tokens)
    (hgate : route.gate = .free ∨ route.gate = .session) :
    (handle a s o v r route).response = (handle a s' o v r route).response := by
  cases route with
  | discovery => rfl
  | health =>
    simp only [handle, health_answer_eq o.outages s.world.blobs s'.world.blobs]
    rfl
  | openApi => rfl
  | docs => rfl
  | ping => rfl
  | authorization =>
    apply withBody_response
    intro body
    rfl
  | token =>
    apply withBody_response
    intro body
    simp only [htokens]
  | versions workspace => simp [Route.gate] at hgate
  | latest workspace => simp [Route.gate] at hgate
  | version id => simp [Route.gate] at hgate
  | download id => simp [Route.gate] at hgate
  | upload signature id => simp [Route.gate] at hgate

theorem admitted_response_eq
    (h : r.method ∈ route.methods → route.badName? = none →
      (handle a s o v r route).response = (handle a s' o v r route).response) :
    (admitted a s o v r route).response = (admitted a s' o v r route).response := by
  unfold admitted
  split
  · rfl
  · next hmethod =>
    split
    · rfl
    · next hnamed => exact h (Decidable.not_not.mp hmethod) hnamed

/-- Without a token that authenticates the gate of users looks at nothing but tokens. -/
theorem bearer_refused {h : Headers} (htokens : s.tokens = s'.tokens)
    (hnone : ∀ record, ¬ Presents s o h record) :
    ∃ f events, bearer a s o h = (.error f, events) ∧ bearer a s' o h = (.error f, events) := by
  have hsame : bearer a s' o h = bearer a s o h := by
    unfold bearer
    rw [htokens]
  rw [hsame]
  cases hbearer : bearer a s o h with
  | mk result events =>
    cases result with
    | error f => exact ⟨f, events, rfl, rfl⟩
    | ok subject =>
      obtain ⟨record, hrecord, _⟩ := bearer_ok hbearer
      exact absurd hrecord (hnone record)

/-- Two states with the same tokens answer the same to a request that presents none of them. -/
theorem atGate_response_eq (hroute : Route.ofPath? (pathOf r) = some route)
    (htokens : s.tokens = s'.tokens) (hnone : ∀ record, ¬ Presents s o r.headers record)
    (hunsigned : ∀ id, ¬ UploadRequest a o r id) :
    (atGate a s o r (pathOf r) route).response = (atGate a s' o r (pathOf r) route).response := by
  unfold atGate
  cases hgate : route.gate with
  | free =>
    apply admitted_response_eq
    intro _ _
    exact handle_response_eq htokens (.inl hgate)
  | session =>
    apply admitted_response_eq
    intro _ _
    exact handle_response_eq htokens (.inr hgate)
  | bearer =>
    obtain ⟨f, events, hs, hs'⟩ := bearer_refused (a := a) htokens hnone
    simp only [hs, hs']
    rfl
  | signature =>
    simp only
    split
    · next hsigned =>
      apply admitted_response_eq
      intro hmethod hnamed
      cases route with
      | upload signature raw =>
        have hraw := decodeName_of_named hnamed
          (show ("id", raw) ∈ (Route.upload signature raw).names from by simp [Route.names])
        exact absurd ⟨List.mem_singleton.mp hmethod, signature, raw,
          (Route.path_of_ofPath? hroute).symm, hraw,
          verify_of_signed hroute (isSigned_iff.mp hsigned)⟩ (hunsigned (textOf raw))
      | _ => contradiction
    · rfl

/-- A request without a token that authenticates and without a right signature for an upload gets
the same answer in any two states with the same tokens. -/
theorem respond_response_eq (htokens : s.tokens = s'.tokens)
    (hnone : ∀ record, ¬ Presents s o r.headers record)
    (hunsigned : ∀ id, ¬ UploadRequest a o r id) :
    (respond a s o r).response = (respond a s' o r).response := by
  cases hroute : Route.ofPath? (pathOf r) with
  | none =>
    unfold pathOf at hroute
    simp only [respond, hroute]
    rfl
  | some route =>
    have hgate := atGate_response_eq hroute htokens hnone hunsigned
    rw [respond_routed hroute, respond_routed hroute, Exchange.response_mapResponse,
      Exchange.response_mapResponse]
    congr 1
    split
    · rfl
    · rw [Exchange.response_mapResponse, Exchange.response_mapResponse]
      congr 1
      split
      · rfl
      · exact hgate

/-- Nobody has a token of an empty ledger. -/
theorem not_presents_of_nil (htokens : s.tokens = []) (h : Headers) (record : Token) :
    ¬ Presents s o h record := by
  rintro ⟨value, token, _, _, hrecord⟩
  rw [htokens] at hrecord
  generalize Text.trim (String.ofList token) = presented at hrecord
  unfold Ledger.authenticate at hrecord
  split at hrecord
  · cases hrecord
  · split at hrecord
    · cases hrecord
    · cases hrecord

def filled : State :=
  ⟨⟨Table.empty.insert "cv-A" (Version.create "A" "ws" ⟨true, false, .api, none⟩ ⟨0, 0⟩),
    .memory (Table.empty.insert "configs/cv-A.tar.gz" ⟨#[1]⟩), .empty⟩, []⟩

def strayDownload : Request :=
  ⟨"GET", "/api/v2/configuration-versions/cv-A/download", none,
    [("authorization", Coding.Utf8.encode "Bearer stx_00000000000000000000")], []⟩

theorem strayDownload_response_eq :
    State.empty.tokens = filled.tokens ∧
      (∀ record, ¬ Presents .empty plainOccasion strayDownload.headers record) ∧
      (∀ id, ¬ UploadRequest plainApp plainOccasion strayDownload id) ∧
      (respond plainApp .empty plainOccasion strayDownload).response =
        (respond plainApp filled plainOccasion strayDownload).response :=
  have hnone := not_presents_of_nil (s := .empty) (o := plainOccasion) rfl strayDownload.headers
  have hget : ∀ id, ¬ UploadRequest plainApp plainOccasion strayDownload id := fun id h =>
    absurd h.method (by decide)
  ⟨rfl, hnone, hget, respond_response_eq rfl hnone hget⟩

end ConfigRegistry.Server
