import ConfigRegistry.Proofs.Server.RoundTrip
import ConfigRegistry.Proofs.Service.Deletions

/-!
Who may change what. Records and archives change by an upload under a signed path, by a creation
with a token, or by a deletion with the token of an administrator; the records of tokens change by
the exchange of a code.
-/
namespace ConfigRegistry.Server

open Http

variable {a : App} {s : State} {o : Occasion} {r : Request} {route : Route} {v : Visitor}

/-- A change of records and archives that a request may make. -/
inductive Permitted (a : App) (s : State) (o : Occasion) (r : Request) (w : Service.World) : Prop
  | nothing (h : s.world.Alike w)
  | upload {id : String} (hrequest : UploadRequest a o r id)
      (h : s.world.AlikeBut w id o.mark)
  | creation {workspace : String} {v : Version} (hrequest : CreationRequest s o r workspace)
      (hworkspace : v.workspace = workspace) (h : s.world.Gains w v)
  | deletion {id : String} (hrequest : DeletionRequest a s o r id) (h : s.world.Loses w id)

/-- A call that an admitted request makes changes what the request may change. -/
theorem permitted_of_asks (hs : s.world.Sane) (hmark : '/' ∉ o.mark.toList)
    (hadmitted : Admitted a s o r route v) {call : Service.Call}
    (hasks : Asks o r route v.subject call) : Permitted a s o r (worldAfter a s o call) := by
  have hpath := Route.path_of_ofPath? hadmitted.routed
  generalize hsubject : v.subject = shown at hasks
  cases hasks with
  | create workspace options hmethod =>
    obtain ⟨record, hrecord, _⟩ := hadmitted.passes.bearer_subject hsubject
    have hworkspace := decodeName_of_named hadmitted.named (List.mem_singleton.mpr rfl)
    rcases Service.run_create ⟨o.outages, o.now, o.mark⟩ s.world _ o.suffix (textOf workspace)
      options o.now with halike | hgains
    · exact .nothing halike
    · exact .creation ⟨hmethod, ⟨workspace, hpath.symm, hworkspace⟩, record, hrecord⟩ rfl
        hgains
  | list workspace options =>
    apply Permitted.nothing
    apply Service.run_readsOnly
    exact Service.readsOnly_permitted _ .list trivial
  | latest workspace =>
    apply Permitted.nothing
    apply Service.run_readsOnly
    exact Service.readsOnly_permitted _ .get trivial
  | get id => exact .nothing (Service.run_readsOnly _ _ trivial)
  | delete id hmethod =>
    obtain ⟨record, hrecord, rfl⟩ := hadmitted.passes.bearer_subject hsubject
    have hid := decodeName_of_named hadmitted.named (List.mem_singleton.mpr rfl)
    rcases Service.run_delete ⟨o.outages, o.now, o.mark⟩ hs
      (Subject.ofUsername record.username a.settings.siteAdmins) (textOf id) with
      halike | ⟨hallowed, hloses⟩
    · exact .nothing halike
    · exact .deletion ⟨hmethod, ⟨id, hpath.symm, hid⟩, record, hrecord,
        mem_siteAdmins_of_allows hallowed⟩ hloses
  | download id => exact .nothing (Service.run_readsOnly _ _ trivial)
  | upload signature id data _ =>
    have hid := decodeName_of_named hadmitted.named
      (show ("id", id) ∈ (Route.upload signature id).names from by simp [Route.names])
    have hsigned : Signed a (pathOf r) o.now := by
      cases hadmitted.passes with
      | signature h => exact h
    exact .upload ⟨List.mem_singleton.mp hadmitted.method,
      ⟨signature, id, hpath.symm, hid, verify_of_signed hadmitted.routed hsigned⟩⟩
      (Service.run_upload _ hmark hs _ _ data)

/-- Whatever a request is, the records and archives change only as it may change them, and the
records of tokens only by one more for the user in a good code. -/
theorem respond_permitted (h : Reachable a s) (hmark : ∃ u : Uuid, o.mark = u.render)
    (r : Request) :
    Permitted a s o r (respond a s o r).state.world ∧
      ((respond a s o r).state.tokens = s.tokens ∨
        ∃ payload record, CodeRequest a o r payload ∧ record.username = payload.username ∧
          (respond a s o r).state.tokens = s.tokens ++ [record]) := by
  have hmark := slash_not_mem_of_render hmark
  refine ⟨?_, respond_issues a s o r⟩
  rcases respond_state a s o r with hsame | ⟨route, v, hadmitted, hhandled⟩
  · rw [hsame]
    exact .nothing (.refl _)
  · rw [hhandled]
    rcases handle_state a s o v r route with hsame | ⟨_, _, _, hexchange⟩ |
      ⟨call, hasks, hcall⟩
    · rw [hsame]
      exact .nothing (.refl _)
    · rw [hexchange]
      exact .nothing (.refl _)
    · rw [hcall]
      exact permitted_of_asks h.sane hmark hadmitted hasks

/-- A deletion by an administrator takes the record away when nothing is out of order. -/
theorem respond_deletes {id : String} {record : Token} (ho : o.outages = .none)
    (hid : Blob.isId id = true) (hmethod : r.method = "DELETE")
    (hpath : pathOf r = (Route.version id).path) (hpresents : Presents s o r.headers record)
    (hadmin : record.username ∈ a.settings.siteAdmins)
    (hsmall : isOversized (.version id) r.headers = false) (hkeyed : s.world.versions.Keyed)
    (hrecord : ∃ v, s.world.versions.get? id = some v) :
    (respond a s o r).state.world.versions.get? id = none := by
  have hadmitted : Admitted a s o r (.version id)
      ⟨some (Subject.ofUsername record.username a.settings.siteAdmins), none⟩ := by
    refine ⟨?_, by simp [hmethod, Route.methods], ?_, .bearer hpresents⟩
    · rw [hpath]
      apply Route.ofPath?_path
      intro name raw hraw
      obtain ⟨_, rfl⟩ := Prod.mk.inj (List.mem_singleton.mp hraw)
      exact isSegment_of_isId hid
    · simp [Route.badName?, Route.names, decodeName?_of_isId hid]
  have hdeletes : Service.Setting.Deletes ⟨o.outages, o.now, o.mark⟩ s.world
      (Subject.ofUsername record.username a.settings.siteAdmins) id := by
    refine ⟨hrecord, ?_, ?_, ?_⟩
    · rw [Subject.ofUsername, if_pos hadmin]
    · rw [ho]
      rfl
    · rw [ho]
      rfl
  have hkey := Blob.keyOf_eq_ok_iff.mpr ⟨hid, rfl⟩
  have hworld := (Service.run_delete_of_deletes hdeletes hkeyed hkey).2
  have htext : (Route.decodeName? id).getD "" = id := textOf_of_isId hid
  rw [(hadmitted.respond hsmall (by rw [hmethod]; decide)).1]
  simp only [handle, withSubject, if_pos hmethod, htext]
  rw [call_state, hworld, Table.get?_erase, if_pos rfl]

/-! A version that is uploaded or withdrawn. -/

def travelState : State := (travelSite.answered plainApp plainOccasion creation).state

theorem travelState_eq : travelState =
    ⟨⟨Table.empty.insert travelVersion.id travelVersion, .empty, .empty⟩, [traveller]⟩ :=
  createdSite_state

theorem travelState_record : travelState.world.versions.get? travelVersion.id =
    some travelVersion := by
  rw [travelState_eq, Table.get?_insert, if_pos rfl]

theorem travelState_reachable : Reachable plainApp travelState := by
  have hstart : Reachable plainApp travelSite.state := .start [traveller] .memory
  rw [travelState, Site.answered_state]
  exact hstart.answered plainOccasion creation ⟨.ofRandom [2], rfl⟩

def withdrawal : Request :=
  ⟨"DELETE", (Route.version travelVersion.id).path, none, travelHeaders, []⟩

/-- The delivered bytes become the archive of the version. -/
theorem delivery_arrives : ∃ moved, moved.id = travelVersion.id ∧
    (respond plainApp travelState plainOccasion delivery).state.world.Has moved ⟨#[1, 2, 3]⟩ := by
  have hput : ∀ key, Blob.keyOf travelVersion.id = .ok key →
      (travelState.world.blobs.put key ⟨#[1, 2, 3]⟩ plainOccasion.mark).1 = .ok () := by
    intro key _
    rw [travelState_eq]
    rfl
  have hfree : travelState.world.locks.Unheld travelVersion.id := by
    rw [travelState_eq]
    intro number hnumber
    contradiction
  have hbounded : travelState.world.locks.Bounded := by
    rw [travelState_eq]
    intro id number hnumber
    contradiction
  obtain ⟨_, moved, hid, _, hhas⟩ := respond_uploads (a := plainApp) (o := plainOccasion) rfl
    travelState_reachable.sane hbounded (slash_not_mem_of_render ⟨.ofRandom [2], rfl⟩) (by decide)
    (by decide) uploads_delivery (by decide) rfl travelState_record hfree hput
  exact ⟨moved, hid, hhas⟩

theorem withdrawal_removes : (respond plainApp travelState plainOccasion
    withdrawal).state.world.versions.get? travelVersion.id = none := by
  have hid : Blob.isId travelVersion.id = true := by decide
  have hpath : pathOf withdrawal = (Route.version travelVersion.id).path :=
    Route.trimmedPath_apiPath ["configuration-versions"] (isSegment_of_isId hid)
  have hpresents : Presents travelState plainOccasion withdrawal.headers traveller :=
    presents_traveller (by rw [travelState_eq])
  exact respond_deletes rfl hid rfl hpath hpresents (List.mem_singleton.mpr rfl) rfl
    travelState_reachable.sane.keyed ⟨_, travelState_record⟩

theorem travel_permitted :
    Reachable plainApp travelState ∧ (∃ u : Uuid, plainOccasion.mark = u.render) ∧
      travelState.world.versions.get? travelVersion.id = some travelVersion ∧
      (Permitted plainApp travelState plainOccasion delivery
          (respond plainApp travelState plainOccasion delivery).state.world ∧
        (respond plainApp travelState plainOccasion delivery).state.tokens = travelState.tokens ∧
        ∃ moved, moved.id = travelVersion.id ∧
          (respond plainApp travelState plainOccasion delivery).state.world.Has moved
            ⟨#[1, 2, 3]⟩) ∧
      Permitted plainApp travelState plainOccasion withdrawal
          (respond plainApp travelState plainOccasion withdrawal).state.world ∧
        (respond plainApp travelState plainOccasion withdrawal).state.tokens = travelState.tokens ∧
        (respond plainApp travelState plainOccasion
          withdrawal).state.world.versions.get? travelVersion.id = none := by
  have hmark : ∃ u : Uuid, plainOccasion.mark = u.render := ⟨.ofRandom [2], rfl⟩
  have hdelivery := (respond_permitted travelState_reachable hmark delivery).1
  have hwithdrawal := (respond_permitted travelState_reachable hmark withdrawal).1
  exact ⟨travelState_reachable, hmark, travelState_record,
    ⟨hdelivery, respond_tokens (by decide), delivery_arrives⟩,
    hwithdrawal, respond_tokens (by decide), withdrawal_removes⟩

end ConfigRegistry.Server
