import ConfigRegistry.Proofs.Server.Bearers
import ConfigRegistry.Proofs.Server.Discretion
import ConfigRegistry.Proofs.Server.Uploads

/-!
The way of an archive through the server. Whoever creates a version is told an address, an archive
that is sent there in time is taken, and from then on everybody with a token is given that archive,
until the version is deleted.
-/
namespace ConfigRegistry.Server

open Http

variable {a : App} {s : Site} {o : Occasion} {r : Request}

/-- What a version needs for its first upload: its record is as it was created, nobody holds its
lock, and no call is about to store an archive of it or to remove one. -/
structure Site.Awaits (s : Site) (v : Version) : Prop where
  record : s.versions.get? v.id = some v
  unheld : s.system.world.locks.Unheld v.id
  spares : ∀ caller call stage, s.system.At caller call stage → stage.Spares v.id

/-- What a server shows of a version and its archive to users. -/
structure Site.Offers (a : App) (s : Site) (id : String) (data : ByteArray) : Prop where
  shown : ∀ (o : Occasion) (r : Request), o.outages = .none →
    Fetches s.state o r (.version id) → ∃ document : Json.Value,
      (respond a s.state o r).response.content = (200, document.render.toUTF8) ∧
        Version.Document.status? document = some (.string "uploaded") ∧
        ¬ document.Mentions Version.uploadUrlName
  downloaded : ∀ (o : Occasion) (r : Request), o.outages = .none →
    Fetches s.state o r (.download id) → (respond a s.state o r).response.content = (200, data)

theorem Site.offers_of_has {moved : Version} {data : ByteArray} (hid : Blob.isId moved.id = true)
    (hmoved : moved.status = .uploaded) (hhas : s.system.world.Has moved data) :
    s.Offers a moved.id data where
  shown o r ho h := by
    refine ⟨_, respond_shows ho hid hhas.record h, ?_, Version.not_mentions_ofVersion moved⟩
    rw [Version.status?_ofVersion, hmoved]
    rfl
  downloaded o r ho h := respond_downloads ho hid hhas h

/-- An upload to the address of a version is answered with success, and the archive is offered until
the version is deleted. -/
theorem Site.upload_offers {v : Version} {data : ByteArray} {expiry : Nat} (hs : s.Orderly a)
    (ho : o.outages = .none) (hmark : ∃ u : Uuid, o.mark = u.render)
    (hid : Blob.isId v.id = true) (hexpiry : expiry ≤ Text.Decimal.maxI64)
    (hpending : v.status = .pending) (hawaits : s.Awaits v)
    (h : Uploads a r (signedPath a v.id expiry) data) (hnow : o.now.seconds ≤ expiry)
    (hput : ∀ key, Blob.keyOf v.id = .ok key →
      (s.system.world.blobs.put key data o.mark).1 = .ok ()) :
    (respond a s.state o r).response.status = 200 ∧
      ∀ t, Reaches a (·.Lists v.id) (s.answered a o r) t → t.Offers a v.id data := by
  obtain ⟨hstatus, moved, hmovedId, hmoved, hhas⟩ := respond_uploads (s := s.state) ho
    hs.system.sane hs.bounded (slash_not_mem_of_render hmark) hid hexpiry h hnow hpending
    hawaits.record hawaits.unheld hput
  refine ⟨hstatus, fun t hrun => ?_⟩
  rw [← hmovedId] at hid hrun ⊢
  have hholds : (s.answered a o r).system.Holds moved data :=
    ⟨hhas, fun caller call stage hat => hmovedId ▸ hawaits.spares caller call stage hat⟩
  have hsettled : moved.status ≠ .pending := by
    rw [hmoved]
    decide
  have hkept := hrun.keeps (hs.answered (slash_not_mem_of_render hmark) r) hsettled hholds
  exact Site.offers_of_has hid hmoved hkept.has

/-- A creation is answered with the address for the upload; an archive that is sent there in time,
in whatever frames, is taken, and then offered until the version is deleted. No answer to who lists
versions or looks one up has an address for an upload. -/
theorem round_trip (hs : s.Reachable a) {workspace : String} {options : Version.Options}
    {draws : List Nat} (h : Creates s.state o r workspace options) (ho : o.outages = .none)
    (hmark : ∃ u : Uuid, o.mark = u.render) (hclock : 0 ≤ o.now.seconds)
    (hdrawn : o.suffix = ResourceId.suffix draws)
    (hfresh : s.versions.get? (ResourceId.make Version.idKind o.suffix) = none) :
    ∃ (v : Version) (expiry : Nat), v = Version.create o.suffix workspace options o.now ∧
      (expiry : Int) = Signing.expiryAfter o.now.seconds a.settings.uploadUrlSeconds ∧
      (∃ document : Json.Value,
        (respond a s.state o r).response.content = (201, document.render.toUTF8) ∧
          ∃ scheme, (scheme = "http" ∨ scheme = "https") ∧
            Version.Document.uploadUrl? document = some (.string (scheme ++ "://" ++
              (r.headers.text? "host").getD "localhost" ++ signedPath a v.id expiry))) ∧
      (s.answered a o r).versions.get? v.id = some v ∧
      (∀ (t : Site) (data : ByteArray) (o' : Occasion) (r' : Request),
        Site.Reaches a (fun _ => True) (s.answered a o r) t → t.Awaits v →
        o'.outages = .none → (∃ u : Uuid, o'.mark = u.render) → o'.now.seconds ≤ expiry →
        (∀ key, Blob.keyOf v.id = .ok key →
          (t.system.world.blobs.put key data o'.mark).1 = .ok ()) →
        Uploads a r' (signedPath a v.id expiry) data →
        (respond a t.state o' r').response.status = 200 ∧
          ∀ u, Site.Reaches a (·.Lists v.id) (t.answered a o' r') u → u.Offers a v.id data) ∧
      ∀ (s : State) (o : Occasion) (r : Request) (route : Route),
        Route.ofPath? (pathOf r) = some route → Looks r.method route →
        Discreet (respond a s o r).response.body := by
  obtain ⟨expiry, hexpiry, hmax⟩ := Signing.expiryAfter_eq_natCast hclock
    a.settings.uploadUrlSeconds
  obtain ⟨hresponse, hstate⟩ := respond_creates (a := a) ho h hfresh
  have hid : Blob.isId (Version.create o.suffix workspace options o.now).id = true := by
    show Blob.isId (ResourceId.make Version.idKind o.suffix) = true
    rw [hdrawn]
    exact isId_make draws
  have hreached := (hs.orderly.answered (slash_not_mem_of_render hmark) r)
  refine ⟨_, expiry, rfl, hexpiry.symm, ⟨_, hresponse, ?_⟩, ?_, ?_, ?_⟩
  · rw [Version.uploadUrl?_ofVersion, Versions.uploadUrl, hexpiry]
    refine ⟨_, ?_, rfl⟩
    split
    · exact .inr rfl
    · exact .inl rfl
  · show (respond a s.state o r).state.world.versions.get? _ = _
    rw [hstate, Table.get?_insert, if_pos rfl]
  · intro t data o' r' hrun hawaits ho' hmark' hnow hput hupload
    exact Site.upload_offers (hrun.orderly hreached) ho' hmark' hid hmax rfl hawaits hupload hnow
      hput
  · intro s o r route hroute hlooks
    exact discreet_respond hroute hlooks

/-! A small archive on its way. -/

/-- The record of a token of a user, issued with the draws of a plain occasion. -/
def traveller : Token := Ledger.recordOf "ada" "laptop" plainOccasion.token ⟨0, 0⟩

def travelHeaders : Headers :=
  [("authorization", ("Bearer ".toList ++ (Token.ofBytes plainOccasion.token.token).toList).map
    fun c => UInt8.ofNat c.toNat)]

theorem presents_traveller {s : State} (h : s.tokens = [traveller]) :
    Presents s plainOccasion travelHeaders traveller := by
  have hshown : Headers.text? travelHeaders "authorization" =
      some ("Bearer " ++ Token.ofBytes plainOccasion.token.token) := by decide +kernel
  exact presents_recordOf (by decide) (by decide) (unclaimed_nil _) h rfl hshown

def travelSite : Site := ⟨.start .empty, [traveller]⟩

def travelOptions : Version.Options := Version.Request.empty.options .api

def travelVersion : Version :=
  Version.create plainOccasion.suffix "ws" travelOptions plainOccasion.now

def creation : Request := ⟨"POST", (Route.versions "ws").path, none, travelHeaders, []⟩

def delivery : Request :=
  ⟨"PUT", signedPath plainApp travelVersion.id 1700003600, none, [],
    [.data ⟨#[1]⟩, .trailers, .data ⟨#[2, 3]⟩]⟩

def collection : Request := ⟨"GET", (Route.download travelVersion.id).path, none, travelHeaders, []⟩

theorem creates_creation : Creates travelSite.state plainOccasion creation "ws" travelOptions where
  method := rfl
  path := ⟨"ws", by unfold Route.IsSegment; decide, Route.trimmedPath_apiPath
    ["workspaces", "ws"] (by unfold Route.IsSegment; decide),
    Route.decodeName?_of_not_mem (by decide)⟩
  user := ⟨traveller, presents_traveller rfl⟩
  body := by
    refine ⟨.empty, .empty, rfl, by decide, ?_, ?_, rfl⟩
    · exact statesLength_of_absent rfl _
    · rw [Coding.Utf8.toList_eq_data]
      rfl

theorem createdSite_state : (travelSite.answered plainApp plainOccasion creation).state =
    ⟨⟨Table.empty.insert travelVersion.id travelVersion, .empty, .empty⟩, [traveller]⟩ := by
  rw [Site.answered_state]
  exact (respond_creates (a := plainApp) rfl creates_creation rfl).2

theorem not_at_answered (a : App) (o : Occasion) (r : Request) {s : Site} (h : s.system.tasks = [])
    {caller : Nat} {call : Service.Call} {stage : Service.Stage} :
    ¬ (s.answered a o r).system.At caller call stage := by
  simp [Service.System.At, Site.answered, h]

theorem createdSite_awaits :
    (travelSite.answered plainApp plainOccasion creation).Awaits travelVersion := by
  refine ⟨?_, ?_, fun caller call stage hat => absurd hat (not_at_answered _ _ _ rfl)⟩
  · rw [Site.versions, Site.state_world, createdSite_state, Table.get?_insert, if_pos rfl]
  · rw [Site.state_world, createdSite_state]
    intro number hnumber
    contradiction

theorem uploads_delivery :
    Uploads plainApp delivery (signedPath plainApp travelVersion.id 1700003600) ⟨#[1, 2, 3]⟩ :=
  ⟨rfl, rfl, rfl, by decide, statesLength_of_absent rfl _⟩

/-- A version is created, its archive delivered and collected, each by a request of its own. -/
theorem collection_delivers :
    travelSite.Reachable plainApp ∧
      (respond plainApp travelSite.state plainOccasion creation).response.status = 201 ∧
      (respond plainApp (travelSite.answered plainApp plainOccasion creation).state plainOccasion
        delivery).response.status = 200 ∧
      (respond plainApp
        ((travelSite.answered plainApp plainOccasion creation).answered plainApp plainOccasion
          delivery).state plainOccasion collection).response.content = (200, ⟨#[1, 2, 3]⟩) := by
  have hs : travelSite.Reachable plainApp := ⟨.empty, [traveller], .memory, .refl⟩
  have hmark : ∃ u : Uuid, plainOccasion.mark = u.render := ⟨.ofRandom [2], rfl⟩
  have hsuffix : plainOccasion.suffix = ResourceId.suffix (List.replicate 16 0) := rfl
  obtain ⟨v, expiry, rfl, hexpiry, ⟨_, hcreated, _⟩, _, hupload, _⟩ :=
    round_trip hs creates_creation rfl hmark (by decide) hsuffix rfl
  obtain rfl : expiry = 1700003600 := by
    have h : Signing.expiryAfter plainOccasion.now.seconds plainApp.settings.uploadUrlSeconds =
      1700003600 := by decide
    omega
  have hput : ∀ key, Blob.keyOf travelVersion.id = .ok key →
      ((travelSite.answered plainApp plainOccasion creation).system.world.blobs.put key ⟨#[1, 2, 3]⟩
        plainOccasion.mark).1 = .ok () := by
    intro key _
    rw [Site.state_world, createdSite_state]
    rfl
  obtain ⟨hstatus, hoffers⟩ := hupload _ ⟨#[1, 2, 3]⟩ plainOccasion delivery .refl
    createdSite_awaits rfl hmark (by decide) hput uploads_delivery
  have htokens : ((travelSite.answered plainApp plainOccasion creation).answered plainApp
      plainOccasion delivery).state.tokens = [traveller] := by
    rw [Site.answered_state, respond_tokens (by decide), createdSite_state]
  have hpath := Route.trimmedPath_apiPath ["configuration-versions", travelVersion.id]
    (show Route.IsSegment "download" by unfold Route.IsSegment; decide)
  have hfetches : Fetches ((travelSite.answered plainApp plainOccasion creation).answered plainApp
      plainOccasion delivery).state plainOccasion collection (.download travelVersion.id) :=
    ⟨rfl, hpath, ⟨traveller, presents_traveller htokens⟩, rfl⟩
  exact ⟨hs, Response.status_of_content hcreated, hstatus,
    (hoffers _ .refl).downloaded plainOccasion collection rfl hfetches⟩

end ConfigRegistry.Server
