import ConfigRegistry.Proofs.Http.Bodies
import ConfigRegistry.Proofs.Server.Answers
import ConfigRegistry.Proofs.Server.Authority
import ConfigRegistry.Proofs.Service.Alone
import ConfigRegistry.Proofs.Signing

/-!
Requests that are part of a round trip: one creates a version, one uploads its archive under the
address that the creation told, and others look at the version or fetch the archive. Each of them is
answered as it should be when nothing is out of order.
-/
namespace ConfigRegistry.Server

open Http

variable {a : App} {s : State} {o : Occasion} {r : Request} {id : String}

/-- The path under which the archive of a version may be uploaded until a moment. -/
def signedPath (a : App) (id : String) (expiry : Int) : String :=
  apiPrefix ++ a.signer.sign (Versions.uploadPath id) expiry

theorem signedPath_eq (a : App) (id : String) (expiry : Int) :
    signedPath a id expiry =
      (Route.upload (a.signer.segment (Versions.uploadPath id) expiry) id).path := by
  have hslash : "/".toList = ['/'] := rfl
  rw [← String.toList_inj, upload_path_toList]
  simp only [signedPath, Signing.Signer.sign, String.toList_append, String.toList_ofList, hslash,
    List.append_assoc]

theorem isSegment_of_isId (h : Blob.isId id = true) : Route.IsSegment id := by
  refine ⟨?_, Blob.not_mem_of_isId h (by decide)⟩
  rintro rfl
  contradiction

theorem decodeName?_of_isId (h : Blob.isId id = true) : Route.decodeName? id = some id :=
  Route.decodeName?_of_not_mem (Blob.not_mem_of_isId h (by decide))

theorem textOf_of_isId (h : Blob.isId id = true) : textOf id = id := by
  simp [textOf, decodeName?_of_isId h]

theorem percent_not_mem_segment (signer : Signing.Signer) (path : String) (expiry : Int) :
    '%' ∉ (signer.segment path expiry).toList := by
  intro h
  rcases Signing.mem_segment h with h | h
  · exact absurd h (by decide)
  · exact absurd h (by decide)

theorem isSegment_segment (signer : Signing.Signer) (path : String) (expiry : Int) :
    Route.IsSegment (signer.segment path expiry) := by
  refine ⟨?_, Signing.slash_not_mem_segment signer path expiry⟩
  have hne := Signing.segment_ne_nil signer path expiry
  simpa using hne

/-- What is uploaded under a signed path before its expiry gets past the gate. -/
theorem admitted_signedPath (hid : Blob.isId id = true) {expiry : Nat}
    (hexpiry : expiry ≤ Text.Decimal.maxI64) (hmethod : r.method = "PUT")
    (hpath : r.path = signedPath a id expiry) (hnow : o.now.seconds ≤ expiry) :
    Admitted a s o r (.upload (a.signer.segment (Versions.uploadPath id) expiry) id)
      ⟨none, none⟩ := by
  have hsegment := isSegment_segment a.signer (Versions.uploadPath id) expiry
  have hpathOf : pathOf r = signedPath a id expiry := by
    rw [pathOf, hpath, signedPath_eq]
    exact Route.trimmedPath_upload ..
  have hsigned : Signed a (pathOf r) o.now := by
    refine ⟨(a.signer.segment (Versions.uploadPath id) expiry).toList,
      (Versions.uploadPath id).toList, ?_, ?_⟩
    · have hdrop : (signedPath a id expiry).toList.drop apiPrefix.length =
          (a.signer.sign (Versions.uploadPath id) expiry).toList := by
        rw [signedPath, String.toList_append,
          show apiPrefix.length = apiPrefix.toList.length from rfl, List.drop_left]
      rw [hpathOf, hdrop]
      exact Signing.split?_sign a.signer (by rw [uploadPath_toList, List.head?_cons]) expiry
    · rw [String.ofList_toList]
      exact Signing.verify_segment a.signer _ hexpiry hnow
  refine ⟨?_, ?_, ?_, .signature hsigned⟩
  · rw [hpathOf, signedPath_eq]
    apply Route.ofPath?_path
    intro name raw hraw
    simp only [Route.names, List.mem_cons, Prod.mk.injEq, List.not_mem_nil, or_false] at hraw
    rcases hraw with ⟨_, rfl⟩ | ⟨_, rfl⟩
    · exact hsegment
    · exact isSegment_of_isId hid
  · rw [hmethod]
    exact List.mem_singleton.mpr rfl
  · have hsignature := Route.decodeName?_of_not_mem
      (percent_not_mem_segment a.signer (Versions.uploadPath id) expiry)
    simp [Route.badName?, Route.names, hsignature, decodeName?_of_isId hid]

def StatesLength (h : Headers) (n : Nat) : Prop :=
  ∀ m, h.number? "content-length" = some m → m = n

theorem statesLength_of_absent {h : Headers} (habsent : h.get? "content-length" = none) (n : Nat) :
    StatesLength h n := by
  intro m hm
  simp [Headers.number?, Headers.text?, habsent] at hm

/-- A well-formed request of a user to create a version in a workspace. -/
structure Creates (s : State) (o : Occasion) (r : Request) (workspace : String)
    (options : Version.Options) : Prop where
  method : r.method = "POST"
  path : ∃ raw, Route.IsSegment raw ∧ pathOf r = (Route.versions raw).path ∧
    Route.decodeName? raw = some workspace
  user : ∃ record, Presents s o r.headers record
  body : ∃ bytes request, r.body.content? = some bytes ∧ bytes.size ≤ maxSmallBody ∧
    StatesLength r.headers bytes.size ∧ Version.Request.parse bytes.toList = .ok request ∧
    options = request.options (Versions.sourceOf r.headers)

/-- A request to upload an archive under a path, in a body cut into any frames. -/
structure Uploads (a : App) (r : Request) (path : String) (data : ByteArray) : Prop where
  method : r.method = "PUT"
  path : r.path = path
  body : r.body.content? = some data
  size : data.size ≤ a.settings.maxArchiveSize
  length : StatesLength r.headers data.size

/-- A request of a user for what is at a resource. -/
structure Fetches (s : State) (o : Occasion) (r : Request) (route : Route) : Prop where
  method : r.method = "GET"
  path : pathOf r = route.path
  user : ∃ record, Presents s o r.headers record
  small : isOversized route r.headers = false

theorem not_isOversized {route : Route} {n : Nat} (hlength : StatesLength r.headers n)
    (hsize : n ≤ maxSmallBody) : isOversized route r.headers = false := by
  unfold isOversized
  cases hnumber : r.headers.number? "content-length" with
  | none => simp
  | some m =>
    obtain rfl := hlength m hnumber
    simp [Nat.not_lt.mpr hsize]

/-- A body that states its length rightly and is small enough is read whole. -/
theorem readBody_of_content {route : Route} {bytes : ByteArray}
    (hcontent : r.body.content? = some bytes) (hlength : StatesLength r.headers bytes.size)
    (hsize : bytes.size ≤ maxSmallBody) :
    readBody (bodyLimit route r.headers) r.body = .ok bytes := by
  have hlimit : bytes.size ≤ bodyLimit route r.headers := by
    have hmax : maxSmallBody ≤ maxBody := by decide
    unfold bodyLimit
    split
    · cases hnumber : r.headers.number? "content-length" with
      | none => simpa using hsize
      | some m =>
        obtain rfl := hlength m hnumber
        exact Nat.le_min.mpr ⟨hsize, Nat.le_refl _⟩
    · omega
  simp only [readBody, Body.read_eq_ok hcontent hlimit]

theorem call_ok {opening : Service.Opening} {present : Service.Answer → Response}
    {answer : Service.Answer}
    (h : (Service.run ⟨o.outages, o.now, o.mark⟩ s.world opening).answer = .ok answer) :
    (Versions.call a s o opening present).response = present answer := by
  unfold Versions.call
  simp only [h]

theorem Fetches.admitted {route : Route} (h : Fetches s o r route) (hgate : route.gate = .bearer)
    (hget : "GET" ∈ route.methods) (hnames : ∀ pair ∈ route.names, Blob.isId pair.2 = true) :
    ∃ record : Token, Admitted a s o r route
      ⟨some (Subject.ofUsername record.username a.settings.siteAdmins), none⟩ := by
  obtain ⟨hmethod, hpath, ⟨record, hrecord⟩, _⟩ := h
  refine ⟨record, ?_, hmethod ▸ hget, ?_, hgate ▸ .bearer hrecord⟩
  · rw [hpath]
    exact Route.ofPath?_path fun name raw hraw => isSegment_of_isId (hnames _ hraw)
  · rw [Route.badName?, Option.map_eq_none_iff, List.find?_eq_none]
    intro pair hpair
    simp [decodeName?_of_isId (hnames pair hpair)]

section

variable (ho : o.outages = .none)
include ho

/-- A creation is answered with its version and the address for the upload. -/
theorem respond_creates {workspace : String} {options : Version.Options}
    (h : Creates s o r workspace options)
    (hfresh : s.world.versions.get? (Version.create o.suffix workspace options o.now).id = none) :
    (respond a s o r).response.content = (201, (Version.Document.ofVersion
        (Version.create o.suffix workspace options o.now)
        (some (Versions.uploadUrl a r.headers
          (Version.create o.suffix workspace options o.now).id o.now))).toJson.render.toUTF8) ∧
      (respond a s o r).state = { s with world := { s.world with
        versions := s.world.versions.insert (Version.create o.suffix workspace options o.now).id
          (Version.create o.suffix workspace options o.now) } } := by
  obtain ⟨hmethod, ⟨raw, hraw, hpath, hdecode⟩, ⟨record, hrecord⟩,
    ⟨bytes, request, hcontent, hsize, hlength, hparse, rfl⟩⟩ := h
  have htext : textOf raw = workspace := by simp [textOf, hdecode]
  have hadmitted : Admitted a s o r (.versions raw)
      ⟨some (Subject.ofUsername record.username a.settings.siteAdmins), none⟩ := by
    refine ⟨?_, by simp [hmethod, Route.methods], ?_, .bearer hrecord⟩
    · rw [hpath]
      apply Route.ofPath?_path
      intro name other hother
      obtain ⟨_, rfl⟩ := Prod.mk.inj (List.mem_singleton.mp hother)
      exact hraw
    · simp [Route.badName?, Route.names, hdecode]
  have hallowed := Service.allows_ofUsername record.username a.settings.siteAdmins
    .create (by decide)
  obtain ⟨hanswer, hworld⟩ := Service.run_create_alone (e := ⟨o.outages, o.now, o.mark⟩) ho
    hallowed hfresh
  have hhandle : handle a s o
      ⟨some (Subject.ofUsername record.username a.settings.siteAdmins), none⟩ r (.versions raw) =
      Versions.create a s o (Subject.ofUsername record.username a.settings.siteAdmins) workspace
        r.headers bytes := by
    rw [← htext]
    simp only [handle, withSubject, if_pos hmethod, withBody,
      readBody_of_content hcontent hlength hsize]
    rfl
  obtain ⟨hstate, hresponse⟩ := hadmitted.respond (not_isOversized hlength hsize)
    (by rw [hmethod]; decide)
  rw [hstate, hresponse, hhandle]
  simp only [Versions.create, hparse]
  rw [call_ok hanswer, call_state, hworld]
  exact ⟨rfl, rfl⟩

/-- The first upload of an archive under its address is answered with success, and leaves the
version uploaded with that archive. -/
theorem respond_uploads {v : Version} {data : ByteArray} {expiry : Nat}
    (hs : s.world.Sane) (hbounded : s.world.locks.Bounded) (hmark : '/' ∉ o.mark.toList)
    (hid : Blob.isId v.id = true) (hexpiry : expiry ≤ Text.Decimal.maxI64)
    (h : Uploads a r (signedPath a v.id expiry) data) (hnow : o.now.seconds ≤ expiry)
    (hpending : v.status = .pending) (hrecord : s.world.versions.get? v.id = some v)
    (hfree : s.world.locks.Unheld v.id)
    (hput : ∀ key, Blob.keyOf v.id = .ok key → (s.world.blobs.put key data o.mark).1 = .ok ()) :
    (respond a s o r).response.status = 200 ∧
      ∃ moved, moved.id = v.id ∧ moved.status = .uploaded ∧
        (respond a s o r).state.world.Has moved data := by
  obtain ⟨hmethod, hpath, hcontent, hsize, hlength⟩ := h
  have hadmitted := admitted_signedPath (s := s) hid hexpiry hmethod hpath hnow
  obtain ⟨moved, hmovedId, hmoved, hanswer, hhas⟩ := Service.run_upload_alone
    (e := ⟨o.outages, o.now, o.mark⟩) ho hsize hs hbounded hmark hpending hid hrecord hfree hput
  have hstated : (r.headers.number? "content-length").any (a.settings.maxArchiveSize < ·) =
      false := by
    cases hnumber : r.headers.number? "content-length" with
    | none => rfl
    | some m =>
      obtain rfl := hlength m hnumber
      simpa using hsize
  have hhandle : ∀ signature, handle a s o ⟨none, none⟩ r (.upload signature v.id) =
      Versions.call a s o (Service.upload a.settings.maxArchiveSize v.id data)
        fun _ => .empty 200 := by
    intro signature
    have htext : (Route.decodeName? v.id).getD "" = v.id := textOf_of_isId hid
    simp only [handle, Versions.upload, htext, hstated, Versions.readArchive,
      Body.read_eq_ok hcontent hsize, Bool.false_eq_true, if_false]
  obtain ⟨hstate, hresponse⟩ := hadmitted.respond rfl (by rw [hmethod]; decide)
  rw [hhandle] at hstate hresponse
  rw [call_ok hanswer] at hresponse
  rw [hstate, call_state]
  exact ⟨congrArg Prod.fst hresponse, moved, hmovedId, hmoved, hhas⟩

/-- Who looks a version up is shown its record, without an address for an upload. -/
theorem respond_shows {v : Version} (hid : Blob.isId v.id = true)
    (hrecord : s.world.versions.get? v.id = some v) (h : Fetches s o r (.version v.id)) :
    (respond a s o r).response.content =
      (200, (Version.Document.ofVersion v none).toJson.render.toUTF8) := by
  obtain ⟨record, hadmitted⟩ := h.admitted (a := a) rfl (by simp [Route.methods])
    (by simpa [Route.names] using hid)
  have hanswer := Service.run_get_alone (e := ⟨o.outages, o.now, o.mark⟩) ho
    (Service.allows_ofUsername record.username a.settings.siteAdmins .get (by decide)) hrecord
  have htext : (Route.decodeName? v.id).getD "" = v.id := textOf_of_isId hid
  have hdelete : r.method ≠ "DELETE" := by rw [h.method]; decide
  rw [(hadmitted.respond h.small (by rw [h.method]; decide)).2]
  simp only [handle, withSubject, if_neg hdelete, htext]
  rw [call_ok hanswer]
  rfl

/-- Who fetches the archive of a version is given its bytes. -/
theorem respond_downloads {v : Version} {data : ByteArray} (hid : Blob.isId v.id = true)
    (hhas : s.world.Has v data) (h : Fetches s o r (.download v.id)) :
    (respond a s o r).response.content = (200, data) := by
  obtain ⟨record, hadmitted⟩ := h.admitted (a := a) rfl (by simp [Route.methods])
    (by simpa [Route.names] using hid)
  have hanswer := Service.run_download_alone (e := ⟨o.outages, o.now, o.mark⟩) ho
    (Service.allows_ofUsername record.username a.settings.siteAdmins .download (by decide))
    hhas
  have htext : (Route.decodeName? v.id).getD "" = v.id := textOf_of_isId hid
  rw [(hadmitted.respond h.small (by rw [h.method]; decide)).2]
  simp only [handle, withSubject, htext]
  rw [call_ok hanswer]
  rfl

end

end ConfigRegistry.Server
