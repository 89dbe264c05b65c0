import ConfigRegistry.Proofs.Http.Routes
import ConfigRegistry.Proofs.Login.Outcomes
import ConfigRegistry.Proofs.Server.Gates
import ConfigRegistry.Proofs.Service.Births
import ConfigRegistry.Proofs.Signing

/-!
Requests that may change something: an upload under a signed path, a creation with a token, a
deletion with the token of an administrator, and the exchange of a code. The states of a server are
those that such requests, and calls of many clients, lead to.
-/
namespace ConfigRegistry.Server

open Http

/-- The states of a server: it starts without versions, and goes on by answers to requests and by
calls of many clients that interleave. -/
inductive Reachable (a : App) : State → Prop
  | start {blobs : Blob.Store} (tokens : Ledger) (h : blobs.Opened) :
      Reachable a ⟨⟨.empty, blobs, .empty⟩, tokens⟩
  | answered {s : State} (o : Occasion) (r : Request) (h : Reachable a s)
      (hmark : ∃ u : Uuid, o.mark = u.render) : Reachable a (respond a s o r).state
  | meanwhile {s : State} {t : Service.System} (h : Reachable a s)
      (hrun : Service.System.Reaches a.settings.maxArchiveSize ⟨s.world, [], []⟩ t) :
      Reachable a ⟨t.world, s.tokens⟩

/-- A request to upload the archive of a version, under a path whose signature is right. -/
structure UploadRequest (a : App) (o : Occasion) (r : Request) (id : String) : Prop where
  method : r.method = "PUT"
  path : ∃ signature raw, pathOf r = (Route.upload signature raw).path ∧
    Route.decodeName? raw = some id ∧
    a.signer.verify signature.toList (Versions.uploadPath raw) o.now.seconds = .ok ()

structure CreationRequest (s : State) (o : Occasion) (r : Request) (workspace : String) :
    Prop where
  method : r.method = "POST"
  path : ∃ raw, pathOf r = (Route.versions raw).path ∧ Route.decodeName? raw = some workspace
  user : ∃ record, Presents s o r.headers record

structure DeletionRequest (a : App) (s : State) (o : Occasion) (r : Request) (id : String) :
    Prop where
  method : r.method = "DELETE"
  path : ∃ raw, pathOf r = (Route.version raw).path ∧ Route.decodeName? raw = some id
  admin : ∃ record, Presents s o r.headers record ∧ record.username ∈ a.settings.siteAdmins

/-- A code that is not expired and whose challenge the verifier beside it answers. -/
structure GoodCode (secret : List UInt8) (now : Time.Instant) (q : Login.TokenRequest)
    (payload : Login.Payload) : Prop where
  opens : Login.Code.openPayload secret q.code = .ok payload
  unexpired : payload.isExpired now = false
  answered : Login.challengeOf q.verifier = payload.challenge

structure CodeRequest (a : App) (o : Occasion) (r : Request) (payload : Login.Payload) :
    Prop where
  method : r.method = "POST"
  path : pathOf r = tokenPath
  code : ∃ body, readBody (bodyLimit .token r.headers) r.body = .ok body ∧
    GoodCode a.secret o.now
      (.ofParameters (.ofRequest r.query r.headers body.toList)) payload

/-! Tokens. -/

theorem goodCode_of_redeemable {secret : List UInt8} {q : Login.TokenRequest} {now : Time.Instant}
    {payload : Login.Payload} (h : Login.Redeemable secret q now payload) :
    GoodCode secret now q payload :=
  ⟨h.opens, Login.Payload.isExpired_eq_false_iff.mpr h.unexpired, h.answered⟩

/-- An exchange issues one token at most, and to the user in a good code. -/
theorem exchange_tokens (secret : List UInt8) (tokens : Ledger) (outage : Option Failure)
    (p : Login.Parameters) (draws : Ledger.Draws) (now : Time.Instant) :
    (Login.exchange secret tokens outage p draws now).tokens = tokens ∨
      ∃ payload record, GoodCode secret now (.ofParameters p) payload ∧
        record.username = payload.username ∧
        (Login.exchange secret tokens outage p draws now).tokens = tokens ++ [record] := by
  rcases Login.exchange_cases secret tokens outage p draws now with
    ⟨_, payload, hdeserves, _, htokens⟩ | ⟨_, _, htokens⟩
  · exact .inr ⟨payload, _, goodCode_of_redeemable hdeserves.toRedeemable, rfl, htokens⟩
  · exact .inl htokens

variable {a : App} {s : State} {o : Occasion} {r : Request} {route : Route} {v : Visitor}

/-! Signed paths. -/

theorem uploadPath_toList (id : String) :
    (Versions.uploadPath id).toList =
      '/' :: ("configuration-versions".toList ++ '/' :: (id.toList ++ '/' :: "upload".toList)) := by
  have hfront : "/configuration-versions/".toList =
      '/' :: ("configuration-versions".toList ++ ['/']) := rfl
  have hback : "/upload".toList = '/' :: "upload".toList := rfl
  unfold Versions.uploadPath
  simp only [String.toList_append, hfront, hback, List.cons_append, List.append_assoc,
    List.nil_append]

theorem upload_path_toList (signature id : String) :
    (Route.upload signature id).path.toList =
      apiPrefix.toList ++ ((Signing.root ++ ['/']) ++
        (signature.toList ++ (Versions.uploadPath id).toList)) := by
  have hapi : apiPrefix.toList = '/' :: ("api".toList ++ '/' :: "v2".toList) := rfl
  have hroot : Signing.root ++ ['/'] = '/' :: ("signed".toList ++ ['/']) := rfl
  have hslash : "/".toList = ['/'] := rfl
  have hempty : "".toList = [] := rfl
  rw [uploadPath_toList, Route.path, Route.apiPath, String.toList_intercalate, hapi, hroot, hslash]
  simp only [List.intercalate, List.map, List.intersperse, List.flatten_cons, List.flatten_nil,
    hempty, List.append_nil, List.nil_append, List.cons_append, List.append_assoc]

/-- The signature in the path of an upload is the one that is checked. -/
theorem verify_of_signed {signature id : String}
    (hpath : Route.ofPath? (pathOf r) = some (.upload signature id))
    (h : Signed a (pathOf r) o.now) :
    a.signer.verify signature.toList (Versions.uploadPath id) o.now.seconds = .ok () := by
  obtain ⟨segment, inner, hsplit, hok⟩ := h
  have hslash := Route.slash_not_mem_signature hpath
  have hsegment : ∀ c ∈ signature.toList, (c != '/') = true := fun c hc =>
    bne_iff_ne.mpr (ne_of_mem_of_not_mem hc hslash)
  have hinner := uploadPath_toList id
  generalize "configuration-versions".toList ++ '/' :: (id.toList ++ '/' :: "upload".toList) =
    rest at hinner
  rw [← Route.path_of_ofPath? hpath, upload_path_toList, show apiPrefix.length =
    apiPrefix.toList.length from rfl, List.drop_left] at hsplit
  unfold Signing.split? at hsplit
  rw [Signing.behind?_append, hinner] at hsplit
  simp only [Option.bind_eq_bind, Option.bind_some, List.takeWhile_append_of_pos hsegment,
    List.dropWhile_append_of_pos hsegment] at hsplit
  have htake : ('/' :: rest).takeWhile (· != '/') = [] := by simp
  have hdrop : ('/' :: rest).dropWhile (· != '/') = '/' :: rest := by simp
  rw [htake, hdrop, List.append_nil] at hsplit
  split at hsplit
  · contradiction
  · obtain ⟨rfl, rfl⟩ := Prod.mk.inj (Option.some.inj hsplit)
    rw [← hinner, String.ofList_toList] at hok
    exact hok

/-! Calls behind the gates. -/

theorem decodeName_of_named {name raw : String} (h : route.badName? = none)
    (hraw : (name, raw) ∈ route.names) : Route.decodeName? raw = some (textOf raw) := by
  unfold Route.badName? at h
  rw [Option.map_eq_none_iff, List.find?_eq_none] at h
  have hsome := h (name, raw) hraw
  unfold textOf
  cases hdecode : Route.decodeName? raw with
  | none => simp [hdecode] at hsome
  | some text => rfl

/-- Only administrators may delete. -/
theorem mem_siteAdmins_of_allows {username : String} {siteAdmins : List String}
    (h : (Subject.ofUsername username siteAdmins).role.allows .delete = true) :
    username ∈ siteAdmins := by
  unfold Subject.ofUsername at h
  split at h
  · next hmem => exact hmem
  · contradiction

theorem Passes.bearer_subject {subject : Subject} (h : Passes a s o r .bearer v)
    (hsubject : v.subject = some subject) :
    ∃ record, Presents s o r.headers record ∧
      subject = Subject.ofUsername record.username a.settings.siteAdmins := by
  cases h with
  | bearer hrecord => exact ⟨_, hrecord, (Option.some.inj hsubject).symm⟩

/-! States. -/

theorem slash_not_mem_of_render {mark : String} (h : ∃ u : Uuid, mark = u.render) :
    '/' ∉ mark.toList := by
  obtain ⟨u, rfl⟩ := h
  exact Blob.slash_not_mem_render u

theorem sane_respond (hs : s.world.Sane) (hmark : '/' ∉ o.mark.toList) (r : Request) :
    (respond a s o r).state.world.Sane := by
  rcases respond_world a s o r with h | ⟨call, h⟩
  · rw [h]
    exact hs
  · rw [h]
    exact Service.run_sane ⟨o.outages, o.now, o.mark⟩ hmark hs _ call

/-- In every state of a server the records and archives are sane. -/
theorem Reachable.sane (h : Reachable a s) : s.world.Sane := by
  induction h with
  | start tokens hopened => exact ⟨Versions.keyed_empty, hopened.sound⟩
  | answered o r _ hmark ih => exact sane_respond ih (slash_not_mem_of_render hmark) r
  | meanwhile _ hrun ih =>
    have hbegin : Service.System.Orderly a.settings.maxArchiveSize ⟨_, [], []⟩ :=
      ⟨ih, fun caller call stage h => by simp [Service.System.At] at h⟩
    exact (hrun.induction hbegin fun ht hchange => ht.changes hchange).sane

/-- A request adds one record of a token at most, and for the user in a good code. -/
theorem respond_issues (a : App) (s : State) (o : Occasion) (r : Request) :
    (respond a s o r).state.tokens = s.tokens ∨
      ∃ payload record, CodeRequest a o r payload ∧ record.username = payload.username ∧
        (respond a s o r).state.tokens = s.tokens ++ [record] := by
  rcases respond_state a s o r with hsame | ⟨route, v, hadmitted, hhandled⟩
  · rw [hsame]
    exact .inl rfl
  · rw [hhandled]
    rcases handle_state a s o v r route with hsame | ⟨body, rfl, hbody, hexchange⟩ |
      ⟨call, _, hcall⟩
    · rw [hsame]
      exact .inl rfl
    · rw [hexchange]
      rcases exchange_tokens a.secret s.tokens o.outages.tokens
        (.ofRequest r.query r.headers body.toList) o.token o.now with
        hsame | ⟨payload, record, hcode, husername, htokens⟩
      · exact .inl hsame
      · exact .inr ⟨payload, record,
          ⟨List.mem_singleton.mp hadmitted.method,
            (Route.path_of_ofPath? hadmitted.routed).symm, body, hbody, hcode⟩,
          husername, htokens⟩
    · rw [hcall]
      exact .inl rfl

end ConfigRegistry.Server
