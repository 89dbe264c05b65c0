import ConfigRegistry.Login.Authorization
import ConfigRegistry.Proofs.Coding.Form
import ConfigRegistry.Proofs.Http.Answers

/-!
What a client is told at the end of the first request of a login. The address that a user is sent
to tells a code from every fault and from every other code, and the request gets a code exactly if
it is consented, by a user, and not a request for the page.
-/
namespace ConfigRegistry

open Coding

/-- Every query is written at the same place, with the same text before and behind it. -/
theorem Url.render_query (u : Url) :
    ∃ front back, ∀ query, { u with query := some query }.render = front ++ query ++ back := by
  cases u.authority with
  | none =>
    let authority := if u.path.startsWith "//" then "/." else ""
    refine ⟨u.scheme ++ ":" ++ authority ++ u.path ++ "?", (u.fragment.map ("#" ++ ·)).getD "",
      fun query => ?_⟩
    simp only [render, Option.map_some, Option.getD_some, String.append_assoc, authority]
  | some a =>
    refine ⟨u.scheme ++ ":" ++ ("//" ++ a.render) ++ u.path ++ "?",
      (u.fragment.map ("#" ++ ·)).getD "", fun query => ?_⟩
    simp only [render, Option.map_some, Option.getD_some, String.append_assoc]

/-- The pairs stand in one place of the text, whatever they are. -/
theorem Url.render_withPairs (u : Url) :
    ∃ front back, ∀ pairs, (u.withPairs pairs).render =
      front ++ String.ofList ((Form.encode pairs).map fun b => Char.ofNat b.toNat) ++ back := by
  obtain ⟨front, back, hrender⟩ := u.render_query
  by_cases hquery : (u.query.getD "").isEmpty = true
  · refine ⟨front, back, fun pairs => ?_⟩
    simp only [withPairs, hrender, if_pos hquery]
  · refine ⟨front ++ u.query.getD "" ++ "&", back, fun pairs => ?_⟩
    simp only [withPairs, hrender, if_neg hquery, String.append_assoc]

theorem Url.encode_eq_of_render_eq {u : Url} {pairs pairs' : List (String × String)}
    (h : (u.withPairs pairs).render = (u.withPairs pairs').render) :
    Form.encode pairs = Form.encode pairs' := by
  obtain ⟨front, back, hrender⟩ := u.render_withPairs
  rw [hrender, hrender] at h
  have htext := (String.append_right_inj front).mp ((String.append_left_inj back).mp h)
  exact (List.map_inj_right fun _ _ => Utf8.ofNat_toNat_inj).mp (String.ofList_inj.mp htext)

namespace Login

namespace Redirect

variable {r : Redirect}

/-- An address tells the pairs that are put behind it from all others. -/
theorem withPairs_inj {pairs pairs' : List (String × String)}
    (h : (r.withPairs pairs).direction = (r.withPairs pairs').direction) : pairs = pairs' := by
  simp only [withPairs, Http.Response.direction_redirect, Prod.mk.injEq, Option.some.injEq,
    true_and, Utf8.encode_inj] at h
  exact Form.encode_inj (Url.encode_eq_of_render_eq h)

/-- An address holds one code at most. -/
theorem code_inj {code code' : String} (h : (r.code code).direction = (r.code code').direction) :
    code = code' := by
  simpa using List.append_cancel_left (withPairs_inj h)

/-- A client that is told of a fault is given no code. -/
theorem fault_ne_code (f : ClientFault) (description : Option String) (code : String) :
    (r.fault f description).direction ≠ (r.code code).direction := by
  intro h
  have hpairs := withPairs_inj h
  unfold statePairs at hpairs
  split at hpairs
  · simp at hpairs
  · simp at hpairs

/-- A client tells a fault with one description from a fault with another one. -/
theorem fault_inj {f f' : ClientFault} {description description' : Option String}
    (h : (r.fault f description).direction = (r.fault f' description').direction) :
    description = description' := by
  obtain ⟨_, hrest⟩ := List.cons.inj (withPairs_inj h)
  have hdescription := congrArg (List.map Prod.snd) (List.append_cancel_right hrest)
  cases description with
  | none =>
    cases description' with
    | none => rfl
    | some d' => simp at hdescription
  | some d =>
    cases description' with
    | none => simp at hdescription
    | some d' => simpa using hdescription

/-- Who is known by name and address is told the outcome there; nobody else is. -/
theorem make_eq_ok_iff {clientId address state : String} {redirect : Redirect} :
    make clientId address state = .ok redirect ↔
      Url.parse address = .ok redirect.target ∧ clientId = "terraform" ∧
        redirect.state = state := by
  unfold make
  cases Url.parse address with
  | error fault => simp
  | ok target =>
    by_cases hclient : clientId = knownClient
    · simp only [if_pos hclient]
      constructor
      · rintro ⟨⟩
        exact ⟨rfl, hclient, rfl⟩
      · rintro ⟨⟨⟩, _, rfl⟩
        rfl
    · have hother : clientId ≠ "terraform" := hclient
      simp [if_neg hclient, hother]

theorem make_ok {clientId address state : String} {redirect : Redirect}
    (h : make clientId address state = .ok redirect) : clientId = knownClient :=
  (make_eq_ok_iff.mp h).2.1

theorem direction_of_make_error {clientId address state : String} {response : Http.Response}
    (h : make clientId address state = .error response) : response.direction = (400, none) := by
  unfold make at h
  split at h
  · obtain rfl := Except.error.inj h
    exact Http.Response.direction_text ..
  · split at h
    · contradiction
    · obtain rfl := Except.error.inj h
      exact Http.Response.direction_text ..

end Redirect

/-- A request is answered with this code: a user consents to it by any method but that which asks
for the page, and the code holds the challenge and the user. -/
structure Earns (s : Settings) (v : Visit) (q : AuthorizationRequest) (code : String) : Prop where
  responseType : q.responseType = "code"
  challengeMethod : q.challengeMethod = "S256"
  method : v.method ≠ "GET"
  consented : q.consented = true
  sealed : ∃ username expiry, v.username = some username ∧
    v.now.addSeconds? s.authCodeSeconds = some expiry ∧
    code = Code.ofPayload (Utf8.encode s.secret) v.nonce
      ⟨q.challenge, "S256", username, expiry.seconds⟩

variable {s : Settings} {v : Visit} {q : AuthorizationRequest} {redirect : Redirect}

/-- A request of the kind that is answered here. -/
structure Supported (q : AuthorizationRequest) : Prop where
  responseType : q.responseType = "code"
  challengeMethod : q.challengeMethod = "S256"

/-- A supported request that is an answer to the page, and says yes. -/
structure Agreed (v : Visit) (q : AuthorizationRequest) : Prop extends Supported q where
  method : v.method ≠ "GET"
  consented : q.consented = true

/-- What a client is told: a fault, maybe with a description, or the code. -/
inductive Delivery where
  | fault (f : ClientFault) (description : Option String)
  | code (given : String)

def Delivery.response (redirect : Redirect) : Delivery → Http.Response
  | .fault f description => redirect.fault f description
  | .code given => redirect.code given

/-- What a known client is to be told of a request, unless the user is shown the page. Where more is
wrong than one thing, the first one counts. -/
inductive Due (s : Settings) (v : Visit) (q : AuthorizationRequest) : Delivery → Prop
  | responseType (h : q.responseType ≠ "code") :
      Due s v q (.fault .unsupportedResponseType (some "unsupported response type"))
  | challengeMethod (hresponse : q.responseType = "code") (h : q.challengeMethod ≠ "S256") :
      Due s v q (.fault .invalidRequest (some "unsupported code challenge method"))
  | denial (hq : Supported q) (hmethod : v.method ≠ "GET") (h : q.consented = false) :
      Due s v q (.fault .accessDenied (some "user denied consent"))
  | stranger (hq : Agreed v q) (h : v.username = none) : Due s v q (.fault .serverError none)
  | overrun {username : String} (hq : Agreed v q) (husername : v.username = some username)
      (h : v.now.addSeconds? s.authCodeSeconds = none) : Due s v q (.fault .serverError none)
  | code {given : String} (h : Earns s v q given) : Due s v q (.code given)

/-- A supported request is not refused for its kind. -/
theorem Supported.passes (hq : Supported q) :
    ¬ q.responseType ≠ responseTypeCode ∧ ¬ q.challengeMethod ≠ challengeMethodS256 :=
  ⟨fun hne => hne hq.responseType, fun hne => hne hq.challengeMethod⟩

theorem decide_page (hq : Supported q) (hmethod : v.method = "GET") :
    (decide s v q redirect).1 = .page (Consent.page v.username q) := by
  rw [decide, if_neg hq.passes.1, if_neg hq.passes.2, if_pos hmethod]

theorem Agreed.decide_eq (hq : Agreed v q) {username : String}
    (husername : v.username = some username) :
    decide s v q redirect = issueCode s v q redirect username := by
  rw [decide, if_neg hq.passes.1, if_neg hq.passes.2, if_neg hq.method, hq.consented]
  simp only [husername]
  rfl

/-- A known client is told what is due. -/
theorem decide_of_due {told : Delivery} (h : Due s v q told) :
    (decide s v q redirect).1 = told.response redirect := by
  cases h with
  | responseType h =>
    have hother : q.responseType ≠ responseTypeCode := h
    rw [decide, if_pos hother]
    rfl
  | challengeMethod hresponse h =>
    have hcode : ¬ q.responseType ≠ responseTypeCode := fun hne => hne hresponse
    have hother : q.challengeMethod ≠ challengeMethodS256 := h
    rw [decide, if_neg hcode, if_pos hother]
    rfl
  | denial hq hmethod h =>
    rw [decide, if_neg hq.passes.1, if_neg hq.passes.2, if_neg hmethod, h]
    rfl
  | stranger hq h =>
    rw [decide, if_neg hq.passes.1, if_neg hq.passes.2, if_neg hq.method, hq.consented]
    simp only [h]
    rfl
  | overrun hq husername h =>
    rw [hq.decide_eq husername, issueCode, h]
    rfl
  | code h =>
    obtain ⟨username, expiry, husername, hexpiry, rfl⟩ := h.sealed
    have hq : Agreed v q := ⟨⟨h.responseType, h.challengeMethod⟩, h.method, h.consented⟩
    rw [hq.decide_eq husername, issueCode, hexpiry, h.challengeMethod]
    rfl

/-- The user is shown the page, or the client is due something. -/
theorem page_or_due (s : Settings) (v : Visit) (q : AuthorizationRequest) :
    (Supported q ∧ v.method = "GET") ∨ ∃ told, Due s v q told := by
  by_cases hresponse : q.responseType = "code"
  · by_cases hchallenge : q.challengeMethod = "S256"
    · have hq : Supported q := ⟨hresponse, hchallenge⟩
      by_cases hmethod : v.method = "GET"
      · exact .inl ⟨hq, hmethod⟩
      · right
        cases hconsented : q.consented with
        | false => exact ⟨_, .denial hq hmethod hconsented⟩
        | true =>
          have hagreed : Agreed v q := ⟨hq, hmethod, hconsented⟩
          cases husername : v.username with
          | none => exact ⟨_, .stranger hagreed husername⟩
          | some username =>
            cases hexpiry : v.now.addSeconds? s.authCodeSeconds with
            | none => exact ⟨_, .overrun hagreed husername hexpiry⟩
            | some expiry =>
              exact ⟨_, .code ⟨hresponse, hchallenge, hmethod, hconsented, username, expiry,
                husername, hexpiry, rfl⟩⟩
    · exact .inr ⟨_, .challengeMethod hresponse hchallenge⟩
  · exact .inr ⟨_, .responseType hresponse⟩

/-- A request of a known client is shown the page, told of a fault, or answered with a code that it
earns. -/
theorem decide_cases (s : Settings) (v : Visit) (q : AuthorizationRequest) (redirect : Redirect) :
    (v.method = "GET" ∧ (decide s v q redirect).1 = .page (Consent.page v.username q)) ∨
      (∃ f description, (decide s v q redirect).1 = redirect.fault f description) ∨
      ∃ code, Earns s v q code ∧ (decide s v q redirect).1 = redirect.code code := by
  rcases page_or_due s v q with ⟨hq, hmethod⟩ | ⟨told, hdue⟩
  · exact .inl ⟨hmethod, decide_page hq hmethod⟩
  · have htold : (decide s v q redirect).1 = told.response redirect := decide_of_due hdue
    cases hdue with
    | code h => exact .inr (.inr ⟨_, h, htold⟩)
    | _ => exact .inr (.inl ⟨_, _, htold⟩)

/-- A known client is given a code exactly if the request earns it. -/
theorem decide_eq_code_iff {code : String} :
    (decide s v q redirect).1.direction = (redirect.code code).direction ↔ Earns s v q code := by
  constructor
  · intro h
    rcases decide_cases s v q redirect with ⟨_, hpage⟩ | ⟨f, description, hfault⟩ |
      ⟨code', hearns, hcode⟩
    · rw [hpage, Http.Response.direction_page] at h
      cases h
    · rw [hfault] at h
      exact absurd h (Redirect.fault_ne_code f description code)
    · rw [hcode] at h
      rwa [← Redirect.code_inj h]
  · intro h
    rw [decide_of_due (.code h), Delivery.response]

end Login

end ConfigRegistry
