import ConfigRegistry.Proofs.Login.Outcomes
import ConfigRegistry.Proofs.Url.Visible

/-!
Where the outcome of a login is delivered. A request whose client or address is unknown, or that
cannot be read, is refused directly. Every other fault, and the code, reach the client at its own
address, of which nothing is changed but the query; and the query is only added to.
-/
namespace ConfigRegistry

open Coding

/-- An address with pairs behind those in its query: all else in its text is as it was. -/
structure Url.Extends (u : Url) (pairs : List (String × String)) (address : String) : Prop where
  changed : ∃ query, address = { u with query := some query }.render
  front : (Parts.ofText address.toList).front = (Parts.ofText u.render.toList).front
  fragment : (Parts.ofText address.toList).fragment = (Parts.ofText u.render.toList).fragment
  pairs : queryPairs address = queryPairs u.render ++ pairs

/-- Adding pairs leaves the query that an address had before in front of them. -/
theorem Url.Legible.extends_withPairs {u : Url} (hu : u.Legible) (pairs : List (String × String)) :
    u.Extends pairs (u.withPairs pairs).render := by
  have hparts := hu.ofText_render
  have hextended := (hu.withPairs pairs).ofText_render
  refine ⟨⟨_, rfl⟩, ?_, ?_, ?_⟩
  · rw [hextended, hparts]
    rfl
  · rw [hextended, hparts]
    rfl
  · rw [queryPairs_withPairs hu, hu.queryPairs_render]
    cases u.query with
    | none =>
      have hnothing : Utf8.encode "" = [] := (Utf8.encode_eq_flatMap _).trans rfl
      rw [Option.getD_none, hnothing]
      rfl
    | some query => rfl

theorem Url.toNat_of_isVisible {c : Char} (h : isVisible c = true) :
    0x20 ≤ c.toNat ∧ c.toNat < 0x7f := by
  simp only [isVisible, Bool.and_eq_true, decide_eq_true_eq] at h
  exact ⟨h.1, Nat.lt_succ_of_le h.2⟩

namespace Login

/-- The answer that leads to an address, if it may stand in a field; and otherwise a failure. -/
def found (address : String) : Http.Response :=
  if (Utf8.encode address).all Http.Headers.isTextByte then .redirect address else .empty 500

/-- An answer leads to an address, which may stand in a field. -/
structure LeadsTo (address : String) (response : Http.Response) : Prop where
  found : response = found address
  status : response.status = 302
  location : response.headers.text? "location" = some address

def SentTo (target : Url) (pairs : List (String × String)) (response : Http.Response) : Prop :=
  ∃ address, LeadsTo address response ∧ target.Extends pairs address

/-- A request is refused directly. -/
structure Refused (response : Http.Response) : Prop where
  atLeast : 400 ≤ response.status
  below : response.status < 500
  location : response.headers.get? "location" = none

/-- The pairs that tell it, along with what the client wants to be told. -/
def Delivery.pairs (state : String) : Delivery → List (String × String)
  | .fault f description =>
    ("error", f.name) :: (description.map fun d => ("error_description", d)).toList ++
      (if state = "" then [] else [("state", state)])
  | .code given => (if state = "" then [] else [("state", state)]) ++ [("code", given)]

namespace Redirect

variable {r : Redirect}

theorem sentTo_withPairs (hr : r.target.Seen) (pairs : List (String × String)) :
    SentTo r.target pairs (r.withPairs pairs) := by
  have hvisible : ∀ c ∈ (r.target.withPairs pairs).render.toList,
      0x20 ≤ c.toNat ∧ c.toNat < 0x7f := fun c hc =>
    Url.toNat_of_isVisible ((hr.withPairs pairs).visible_render c hc)
  have hdirection := Http.Response.direction_redirect (r.target.withPairs pairs).render
  refine ⟨_, ⟨?_, rfl, ?_⟩, hr.toLegible.extends_withPairs pairs⟩
  · rw [found, if_pos (Http.Headers.all_isTextByte_of_visible hvisible), Redirect.withPairs]
  · exact Http.Headers.text?_of_visible (congrArg Prod.snd hdirection) hvisible

theorem statePairs_eq (r : Redirect) :
    r.statePairs = if r.state = "" then [] else [("state", r.state)] := by
  simp only [statePairs, String.isEmpty_iff]

theorem sentTo_response (hr : r.target.Seen) (told : Delivery) :
    SentTo r.target (told.pairs r.state) (told.response r) := by
  cases told with
  | fault f description =>
    rw [Delivery.pairs, ← statePairs_eq]
    exact sentTo_withPairs hr _
  | code given =>
    rw [Delivery.pairs, ← statePairs_eq]
    exact sentTo_withPairs hr _

theorem refused_of_make_error {clientId address state : String} {response : Http.Response}
    (h : make clientId address state = .error response) : Refused response := by
  have hdirection := direction_of_make_error h
  have hstatus : response.status = 400 := congrArg Prod.fst hdirection
  exact ⟨by omega, by omega, congrArg Prod.snd hdirection⟩

/-- Nothing is known of where to tell the outcome: the address is none, or the client unknown. -/
theorem make_eq_error_iff {clientId address state : String} :
    (∃ response, make clientId address state = .error response) ↔
      (∀ target, Url.parse address ≠ .ok target) ∨ clientId ≠ "terraform" := by
  cases hmake : make clientId address state with
  | ok redirect =>
    obtain ⟨htarget, hclient, _⟩ := make_eq_ok_iff.mp hmake
    refine iff_of_false (by simp) ?_
    rintro (hnone | hother)
    · exact hnone _ htarget
    · exact hother hclient
  | error response =>
    refine iff_of_true ⟨response, rfl⟩ ?_
    by_cases hclient : clientId = "terraform"
    · refine .inl fun target htarget => ?_
      have hmade : make clientId address state = .ok ⟨target, state⟩ :=
        make_eq_ok_iff.mpr ⟨htarget, hclient, rfl⟩
      rw [hmade] at hmake
      contradiction
    · exact .inr hclient

end Redirect

variable {s : Settings} {v : Visit} {p : Parameters} {target : Url} {response : Http.Response}

theorem SentTo.not_refused {pairs : List (String × String)} (h : SentTo target pairs response) :
    ¬ Refused response := by
  obtain ⟨address, hleads, _⟩ := h
  intro hrefused
  have hstatus := hrefused.atLeast
  rw [hleads.status] at hstatus
  omega

theorem refused_text (text : String) : Refused (.text 422 text) :=
  have hlocation := congrArg Prod.snd (Http.Response.direction_text 422 text)
  ⟨show 400 ≤ 422 by decide, show 422 < 500 by decide, hlocation⟩

def Unclear (p : Parameters) : Prop :=
  ∃ text, p.lookup "consented" = some text ∧ readConsent? text = none

/-- The parameters of a request, if the consent in them can be made out. -/
theorem ofParameters_cases (p : Parameters) :
    (Unclear p ∧ ∃ text, AuthorizationRequest.ofParameters p = .error text) ∨
      ¬ Unclear p ∧ ∃ q, AuthorizationRequest.ofParameters p = .ok q ∧
        q.clientId = p.value "client_id" ∧ q.redirectUri = p.value "redirect_uri" ∧
        q.state = p.value "state" := by
  unfold AuthorizationRequest.ofParameters Unclear
  simp only
  split
  · next hnone => exact .inr ⟨by simp [hnone], _, rfl, rfl, rfl, rfl⟩
  · next text htext =>
    split
    · next consented hread => exact .inr ⟨by simp [htext, hread], _, rfl, rfl, rfl, rfl⟩
    · next hread => exact .inl ⟨⟨text, htext, hread⟩, text, rfl⟩

/-- What a request for consent comes to, and where that is told. -/
theorem authorize_cases (s : Settings) (v : Visit) (p : Parameters) :
    (Refused (authorize s v p).1 ∧ (Unclear p ∨
      (∀ target, Url.parse (p.value "redirect_uri") ≠ .ok target) ∨
        p.value "client_id" ≠ "terraform")) ∨
    ∃ q target, AuthorizationRequest.ofParameters p = .ok q ∧ ¬ Unclear p ∧
      Url.parse (p.value "redirect_uri") = .ok target ∧ p.value "client_id" = "terraform" ∧
      (Supported q → v.method = "GET" → (authorize s v p).1 = .page (Consent.page v.username q)) ∧
      ∀ told, Due s v q told →
        SentTo target (told.pairs (p.value "state")) (authorize s v p).1 := by
  unfold authorize
  rcases ofParameters_cases p with ⟨hunclear, text, hq⟩ | ⟨hclear, q, hq, hclient, haddress, hstate⟩
  · rw [hq]
    exact .inl ⟨refused_text _, .inl hunclear⟩
  · rw [hq]
    simp only
    cases hmake : Redirect.make q.clientId q.redirectUri q.state with
    | error response =>
      refine .inl ⟨Redirect.refused_of_make_error hmake, .inr ?_⟩
      rw [← haddress, ← hclient]
      exact Redirect.make_eq_error_iff.mp ⟨response, hmake⟩
    | ok redirect =>
      obtain ⟨htarget, hknown, hredirect⟩ := Redirect.make_eq_ok_iff.mp hmake
      refine .inr ⟨q, redirect.target, rfl, hclear, haddress ▸ htarget, hclient ▸ hknown, ?_, ?_⟩
      · exact decide_page
      · intro told hdue
        rw [← hstate, ← hredirect]
        simp only [decide_of_due hdue]
        exact Redirect.sentTo_response (Url.seen_of_parse htarget) told

/-- What a client is to be told of an exchange that does not succeed: what is wrong with the
request, or that the token could not be recorded. -/
inductive Withheld (secret : List UInt8) (q : TokenRequest) (outage : Option Failure)
    (now : Time.Instant) : ClientFault → Option String → Prop
  | flaw {f : ClientFault} {description : Option String} (h : Flaw secret q now f description) :
      Withheld secret q outage now f description
  | unrecorded {payload : Payload} (h : Redeemable secret q now payload) (ho : outage ≠ none) :
      Withheld secret q outage now .serverError none

/-- An exchange succeeds, or there is something to be told of it. -/
theorem granted_or_withheld (secret : List UInt8) (q : TokenRequest) (outage : Option Failure)
    (now : Time.Instant) : (outage = none ∧ ∃ payload, Redeemable secret q now payload) ∨
      ∃ f description, Withheld secret q outage now f description := by
  rcases redeemable_or_flaw secret q now with ⟨payload, hgood⟩ | ⟨f, description, hflaw⟩
  · cases outage with
    | none => exact .inl ⟨rfl, payload, hgood⟩
    | some f => exact .inr ⟨_, _, .unrecorded hgood (Option.some_ne_none f)⟩
  · exact .inr ⟨f, description, .flaw hflaw⟩

/-- What an exchange comes to, and where that is told. -/
theorem exchange_told (secret : List UInt8) (tokens : Ledger) (outage : Option Failure)
    (p : Parameters) (draws : Ledger.Draws) (now : Time.Instant) :
    (Refused (exchange secret tokens outage p draws now).response ∧
      ((∀ target, Url.parse (p.value "redirect_uri") ≠ .ok target) ∨
        p.value "client_id" ≠ "terraform")) ∨
    ∃ target, Url.parse (p.value "redirect_uri") = .ok target ∧
      p.value "client_id" = "terraform" ∧
      (∀ payload, outage = none → Redeemable secret (.ofParameters p) now payload →
        (exchange secret tokens outage p draws now).response =
          granted (Token.ofBytes draws.token)) ∧
      ∀ f description, Withheld secret (.ofParameters p) outage now f description →
        SentTo target ((Delivery.fault f description).pairs "")
          (exchange secret tokens outage p draws now).response := by
  unfold exchange
  simp only
  split
  · next response hmake =>
    exact .inl ⟨Redirect.refused_of_make_error hmake, Redirect.make_eq_error_iff.mp ⟨_, hmake⟩⟩
  · next redirect hmake =>
    obtain ⟨htarget, hclient, hstate⟩ := Redirect.make_eq_ok_iff.mp hmake
    have hfault : ∀ f description, SentTo redirect.target
        ((Delivery.fault f description).pairs "") (redirect.fault f description) :=
      fun f description => hstate ▸ Redirect.sentTo_response (Url.seen_of_parse htarget)
        (.fault f description)
    refine .inr ⟨redirect.target, htarget, hclient, ?_, ?_⟩
    · rintro payload rfl hgood
      rw [checkCode_of_redeemable hgood]
      rfl
    · intro f description hwithheld
      cases hwithheld with
      | flaw h =>
        obtain ⟨events, hcheck⟩ := checkCode_of_flaw h redirect
        rw [hcheck]
        exact hfault f description
      | unrecorded hgood ho =>
        rw [checkCode_of_redeemable hgood]
        cases outage with
        | none => contradiction
        | some failure => exact hfault .serverError none

theorem granted_not_refused (token : String) : ¬ Refused (granted token) := fun h =>
  absurd h.atLeast (show ¬ 400 ≤ 200 by decide)

theorem page_not_refused (page : String) : ¬ Refused (.page page) := fun h =>
  absurd h.atLeast (show ¬ 400 ≤ 200 by decide)

/-- Either of the two requests of a login is refused directly exactly if the consent in the first
one cannot be made out, the address is none, or the client is unknown. If not, it is a request for
the page that is shown the page, an exchange that is granted its token, or one of which something is
due to the client; and whatever is due, a fault or the code, the answer leads to the address of the
client, where the pairs that tell of it follow those in the query, and nothing else is changed. -/
theorem outcome_delivered (s : Settings) (v : Visit) (p : Parameters) (secret : List UInt8)
    (tokens : Ledger) (outage : Option Failure) (draws : Ledger.Draws) (now : Time.Instant) :
    (Refused (authorize s v p).1 ↔ Unclear p ∨
      (∀ target, Url.parse (p.value "redirect_uri") ≠ .ok target) ∨
        p.value "client_id" ≠ "terraform") ∧
    (¬ Refused (authorize s v p).1 → ∃ q target, AuthorizationRequest.ofParameters p = .ok q ∧
      Url.parse (p.value "redirect_uri") = .ok target ∧
      ((Supported q ∧ v.method = "GET" ∧ (authorize s v p).1 = .page (Consent.page v.username q)) ∨
        ∃ told, Due s v q told) ∧
      ∀ told, Due s v q told →
        SentTo target (told.pairs (p.value "state")) (authorize s v p).1) ∧
    (Refused (exchange secret tokens outage p draws now).response ↔
      (∀ target, Url.parse (p.value "redirect_uri") ≠ .ok target) ∨
        p.value "client_id" ≠ "terraform") ∧
    (¬ Refused (exchange secret tokens outage p draws now).response →
      ∃ target, Url.parse (p.value "redirect_uri") = .ok target ∧
      ((outage = none ∧ (∃ payload, Redeemable secret (.ofParameters p) now payload) ∧
        (exchange secret tokens outage p draws now).response =
          granted (Token.ofBytes draws.token)) ∨
        ∃ f description, Withheld secret (.ofParameters p) outage now f description) ∧
      ∀ f description, Withheld secret (.ofParameters p) outage now f description →
        SentTo target ((Delivery.fault f description).pairs "")
          (exchange secret tokens outage p draws now).response) := by
  have hnowhere : ∀ target, Url.parse (p.value "redirect_uri") = .ok target →
      p.value "client_id" = "terraform" →
      ¬ ((∀ target, Url.parse (p.value "redirect_uri") ≠ .ok target) ∨
        p.value "client_id" ≠ "terraform") := by
    rintro target htarget hclient (hnone | hother)
    · exact hnone target htarget
    · exact hother hclient
  refine and_assoc.mp ⟨?_, ?_⟩
  · rcases authorize_cases s v p with ⟨hrefused, hwhy⟩ |
      ⟨q, target, hq, hclear, htarget, hclient, hpage, hdue⟩
    · exact ⟨iff_of_true hrefused hwhy, fun h => absurd hrefused h⟩
    · have houtcome := page_or_due s v q
      have hnot : ¬ Refused (authorize s v p).1 := by
        rcases houtcome with ⟨hsupported, hmethod⟩ | ⟨told, htold⟩
        · exact hpage hsupported hmethod ▸ page_not_refused _
        · exact (hdue told htold).not_refused
      refine ⟨iff_of_false hnot ?_, fun _ => ⟨q, target, hq, htarget, ?_, hdue⟩⟩
      · rintro (hunclear | hwhy)
        · exact hclear hunclear
        · exact hnowhere target htarget hclient hwhy
      · exact houtcome.imp_left fun ⟨hsupported, hmethod⟩ =>
          ⟨hsupported, hmethod, hpage hsupported hmethod⟩
  · rcases exchange_told secret tokens outage p draws now with ⟨hrefused, hwhy⟩ |
      ⟨target, htarget, hclient, hgranted, hwithheld⟩
    · exact ⟨iff_of_true hrefused hwhy, fun h => absurd hrefused h⟩
    · have houtcome := granted_or_withheld secret (.ofParameters p) outage now
      have hnot : ¬ Refused (exchange secret tokens outage p draws now).response := by
        rcases houtcome with ⟨ho, payload, hgood⟩ | ⟨f, description, h⟩
        · exact hgranted payload ho hgood ▸ granted_not_refused _
        · exact (hwithheld f description h).not_refused
      refine ⟨iff_of_false hnot (hnowhere target htarget hclient),
        fun _ => ⟨target, htarget, ?_, hwithheld⟩⟩
      exact houtcome.imp_left fun ⟨ho, payload, hgood⟩ =>
        ⟨ho, ⟨payload, hgood⟩, hgranted payload ho hgood⟩

end Login

end ConfigRegistry
