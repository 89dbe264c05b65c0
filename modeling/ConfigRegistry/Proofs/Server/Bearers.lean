import ConfigRegistry.Proofs.Server.Answers
import ConfigRegistry.Proofs.Server.Sites
import ConfigRegistry.Proofs.Token.Ledger

/-!
Who shows a token. Records of tokens are never taken away, so that whoever was given a token is let
in with it from then on, as the user it was given to.
-/
namespace ConfigRegistry.Server

open Http

variable {a : App} {s t : Site}

namespace Site

/-- Whoever shows this token is let in as this subject, wherever a token is asked for. -/
def Admits (a : App) (s : Site) (token : String) (subject : Subject) : Prop :=
  ∀ (o : Occasion) (r : Request) (route : Route), o.outages.tokens = none →
    r.headers.text? "authorization" = some ("Bearer " ++ token) → route.gate = .bearer →
    ∃ events, atGate a s.state o r (pathOf r) route =
      (admitted a s.state o ⟨some subject, none⟩ r route).after events

/-- A step adds records of tokens behind those that are there. -/
theorem Steps.tokens (h : s.Steps a t) : ∃ later, t.tokens = s.tokens ++ later := by
  cases h with
  | answers o r _ =>
    rcases respond_issues a s.state o r with hsame | ⟨_, record, _, _, hmore⟩
    · exact ⟨[], hsame.trans (List.append_nil _).symm⟩
    · exact ⟨[record], hmore⟩
  | changes _ => exact ⟨[], (List.append_nil _).symm⟩

theorem Reaches.tokens {P : Site → Prop} (h : Reaches a P s t) :
    ∃ later, t.tokens = s.tokens ++ later := by
  induction h with
  | refl => exact ⟨[], (List.append_nil _).symm⟩
  | step _ hstep _ ih =>
    obtain ⟨earlier, hearlier⟩ := ih
    obtain ⟨later, hlater⟩ := hstep.tokens
    exact ⟨earlier ++ later, by rw [hlater, hearlier, List.append_assoc]⟩

end Site

variable {l later : Ledger} {username description : String} {d : Ledger.Draws}
  {now : Time.Instant}

def Unclaimed (l : Ledger) (token : String) : Prop :=
  ∀ record ∈ l.byPrefix (Token.lookupPrefix token), Token.verify token record.tokenHash = .ok false

theorem unclaimed_nil (token : String) : Unclaimed [] token := by
  intro record hrecord
  exact absurd hrecord List.not_mem_nil

/-- A token that was issued is one that its user can show. -/
theorem presents_recordOf {s : State} {o : Occasion} {h : Headers} (hlow : 8 ≤ d.salt.length)
    (hhigh : d.salt.length ≤ 48) (hearlier : Unclaimed l (Token.ofBytes d.token))
    (hrecords : s.tokens = l ++ Ledger.recordOf username description d now :: later)
    (ho : o.outages.tokens = none)
    (hshown : h.text? "authorization" = some ("Bearer " ++ Token.ofBytes d.token)) :
    Presents s o h (Ledger.recordOf username description d now) := by
  refine ⟨_, (Token.ofBytes d.token).toList, hshown, ?_, ?_⟩
  · rw [String.toList_append]
    exact Signing.behind?_append _ _
  · rw [String.ofList_toList, Token.trim_ofBytes, hrecords, ho]
    exact Ledger.authenticate_recordOf l later hlow hhigh hearlier

/-- A token is good for its user as long as the server runs. -/
theorem Site.admits_of_issued (hlow : 8 ≤ d.salt.length) (hhigh : d.salt.length ≤ 48)
    (hearlier : Unclaimed l (Token.ofBytes d.token))
    (hissued : s.tokens = l ++ [Ledger.recordOf username description d now]) {P : Site → Prop}
    (hrun : Site.Reaches a P s t) :
    t.Admits a (Token.ofBytes d.token) (Subject.ofUsername username a.settings.siteAdmins) := by
  intro o r route ho hshown hgate
  obtain ⟨later, hlater⟩ := hrun.tokens
  rw [hissued, List.append_assoc, List.singleton_append] at hlater
  have hpresents := presents_recordOf (s := t.state) hlow hhigh hearlier hlater ho hshown
  exact atGate_of_passes (hgate ▸ Passes.bearer hpresents)

end ConfigRegistry.Server
