import ConfigRegistry.Proofs.Server.Answers
import ConfigRegistry.Proofs.Version.Documents

/-!
The address for an upload is told once, to whom created the version. No answer to a request that
looks at versions has it, whatever comes of the request.
-/
namespace ConfigRegistry.Server

open Http

/-- Bytes in which no upload address stands: none at all, words without a quotation mark, or a value
without such a member. -/
inductive Discreet : ByteArray → Prop
  | nothing : Discreet .empty
  | words {t : String} (h : '"' ∉ t.toList) : Discreet t.toUTF8
  | value {v : Json.Value} (h : ¬ v.Mentions Version.uploadUrlName) : Discreet v.render.toUTF8

/-- A method and a resource with which a request lists versions or looks one up. -/
inductive Looks (method : String) : Route → Prop
  | list (workspace : String) (h : method ≠ "POST") : Looks method (.versions workspace)
  | latest (workspace : String) : Looks method (.latest workspace)
  | version (id : String) : Looks method (.version id)

theorem discreet_failure (withDetails : Bool) (f : Failure) :
    Discreet (Response.ofFailure withDetails f).body := by
  have hnames : "error" ≠ Version.uploadUrlName ∧ "details" ≠ Version.uploadUrlName ∧
      "error_type" ≠ Version.uploadUrlName ∧ "code" ≠ Version.uploadUrlName ∧
      "recoverable" ≠ Version.uploadUrlName ∧ "suggested_action" ≠ Version.uploadUrlName := by
    decide
  refine .value (v := f.body withDetails) ?_
  unfold Failure.body
  simp only
  split
  · simp [hnames]
  · simp [hnames]

theorem discreet_present {answer : Service.Answer} (h : ∀ data, answer ≠ .archive data) :
    Discreet (Versions.present answer).body := by
  cases answer with
  | version v => exact .value (Version.not_mentions_ofVersion v)
  | page p => exact .value (Version.not_mentions_ofPage p)
  | archive data => exact absurd rfl (h data)
  | deleted => exact .nothing

variable {a : App} {s : State} {o : Occasion} {r : Request} {route : Route} {v : Visitor}

theorem discreet_call {opening : Service.Opening} (h : opening.1.Withholds) :
    Discreet (Versions.call a s o opening Versions.present).response.body := by
  have hanswer := Service.run_withholds ⟨o.outages, o.now, o.mark⟩ s.world h
  unfold Versions.call
  simp only
  split
  · next answer hok => exact discreet_present fun data heq => hanswer data (heq ▸ hok)
  · exact discreet_failure a.withDetails _

theorem withholds_permitted (subject : Subject) (action : Action) {next : Service.Stage}
    (h : next.Withholds) : (Service.permitted subject action next).1.Withholds := by
  unfold Service.permitted
  split
  · exact h
  · trivial

/-! Queries for pages. -/

/-- What holds of every failure of a step holds of the failure of a fold. -/
theorem foldlM_error {ε α β : Type} {P : ε → Prop} {f : β → α → Except ε β}
    (h : ∀ b a e, f b a = .error e → P e) {l : List α} {b : β} {e : ε}
    (hfold : l.foldlM f b = .error e) : P e := by
  induction l generalizing b with
  | nil => contradiction
  | cons a rest ih =>
    rw [List.foldlM_cons] at hfold
    cases hfirst : f b a with
    | error e' =>
      rw [hfirst] at hfold
      exact h b a e (hfirst.trans hfold)
    | ok b' =>
      rw [hfirst] at hfold
      exact ih hfold

/-- A complaint about a number has no quotation mark, unless its key has one. -/
theorem quote_not_mem_readNumber {key : String} (hkey : '"' ∉ key.toList) {present : Option Nat}
    {value problem : String} (h : Versions.readNumber key present value = .error problem) :
    '"' ∉ problem.toList := by
  unfold Versions.readNumber at h
  split at h
  · obtain rfl := Except.error.inj h
    simp [hkey]
  · cases hnumber : Text.Decimal.natural Text.Decimal.maxU32 value with
    | ok n => simp [hnumber] at h
    | error fault =>
      obtain rfl : key ++ ": " ++ fault.message = problem := by
        simpa [hnumber] using h
      cases fault <;> simp [hkey, Text.Decimal.Fault.message]

theorem quote_not_mem_note {q : Versions.PageQuery} {pair : String × String} {problem : String}
    (h : q.note pair = .error problem) : '"' ∉ problem.toList := by
  have hmapped : ∀ {α β : Type} {x : Except String α} {f : α → β},
      x.map f = .error problem → x = .error problem := by
    intro α β x f hx
    cases x with
    | error e => exact congrArg Except.error (Except.error.inj hx)
    | ok a => contradiction
  unfold Versions.PageQuery.note at h
  split at h
  · exact quote_not_mem_readNumber (by decide) (hmapped h)
  · split at h
    · exact quote_not_mem_readNumber (by decide) (hmapped h)
    · contradiction

theorem quote_not_mem_pageOptions {query : Option String} {problem : String}
    (h : Versions.pageOptions query = .error problem) : '"' ∉ problem.toList := by
  unfold Versions.pageOptions at h
  simp only at h
  cases hfold : (Coding.Form.decode (Coding.Utf8.encode (query.getD ""))).foldlM
      Versions.PageQuery.note ⟨none, none⟩ with
  | ok q => simp [hfold] at h
  | error e =>
    obtain rfl : e = problem := by simpa [hfold] using h
    exact foldlM_error (P := fun e : String => '"' ∉ e.toList)
      (fun _ _ _ => quote_not_mem_note) hfold

/-! Answers. -/

/-- No handler that lists versions or looks one up answers with an upload address. -/
theorem discreet_handle (hlooks : Looks r.method route) :
    Discreet (handle a s o v r route).response.body := by
  cases hlooks with
  | list workspace hpost =>
    simp only [handle, withSubject]
    split
    · rw [if_neg hpost]
      unfold Versions.list
      split
      · next hproblem =>
        have hquote := quote_not_mem_pageOptions hproblem
        refine .words (t := "Failed to deserialize query string: " ++ _) ?_
        simpa using hquote
      · exact discreet_call (withholds_permitted _ .list trivial)
    · exact discreet_failure a.withDetails _
  | latest workspace =>
    simp only [handle, withSubject]
    split
    · exact discreet_call (withholds_permitted _ .get trivial)
    · exact discreet_failure a.withDetails _
  | version id =>
    simp only [handle, withSubject]
    split
    · apply discreet_call
      split <;> trivial
    · exact discreet_failure a.withDetails _

theorem discreet_admitted (hlooks : Looks r.method route) :
    Discreet (admitted a s o v r route).response.body := by
  unfold admitted
  split
  · exact .nothing
  · split
    · next name hname =>
      have hquote : '"' ∉ name.toList := by
        obtain ⟨⟨other, raw⟩, hfound, rfl⟩ := Option.map_eq_some_iff.mp hname
        have hmem := List.mem_of_find?_eq_some hfound
        cases hlooks <;>
          · obtain ⟨rfl, _⟩ := Prod.mk.inj (List.mem_singleton.mp hmem)
            simp
      refine .words (t := "Invalid URL: Invalid UTF-8 in `" ++ name ++ "`") ?_
      simpa using hquote
    · exact discreet_handle hlooks

theorem discreet_atGate (hlooks : Looks r.method route) :
    Discreet (atGate a s o r (pathOf r) route).response.body := by
  rcases atGate_eq a s o r route with ⟨f, events, h⟩ | ⟨v, events, _, h⟩
  · rw [h]
    exact discreet_failure a.withDetails f
  · rw [h]
    exact discreet_admitted hlooks

/-- No answer to a request that looks at versions has an address for an upload. -/
theorem discreet_respond (hroute : Route.ofPath? (pathOf r) = some route)
    (hlooks : Looks r.method route) : Discreet (respond a s o r).response.body := by
  by_cases hhead : r.method = "HEAD"
  · have hbody : ∀ response, (finished a o r route response).body = .empty := by
      intro response
      unfold finished
      simp only [if_pos hhead]
      exact Response.body_of_content (content_mark a o r.headers _)
    rw [respond_routed hroute, Exchange.response_mapResponse, hbody]
    exact .nothing
  · have hbody : ∀ response, (finished a o r route response).body = response.body := fun response =>
      Response.body_of_content (content_finished hhead response)
    have hversioned : ∀ response, (versioned route response).body = response.body := fun response =>
      Response.body_of_content (content_versioned route response)
    rw [respond_routed hroute, Exchange.response_mapResponse, hbody]
    split
    · exact .nothing
    · rw [Exchange.response_mapResponse, hversioned]
      split
      · exact .words (by decide)
      · exact discreet_atGate hlooks

end ConfigRegistry.Server
