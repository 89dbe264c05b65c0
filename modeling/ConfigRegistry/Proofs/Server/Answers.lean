import ConfigRegistry.Proofs.Http.Answers
import ConfigRegistry.Proofs.Server.Gates

/-!
What requests are answered that get past their gates. The marks on an answer change neither its
status nor its bytes.
-/
namespace ConfigRegistry.Server

open Http

variable {a : App} {s : State} {o : Occasion} {r : Request} {route : Route} {v : Visitor}

theorem content_mark (a : App) (o : Occasion) (h : Headers) (response : Response) :
    (mark a o h response).content = response.content := by
  have hcors : (Cors.mark a.settings.corsOrigins h response).content = response.content := by
    unfold Cors.mark
    simp only
    split <;> rfl
  unfold mark
  simp only
  split
  · simp only [Response.content_set, hcors]
  · simp only [Response.content_set, hcors]

theorem content_versioned (route : Route) (response : Response) :
    (versioned route response).content = response.content := by
  unfold versioned
  split <;> rfl

/-- An answer that is not about the fields alone keeps its status and its bytes on its way out. -/
theorem content_finished (hhead : r.method ≠ "HEAD") (response : Response) :
    (finished a o r route response).content = response.content := by
  unfold finished
  rw [content_mark, if_neg hhead, Response.content_measured]
  split <;> rfl

theorem status_finished (route : Route) (response : Response) :
    (finished a o r route response).status = response.status := by
  have hmark : ∀ response, (mark a o r.headers response).status = response.status :=
    fun response => Response.status_of_content (content_mark a o r.headers response)
  unfold finished
  rw [hmark]
  split
  · split <;> rfl
  · split <;> rfl

theorem bearer_of_presents {h : Headers} {record : Token} (hrecord : Presents s o h record) :
    ∃ events, bearer a s o h =
      (.ok (Subject.ofUsername record.username a.settings.siteAdmins), events) := by
  obtain ⟨value, token, hvalue, htoken, hauthentic⟩ := hrecord
  simp only [bearer, hvalue, htoken, hauthentic]
  exact ⟨_, rfl⟩

/-- Who shows at a gate what the gate asks for is let in. -/
theorem atGate_of_passes (h : Passes a s o r route.gate v) :
    ∃ events, atGate a s o r (pathOf r) route = (admitted a s o v r route).after events := by
  unfold atGate
  cases hgate : route.gate with
  | free =>
    rw [hgate] at h
    cases h
    exact ⟨[], rfl⟩
  | session =>
    rw [hgate] at h
    cases h
    exact ⟨_, rfl⟩
  | bearer =>
    rw [hgate] at h
    cases h with
    | bearer hrecord =>
      obtain ⟨events, hbearer⟩ := bearer_of_presents (a := a) hrecord
      simp only [hbearer]
      exact ⟨_, rfl⟩
  | signature =>
    rw [hgate] at h
    cases h with
    | signature hsigned =>
      simp only [isSigned_iff.mpr hsigned, if_true]
      exact ⟨[], rfl⟩

theorem not_mem_methods_options (route : Route) : "OPTIONS" ∉ route.methods := by
  cases route <;> simp [Route.methods]

theorem Admitted.admitted_eq_handle (h : Admitted a s o r route v) :
    admitted a s o v r route = handle a s o v r route := by
  simp only [admitted, h.method, not_true_eq_false, if_false, h.named]

/-- A request that gets as far as being handled is answered by what handles it, with the marks of
every answer. -/
theorem Admitted.respond_eq (h : Admitted a s o r route v)
    (hsmall : isOversized route r.headers = false) :
    (respond a s o r).state = (handle a s o v r route).state ∧
      (respond a s o r).response =
        finished a o r route (versioned route (handle a s o v r route).response) := by
  have hoptions : r.method ≠ "OPTIONS" := fun heq =>
    not_mem_methods_options route (heq ▸ h.method)
  obtain ⟨events, hgate⟩ := atGate_of_passes h.passes
  rw [respond_routed h.routed, if_neg hoptions, hsmall, hgate, h.admitted_eq_handle]
  exact ⟨rfl, rfl⟩

/-- Its status and its bytes are those that it is handled with. -/
theorem Admitted.respond (h : Admitted a s o r route v)
    (hsmall : isOversized route r.headers = false) (hhead : r.method ≠ "HEAD") :
    (respond a s o r).state = (handle a s o v r route).state ∧
      (respond a s o r).response.content = (handle a s o v r route).response.content := by
  obtain ⟨hstate, hresponse⟩ := h.respond_eq hsmall
  refine ⟨hstate, ?_⟩
  rw [hresponse, content_finished hhead, content_versioned]

end ConfigRegistry.Server
