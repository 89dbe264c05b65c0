import ConfigRegistry.Proofs.Server.Answers

/-!
Where answers lead. What every answer is marked with on its way out changes neither its status nor
the address in it, so that a request is led where its handling leads.
-/
namespace ConfigRegistry.Server

open Http

variable {a : App} {s : State} {o : Occasion} {r : Request} {route : Route}

@[simp] theorem direction_corsMark (origins : List String) (h : Headers) (response : Response) :
    (Cors.mark origins h response).direction = response.direction := by
  unfold Cors.mark
  simp only
  split
  · rw [Response.direction_set (by decide), Response.direction_set (by decide)]
  · exact Response.direction_set (by decide) ..

/-- The fields that every answer has lead nowhere else. -/
@[simp] theorem direction_mark (a : App) (o : Occasion) (h : Headers) (response : Response) :
    (mark a o h response).direction = response.direction := by
  unfold mark
  simp only
  split
  · iterate 6 rw [Response.direction_set (by decide)]
    exact direction_corsMark ..
  · iterate 5 rw [Response.direction_set (by decide)]
    exact direction_corsMark ..

theorem direction_preflight : Cors.preflight.direction = (200, none) := by
  unfold Cors.preflight
  rw [Response.direction_set (by decide), Response.direction_set (by decide)]
  rfl

@[simp] theorem direction_versioned (route : Route) (response : Response) :
    (versioned route response).direction = response.direction := by
  unfold versioned
  split
  · exact Response.direction_set (by decide) ..
  · rfl

@[simp] theorem direction_finished (a : App) (o : Occasion) (r : Request) (route : Route)
    (response : Response) : (finished a o r route response).direction = response.direction := by
  have hallowed : (if r.method ∈ route.methods then response
      else { response with
        headers := response.headers.setDefault "allow" route.allow }).direction =
      response.direction := by
    split
    · rfl
    · exact Response.direction_setDefault (by decide) ..
  unfold finished
  simp only [direction_mark]
  split
  · rw [Response.direction_withoutBody, Response.direction_measured, hallowed]
  · rw [Response.direction_measured, hallowed]

/-- An answer leads where it leads at the gate. -/
theorem direction_respond (hroute : Route.ofPath? (pathOf r) = some route) :
    (respond a s o r).response.direction =
      if r.method = "OPTIONS" then (200, none)
      else if isOversized route r.headers then (413, none)
      else (atGate a s o r (pathOf r) route).response.direction := by
  rw [respond_routed hroute, Exchange.response_mapResponse, direction_finished]
  split
  · exact direction_preflight
  · rw [Exchange.response_mapResponse, direction_versioned]
    split
    · exact Response.direction_text ..
    · rfl

end ConfigRegistry.Server
