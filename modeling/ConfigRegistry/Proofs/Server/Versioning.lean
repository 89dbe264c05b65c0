import ConfigRegistry.Proofs.Http.Routes
import ConfigRegistry.Proofs.Server.Marks

/-!
The version of the programming interface in answers. It is on every answer that a resource of the
interface gives, refusals at its gate and of its methods included. It is on no other answer: not
where the interface has no resource, nor where a browser asks what is allowed.
-/
namespace ConfigRegistry

open Http Coding

namespace Http.Route

def interfacePrefix : String := "/api/v2/"

theorem startsWith_apiPath (first : String) (rest : List String) :
    (apiPath (first :: rest)).startsWith interfacePrefix := by
  have hprefix : interfacePrefix.toList = apiPrefix.toList ++ ['/'] := rfl
  rw [String.startsWith_string_iff, toList_apiPath, hprefix, List.flatMap_cons, List.cons_append,
    List.prefix_append_right_inj]
  exact ⟨_, rfl⟩

theorem startsWith_path (route : Route) :
    route.path.startsWith interfacePrefix ↔ route.isApi := by
  cases route with
  | discovery | token | health | openApi | docs | authorization => decide +kernel
  | ping => simp [isApi, path, startsWith_apiPath]
  | versions | latest | version | download | upload => simp [isApi, path, startsWith_apiPath]

/-- A resource belongs to the programming interface if its path does. -/
theorem isApi_iff_startsWith {p : String} {route : Route} (h : ofPath? p = some route) :
    route.isApi ↔ p.startsWith interfacePrefix := by
  rw [← startsWith_path, path_of_ofPath? h]

end Http.Route

namespace Server

theorem isCall_iff (r : Request) : isCall r ↔
    (pathOf r).startsWith Route.interfacePrefix ∧ (Route.ofPath? (pathOf r)).isSome ∧
      r.method ≠ "OPTIONS" := by
  cases hroute : Route.ofPath? (pathOf r) with
  | none => simp [isCall, hroute]
  | some route =>
    simp [isCall, hroute, ← Route.isApi_iff_startsWith hroute, and_comm]

theorem values_version_of_isCall (a : App) (s : State) (o : Occasion) (r : Request) :
    (respond a s o r).response.values "tfp-api-version" =
      if isCall r then [Utf8.encode apiVersion] else [] := by
  obtain ⟨inner, hresponse, hinner⟩ := respond_eq_mark a s o r
  rw [hresponse, values_mark_of_not_mem (by decide) (by decide),
    hinner "tfp-api-version" (by decide)]
  simp only [true_and]

/-- An answer states the version once if its request is for a resource of the programming interface
and does not ask what is allowed, and otherwise not at all. -/
theorem respond_version (a : App) (s : State) (o : Occasion) (r : Request) :
    (respond a s o r).response.values "tfp-api-version" =
      if (pathOf r).startsWith "/api/v2/" ∧ (Route.ofPath? (pathOf r)).isSome ∧
        r.method ≠ "OPTIONS" then [Utf8.encode "2.5"] else [] := by
  rw [values_version_of_isCall]
  exact ite_congr (propext (isCall_iff r)) (fun _ => rfl) fun _ => rfl

def strayCall : Request := ⟨"GET", "/api/v2/nope", none, [], []⟩

/-- Its answer does not state the version. -/
theorem strayCall_unversioned :
    (pathOf strayCall).startsWith "/api/v2/" ∧
      (respond plainApp .empty plainOccasion strayCall).response.status = 404 ∧
      (respond plainApp .empty plainOccasion strayCall).response.values "tfp-api-version" = [] := by
  have hpath : pathOf strayCall = "/api/v2/nope" := by decide +kernel
  have hroute : Route.ofPath? "/api/v2/nope" = none := by decide +kernel
  have hcall : isCall strayCall = false := by simp [isCall, hpath, hroute]
  refine ⟨by rw [hpath]; decide +kernel, ?_, by simp [values_version_of_isCall, hcall]⟩
  rw [pathOf] at hpath
  simp only [respond, hpath, hroute, Exchange.response_mapResponse, Exchange.response_pure]
  exact Response.status_of_content (content_mark ..)

end Server

end ConfigRegistry
