import ConfigRegistry.Http.Route
import ConfigRegistry.Proofs.Blob.Entries
import ConfigRegistry.Proofs.Coding.Form

/-!
The paths of the resources, written out. Whatever path is taken for that of a resource is the one
that is written here, and the path that is written for a resource leads back to it.
-/
namespace ConfigRegistry.Http.Route

def apiPath (segments : List String) : String := "/".intercalate ("" :: "api" :: "v2" :: segments)

def path : Route → String
  | .discovery => discoveryPath
  | .token => tokenPath
  | .health => healthPath
  | .openApi => openApiPath
  | .docs => docsPath
  | .authorization => authorizationPath
  | .ping => apiPath ["ping"]
  | .versions workspace => apiPath ["workspaces", workspace, "configuration-versions"]
  | .latest workspace => apiPath ["workspaces", workspace, "configuration-versions", "latest"]
  | .version id => apiPath ["configuration-versions", id]
  | .download id => apiPath ["configuration-versions", id, "download"]
  | .upload signature id => apiPath ["signed", signature, "configuration-versions", id, "upload"]

/-- The segments that lead to a route spell its path. -/
theorem path_of_ofApiSegments? {segments : List String} {route : Route}
    (h : ofApiSegments? segments = some route) : route.path = apiPath segments := by
  unfold ofApiSegments? at h
  split at h
  · obtain rfl := Option.some.inj h
    rfl
  · obtain rfl := Option.some.inj h
    rfl
  · obtain rfl := Option.some.inj h
    rfl
  · obtain rfl := Option.some.inj h
    rfl
  · obtain rfl := Option.some.inj h
    rfl
  · obtain rfl := Option.some.inj h
    rfl
  · contradiction

theorem path_of_lookup_fixed {p : String} {route : Route} (h : fixed.lookup p = some route) :
    route.path = p := by
  obtain ⟨front, back, hfixed, _⟩ := List.lookup_eq_some_iff.mp h
  have hmem : (p, route) ∈ fixed := hfixed ▸ by simp
  simp only [fixed, List.mem_cons, Prod.mk.injEq, List.not_mem_nil, or_false] at hmem
  rcases hmem with ⟨rfl, rfl⟩ | ⟨rfl, rfl⟩ | ⟨rfl, rfl⟩ | ⟨rfl, rfl⟩ | ⟨rfl, rfl⟩ | ⟨rfl, rfl⟩
  · rfl
  · rfl
  · rfl
  · rfl
  · rfl
  · rfl

/-- A path has a fixed route, or one that its segments behind the prefix spell. -/
theorem ofPath?_cases {p : String} {route : Route} (h : ofPath? p = some route) :
    fixed.lookup p = some route ∨
      ∃ segments, Text.split '/' p = "" :: "api" :: "v2" :: segments ∧
        ofApiSegments? segments = some route := by
  unfold ofPath? at h
  split at h
  · next hlookup => exact .inl (hlookup.trans h)
  · next segments _ hsplit =>
    split at h
    · contradiction
    · exact .inr ⟨segments, hsplit, h⟩
  · contradiction

/-- A request is routed to a resource only by the path of the resource. -/
theorem path_of_ofPath? {p : String} {route : Route} (h : ofPath? p = some route) :
    route.path = p := by
  rcases ofPath?_cases h with hfixed | ⟨segments, hsplit, hsegments⟩
  · exact path_of_lookup_fixed hfixed
  · rw [path_of_ofApiSegments? hsegments, apiPath, ← hsplit, ← String.toList_inj,
      String.toList_intercalate]
    exact Text.intercalate_split '/' p

/-- The signature in a path is one segment. -/
theorem slash_not_mem_signature {p signature id : String}
    (h : ofPath? p = some (.upload signature id)) : '/' ∉ signature.toList := by
  rcases ofPath?_cases h with hfixed | ⟨segments, hsplit, hsegments⟩
  · obtain ⟨front, back, hfixed, _⟩ := List.lookup_eq_some_iff.mp hfixed
    have hmem : (p, Route.upload signature id) ∈ fixed := hfixed ▸ by simp
    simp [fixed] at hmem
  · unfold ofApiSegments? at hsegments
    split at hsegments
    · simp at hsegments
    · simp at hsegments
    · simp at hsegments
    · simp at hsegments
    · simp at hsegments
    · next signature' id' =>
      obtain ⟨rfl, rfl⟩ := Route.upload.inj (Option.some.inj hsegments)
      exact Text.not_mem_of_mem_split (s := p) (hsplit ▸ by simp)
    · contradiction

/-! Paths back to resources. -/

theorem split_apiPath {segments : List String} (h : ∀ s ∈ segments, '/' ∉ s.toList) :
    Text.split '/' (apiPath segments) = "" :: "api" :: "v2" :: segments := by
  have hpieces : (apiPath segments).toList =
      ['/'].intercalate (("" :: "api" :: "v2" :: segments).map String.toList) := by
    rw [apiPath, String.toList_intercalate]
    rfl
  have hclean : ∀ l ∈ ("" :: "api" :: "v2" :: segments).map String.toList, '/' ∉ l := by
    intro l hl
    obtain ⟨s, hs, rfl⟩ := List.mem_map.mp hl
    simp only [List.mem_cons] at hs
    rcases hs with rfl | rfl | rfl | hs
    · decide
    · decide
    · decide
    · exact h s hs
  rw [Text.split, hpieces, List.splitOn_intercalate '/' hclean (by simp), List.map_map]
  simp [Function.comp_def]

/-- No resource outside the programming interface has a path inside it. -/
theorem lookup_fixed_apiPath {segments : List String} (h : ∀ s ∈ segments, '/' ∉ s.toList) :
    fixed.lookup (apiPath segments) = none := by
  cases hlookup : fixed.lookup (apiPath segments) with
  | none => rfl
  | some route =>
    have hfirst : (Text.split '/' (apiPath segments)).take 3 = ["", "api", "v2"] := by
      rw [split_apiPath h]
      rfl
    have hother : ∀ pair ∈ fixed, (Text.split '/' pair.1).take 3 ≠ ["", "api", "v2"] := by decide
    obtain ⟨front, back, hfixed, _⟩ := List.lookup_eq_some_iff.mp hlookup
    exact absurd hfirst (hother (apiPath segments, route) (hfixed ▸ by simp))

def IsSegment (s : String) : Prop := s ≠ "" ∧ '/' ∉ s.toList

theorem ofPath?_apiPath {segments : List String} (h : ∀ s ∈ segments, IsSegment s) :
    ofPath? (apiPath segments) = ofApiSegments? segments := by
  have hslash : ∀ s ∈ segments, '/' ∉ s.toList := fun s hs => (h s hs).2
  have hempty : segments.any String.isEmpty = false := by
    rw [List.any_eq_false]
    intro s hs
    simpa using (h s hs).1
  simp only [ofPath?, lookup_fixed_apiPath hslash, split_apiPath hslash, hempty, Bool.false_eq_true,
    if_false]

theorem toList_apiPath (segments : List String) :
    (apiPath segments).toList = apiPrefix.toList ++ segments.flatMap fun s => '/' :: s.toList := by
  have hslash : "/".toList = ['/'] := rfl
  have hjoin : ∀ (l : List (List Char)) (first : List Char),
      ['/'].intercalate (first :: l) = first ++ l.flatMap ('/' :: ·) := by
    intro l
    induction l with
    | nil => simp
    | cons next l ih => simp [List.intercalate_cons_cons, ih]
  have hprefix : apiPrefix.toList = [] ++ '/' :: ("api".toList ++ '/' :: "v2".toList) := rfl
  rw [apiPath, String.toList_intercalate, hslash, List.map_cons, hjoin, hprefix]
  simp [List.flatMap_map]

/-- Nothing is taken off a path that does not end with a slash or start with two. -/
theorem trimmedPath_eq_self {p : String} (hend : p.toList.getLast? ≠ some '/')
    (hstart : ¬ ['/', '/'] <+: p.toList) : trimmedPath p = p := by
  have hmark : "//".toList = ['/', '/'] := rfl
  have hopen : p.startsWith "//" = false := by
    rw [Bool.eq_false_iff, Ne, String.startsWith_string_iff, hmark]
    exact hstart
  have hclose : p.endsWith "/" = false := by
    rw [Blob.endsWith_slash]
    simpa using hend
  simp [trimmedPath, hopen, hclose]

theorem trimmedPath_tokenPath : trimmedPath tokenPath = tokenPath :=
  trimmedPath_eq_self (by decide) (by decide)

theorem trimmedPath_authorizationPath : trimmedPath authorizationPath = authorizationPath :=
  trimmedPath_eq_self (by decide) (by decide)

/-- Nothing is taken off a path of the programming interface. -/
theorem trimmedPath_apiPath (segments : List String) {last : String} (hlast : IsSegment last) :
    trimmedPath (apiPath (segments ++ [last])) = apiPath (segments ++ [last]) := by
  have hpath := toList_apiPath (segments ++ [last])
  apply trimmedPath_eq_self
  · obtain ⟨front, c, hc⟩ : ∃ front c, last.toList = front ++ [c] :=
      ⟨_, _, (List.dropLast_concat_getLast (by simpa using hlast.1)).symm⟩
    have hne : c ≠ '/' := fun heq => hlast.2 (by simp [hc, heq])
    rw [hpath, List.flatMap_append, List.flatMap_singleton, hc, ← List.cons_append,
      ← List.append_assoc, ← List.append_assoc, List.getLast?_concat]
    simpa using hne
  · have hprefix : apiPrefix.toList = '/' :: 'a' :: "pi/v2".toList := rfl
    rw [hpath, hprefix]
    simp

/-- The path of a resource leads to it, if the names in it are segments. -/
theorem ofPath?_path {route : Route} (h : ∀ name raw, (name, raw) ∈ route.names → IsSegment raw) :
    ofPath? route.path = some route := by
  have hword : ∀ s ∈ ["ping", "workspaces", "configuration-versions", "latest", "download",
      "signed", "upload"], IsSegment s := by
    unfold IsSegment
    decide
  cases route with
  | discovery => rfl
  | token => rfl
  | health => rfl
  | openApi => rfl
  | docs => rfl
  | authorization => rfl
  | ping => exact ofPath?_apiPath (by simp [hword])
  | versions workspace =>
    have hworkspace := h _ workspace (List.mem_singleton.mpr rfl)
    exact ofPath?_apiPath (by simp [hword, hworkspace])
  | latest workspace =>
    have hworkspace := h _ workspace (List.mem_singleton.mpr rfl)
    exact ofPath?_apiPath (by simp [hword, hworkspace])
  | version id =>
    have hid := h _ id (List.mem_singleton.mpr rfl)
    exact ofPath?_apiPath (by simp [hword, hid])
  | download id =>
    have hid := h _ id (List.mem_singleton.mpr rfl)
    exact ofPath?_apiPath (by simp [hword, hid])
  | upload signature id =>
    have hsignature := h _ signature List.mem_cons_self
    have hid := h "id" id (by simp [names])
    exact ofPath?_apiPath (by simp [hword, hsignature, hid])

theorem trimmedPath_upload (signature id : String) :
    trimmedPath (Route.upload signature id).path = (Route.upload signature id).path :=
  trimmedPath_apiPath ["signed", signature, "configuration-versions", id]
    (by unfold IsSegment; decide)

/-- A name without escapes stands for itself. -/
theorem decodeName?_of_not_mem {s : String} (h : '%' ∉ s.toList) : decodeName? s = some s := by
  have hbyte : (0x25 : UInt8) ∉ Coding.Utf8.encode s := fun hmem =>
    h (Coding.Utf8.mem_of_mem_encode (by decide) hmem)
  rw [decodeName?, Coding.Percent.decode_of_not_mem hbyte, Coding.Utf8.string?_encode]

end ConfigRegistry.Http.Route
