import ConfigRegistry.Login.Consent
import ConfigRegistry.Proofs.Login.Precedence
import ConfigRegistry.Proofs.Text.Markup

/-!
The form on the page of consent. Whatever a request asks for and whatever the user is called, the
page has the same tags, and the form on it posts back the request that it was shown for.
-/
namespace ConfigRegistry.Login.Consent

open Coding Text.Html Parameters
open Place (Finds finds_text finds_value)

/-! The tags of the page. -/

def headTags : List Tag :=
  [.bare "!DOCTYPE html", ⟨[⟨"html lang=".toList, '"', "en".toList⟩], []⟩, .bare "head",
    ⟨[⟨"meta charset=".toList, '"', "utf-8".toList⟩], []⟩, .bare "title", .bare "/title",
    .bare "style", .bare "/style", .bare "/head", .bare "body", .bare "h1", .bare "/h1"]

def line (named : Bool) : List Tag :=
  if named then [.bare "p", .bare "strong", .bare "/strong", .bare "/p"] else []

def explanationTags : List Tag := [.bare "p", .bare "/p"]

def methodPost : Quoted := ⟨"form method=".toList, '"', "post".toList⟩

def formTag : Tag :=
  ⟨[methodPost, ⟨" action=".toList, '"', escape Http.authorizationPath.toList⟩], []⟩

def buttonTag (value : String) : Tag :=
  ⟨[⟨"button type=".toList, '"', "submit".toList⟩, ⟨" name=".toList, '"', "consented".toList⟩,
    ⟨" value=".toList, '"', value.toList⟩], []⟩

def footTags : List Tag :=
  [⟨[⟨"div class=".toList, '"', "actions".toList⟩], []⟩, buttonTag "true", .bare "/button",
    buttonTag "false", .bare "/button", .bare "/div", .bare "/form", .bare "/body", .bare "/html"]

set_option maxRecDepth 4000 in
theorem finds_head : Finds .text head.toList headTags .text :=
  .ofList ⟨by decide +kernel, by decide +kernel⟩

set_option maxRecDepth 4000 in
theorem finds_foot : Finds .text foot.toList footTags .text :=
  .ofList ⟨by decide +kernel, by decide +kernel⟩

theorem finds_signedIn (username : Option String) :
    Finds .text (chars (signedIn username)) (line username.isSome) .text := by
  cases username with
  | none => exact ⟨rfl, rfl⟩
  | some name =>
    have hbefore : Finds .text "\n  <p>Signed in as <strong>".toList
        [.bare "p", .bare "strong"] .text := .ofList ⟨by decide, by decide⟩
    have hname : Finds .text (escape name.toList) [] .text :=
      finds_text (mark_not_mem_escape (by decide) name.toList)
    have hbehind : Finds .text "</strong>.</p>\n  ".toList
        [.bare "/strong", .bare "/p"] .text := .ofList ⟨by decide, by decide⟩
    simpa [chars, signedIn, Piece.render, line] using (hbefore.append hname).append hbehind

set_option maxRecDepth 4000 in
theorem finds_explanation :
    Finds .text explanation.toList explanationTags
      (.value [methodPost] ⟨" action=".toList, '"', []⟩) :=
  .ofList ⟨by decide +kernel, by decide +kernel⟩

theorem finds_form :
    Finds .text
      (chars [.markup explanation, .text Http.authorizationPath, .markup "\">\n"])
      (explanationTags ++ [formTag]) .text := by
  have hpath := finds_value [methodPost] ⟨" action=".toList, '"', []⟩
    (quote_not_mem_escape Http.authorizationPath.toList)
  have hclose : Finds (.value [methodPost] ⟨" action=".toList, '"',
      escape Http.authorizationPath.toList⟩) "\">\n".toList [formTag] .text := ⟨rfl, rfl⟩
  simpa [chars, Piece.render] using (finds_explanation.append hpath).append hclose

theorem finds_hiddenFields {fields : Parameters} (hnames : ∀ p ∈ fields, '"' ∉ p.1.toList) :
    Finds .text (chars (hiddenFields fields)) (fields.map fun p => Tag.hidden p.1 p.2) .text := by
  induction fields with
  | nil => exact ⟨rfl, rfl⟩
  | cons p rest ih =>
    have hfirst := finds_hiddenField (hnames p List.mem_cons_self) p.2
    have hrest := ih fun q hq => hnames q (List.mem_cons_of_mem p hq)
    rw [hiddenFields, List.flatMap_cons, chars_append, List.map_cons]
    exact hfirst.append hrest

/-- The names of the fields are plain. -/
theorem not_mem_fields (r : AuthorizationRequest) :
    ∀ p ∈ r.fields, '"' ∉ p.1.toList ∧ '&' ∉ p.1.toList := by
  have hnames : ∀ name ∈ ["client_id", "code_challenge", "code_challenge_method", "redirect_uri",
      "response_type", "state"], '"' ∉ name.toList ∧ '&' ∉ name.toList := by decide
  exact fun p hp => hnames p.1 (List.mem_map_of_mem (f := Prod.fst) hp)

/-- All tags of the page, in order; none is left open. -/
theorem finds_page (username : Option String) (r : AuthorizationRequest) :
    Finds .text (page username r).toList
      (headTags ++ line username.isSome ++ (explanationTags ++ [formTag]) ++
        r.fields.map (fun p => Tag.hidden p.1 p.2) ++ footTags) .text := by
  have hall := (((finds_head.append (finds_signedIn username)).append finds_form).append
    (finds_hiddenFields fun p hp => (not_mem_fields r p hp).1)).append finds_foot
  rw [page, toList_render]
  simpa [pieces, chars, Piece.render] using hall

/-- Pages show different tags only in the line that names the user. -/
theorem outline_page (username : Option String) (r : AuthorizationRequest) :
    (tags (page username r)).map Tag.outline =
      headTags.map Tag.outline ++ (line username.isSome).map Tag.outline ++
        ((explanationTags ++ [formTag]).map Tag.outline ++
          List.replicate 6 (Tag.hidden "" "").outline ++ footTags.map Tag.outline) := by
  rw [tags, (finds_page username r).tags]
  simp only [List.map_append, List.append_assoc]
  rfl

/-! The form on the page. -/

variable {decode : List Char → List Char}

theorem hidden?_line (named : Bool) : (line named).filterMap Tag.hidden? = [] := by
  cases named with
  | false => rfl
  | true => decide

theorem button?_line (named : Bool) : (line named).filterMap Tag.button? = [] := by
  cases named with
  | false => rfl
  | true => decide

theorem hidden?_hiddenTags (fields : Parameters) :
    (fields.map fun p => Tag.hidden p.1 p.2).filterMap Tag.hidden? =
      fields.map fun p => (p.1.toList, escape p.2.toList) := by
  rw [List.filterMap_map, ← List.filterMap_eq_map]
  rfl

theorem button?_hiddenTags (fields : Parameters) :
    (fields.map fun p => Tag.hidden p.1 p.2).filterMap Tag.button? = [] := by
  rw [List.filterMap_map]
  exact List.filterMap_eq_nil_iff.mpr fun _ _ => rfl

/-- The hidden fields of the page are those of the request. -/
theorem hidden_page (hdecode : Reads decode) (username : Option String)
    (r : AuthorizationRequest) : pairs Tag.hidden? decode (page username r) = r.fields := by
  have hhead : headTags.filterMap Tag.hidden? = [] := by decide
  have hform : (explanationTags ++ [formTag]).filterMap Tag.hidden? = [] := by decide
  have hfoot : footTags.filterMap Tag.hidden? = [] := by decide
  rw [pairs, tags, (finds_page username r).tags]
  simp only [List.filterMap_append, hhead, hidden?_line, hform, hfoot, hidden?_hiddenTags,
    List.nil_append, List.append_nil, List.map_map]
  refine (List.map_congr_left fun p hp => ?_).trans (List.map_id _)
  simp only [Function.comp_apply, hdecode.escape, String.ofList_toList,
    hdecode.plain (not_mem_fields r p hp).2, id]

/-- The buttons of the page say yes or no. -/
theorem buttons_page (hdecode : Reads decode) (username : Option String)
    (r : AuthorizationRequest) :
    pairs Tag.button? decode (page username r) =
      [("consented", "true"), ("consented", "false")] := by
  have hhead : headTags.filterMap Tag.button? = [] := by decide
  have hform : (explanationTags ++ [formTag]).filterMap Tag.button? = [] := by decide
  have hfoot : footTags.filterMap Tag.button? =
      [("consented".toList, "true".toList), ("consented".toList, "false".toList)] := by decide
  have hplain : ∀ s ∈ ["consented", "true", "false"], decode s.toList = s.toList := by
    have hnone : ∀ s ∈ ["consented", "true", "false"], '&' ∉ s.toList := by decide
    exact fun s hs => hdecode.plain (hnone s hs)
  rw [pairs, tags, (finds_page username r).tags]
  simp only [List.filterMap_append, hhead, button?_line, hform, hfoot, button?_hiddenTags,
    List.nil_append, List.map_cons, List.map_nil, hplain "consented" (by decide),
    hplain "true" (by decide), hplain "false" (by decide), String.ofList_toList]

/-- A request that is sent as a form with a consent is the request, consented to. -/
theorem ofParameters_consented {h : Http.Headers} (hform : SaysForm h) (query : Option String)
    (r : AuthorizationRequest) :
    AuthorizationRequest.ofParameters
        (ofRequest query h (Form.encode (r.fields ++ [("consented", "true")]))) =
      .ok { r with consented := true } := by
  rw [ofRequest_of_saysForm hform, Form.decode_encode]
  rfl

/-- The page of consent has the same tags for all requests, but for the line that names the user,
and leaves no tag open. Its hidden fields are the parameters of the request, and whoever sends them
with the approving button sends the same request, consented to, whatever the query. -/
theorem page_posts_back (hdecode : Reads decode) :
    (∃ front back, ∀ username r,
        (tags (page username r)).map Tag.outline =
          front ++ (line username.isSome).map Tag.outline ++ back) ∧
      ∀ username r,
        Place.after .text (page username r).toList = .text ∧
        pairs Tag.hidden? decode (page username r) = r.fields ∧
        pairs Tag.button? decode (page username r) =
          [("consented", "true"), ("consented", "false")] ∧
        ∀ query h, SaysForm h →
          AuthorizationRequest.ofParameters (ofRequest query h (Form.encode
              (pairs Tag.hidden? decode (page username r) ++ [("consented", "true")]))) =
            .ok { r with consented := true } := by
  refine ⟨⟨_, _, outline_page⟩, fun username r => ?_⟩
  have hfields := hidden_page hdecode username r
  refine ⟨(finds_page username r).after, hfields, buttons_page hdecode username r,
    fun query h hform => ?_⟩
  rw [hfields]
  exact ofParameters_consented hform query r

/-- A request whose state would close the field and start a script. -/
def strangeRequest : AuthorizationRequest :=
  ⟨"terraform", "abc", "S256", "app:/login", "code", "\"><script>alert(1)</script>", false⟩

/-- The strange state is posted back as it is, and the page has no more tags for it. -/
theorem strangeRequest_posts_back :
    ("state", strangeRequest.state) ∈
        pairs Tag.hidden? unescape (page (some "bobby") strangeRequest) ∧
      AuthorizationRequest.ofParameters (ofRequest (some "state=xyz") plainFields (Form.encode
          (pairs Tag.hidden? unescape (page (some "bobby") strangeRequest) ++
            [("consented", "true")]))) =
        .ok { strangeRequest with consented := true } := by
  obtain ⟨_, hfields, _, hposted⟩ :=
    (page_posts_back reads_unescape).2 (some "bobby") strangeRequest
  refine ⟨?_, hposted (some "state=xyz") plainFields saysForm_plainFields⟩
  rw [hfields]
  decide

end ConfigRegistry.Login.Consent
