import ConfigRegistry.Text.Html

/-!
The markup of a page as its reader finds it. A tag goes from its opening to its closing bracket, and
values in it stand between two quotation marks. Escaped text has no mark that opens or closes
anything, so that it changes nothing but the value in which it stands.
-/
namespace ConfigRegistry.Text.Html

/-- A value in a tag: what stands before it, the mark around it, and its characters as written. -/
structure Quoted where
  front : List Char
  mark : Char
  text : List Char
deriving DecidableEq, Repr

/-- A tag: its values, and what stands behind the last one. -/
structure Tag where
  quoted : List Quoted
  rest : List Char
deriving DecidableEq, Repr

/-- Where the reader of a page is: between tags, in a tag, or in a value. -/
inductive Place where
  | text
  | tag (quoted : List Quoted) (seen : List Char)
  | value (quoted : List Quoted) (opened : Quoted)
deriving DecidableEq, Repr

namespace Place

def next : Place → Char → Place
  | .text, c => if c = '<' then .tag [] [] else .text
  | .tag quoted seen, c =>
    if c = '>' then .text
    else if c = '"' ∨ c = '\x27' then .value quoted ⟨seen, c, []⟩
    else .tag quoted (seen ++ [c])
  | .value quoted opened, c =>
    if c = opened.mark then .tag (quoted ++ [opened]) []
    else .value quoted { opened with text := opened.text ++ [c] }

def closed : Place → Char → List Tag
  | .tag quoted seen, c => if c = '>' then [⟨quoted, seen⟩] else []
  | .text, _ => []
  | .value .., _ => []

def after (p : Place) (l : List Char) : Place := l.foldl next p

def tags : Place → List Char → List Tag
  | _, [] => []
  | p, c :: rest => p.closed c ++ tags (p.next c) rest

/-- From one place to another, the reader finds these tags in a piece of a page. -/
structure Finds (p : Place) (l : List Char) (found : List Tag) (p' : Place) : Prop where
  after : p.after l = p'
  tags : p.tags l = found

variable {p p' p'' : Place} {l l' : List Char} {found found' : List Tag}

theorem after_append (p : Place) (l l' : List Char) : p.after (l ++ l') = (p.after l).after l' :=
  List.foldl_append

theorem tags_append (p : Place) (l l' : List Char) :
    p.tags (l ++ l') = p.tags l ++ (p.after l).tags l' := by
  induction l generalizing p with
  | nil => rfl
  | cons c rest ih =>
    rw [List.cons_append, tags, ih, tags, List.append_assoc]
    rfl

theorem Finds.append (h : Finds p l found p') (h' : Finds p' l' found' p'') :
    Finds p (l ++ l') (found ++ found') p'' where
  after := by rw [after_append, h.after, h'.after]
  tags := by rw [tags_append, h.tags, h.after, h'.tags]

/-- A text that is written out is read character by character. -/
theorem Finds.ofList (h : Finds p l found p') : Finds p (String.ofList l).toList found p' := by
  rwa [String.toList_ofList]

/-- Text without brackets leaves the reader between tags. -/
theorem finds_text (h : '<' ∉ l) : Finds .text l [] .text := by
  induction l with
  | nil => exact ⟨rfl, rfl⟩
  | cons c rest ih =>
    rw [List.mem_cons, not_or] at h
    have hfirst : Finds .text [c] [] .text := ⟨if_neg (Ne.symm h.1), rfl⟩
    exact hfirst.append (ih h.2)

/-- Text without the mark that ends a value belongs to the value. -/
theorem finds_value (quoted : List Quoted) (opened : Quoted) (h : opened.mark ∉ l) :
    Finds (.value quoted opened) l []
      (.value quoted { opened with text := opened.text ++ l }) := by
  induction l generalizing opened with
  | nil => exact ⟨by simp [after], rfl⟩
  | cons c rest ih =>
    rw [List.mem_cons, not_or] at h
    have hfirst : Finds (.value quoted opened) [c] []
        (.value quoted { opened with text := opened.text ++ [c] }) :=
      ⟨if_neg (Ne.symm h.1), rfl⟩
    have hrest := ih { opened with text := opened.text ++ [c] } h.2
    rw [List.append_assoc] at hrest
    exact hfirst.append hrest

end Place

def tags (page : String) : List Tag := Place.text.tags page.toList

/-! Escaped text. -/

/-- The characters that open or close tags and values. -/
def marks : List Char := ['<', '>', '"', '\x27']

def references : List (String × Char) :=
  [("&lt;", '<'), ("&gt;", '>'), ("&amp;", '&'), ("&quot;", '"'), ("&#x27;", '\x27')]

theorem mark_not_mem_reference {mark : Char} (hmark : mark ∈ marks) :
    ∀ p ∈ references, mark ∉ p.1.toList := by
  have hall : marks.all (fun mark => references.all fun p => decide (mark ∉ p.1.toList)) = true :=
    by decide
  intro p hp
  exact of_decide_eq_true (List.all_eq_true.mp (List.all_eq_true.mp hall mark hmark) p hp)

/-- No mark of the markup stands in what a character is escaped to. -/
theorem mark_not_mem_escapeChar {mark : Char} (h : mark ∈ marks) (c : Char) :
    mark ∉ escapeChar c := by
  unfold escapeChar
  split
  · exact mark_not_mem_reference h ("&lt;", '<') (by decide)
  · exact mark_not_mem_reference h ("&gt;", '>') (by decide)
  · exact mark_not_mem_reference h ("&amp;", '&') (by decide)
  · exact mark_not_mem_reference h ("&quot;", '"') (by decide)
  · exact mark_not_mem_reference h ("&#x27;", '\x27') (by decide)
  · next hlt hgt hand hquote happ =>
    rw [List.mem_singleton]
    rintro rfl
    simp only [marks, List.mem_cons, List.not_mem_nil, or_false] at h
    rcases h with rfl | rfl | rfl | rfl
    · exact hlt rfl
    · exact hgt rfl
    · exact hquote rfl
    · exact happ rfl

/-- Escaped text has no mark that means something in a page. -/
theorem mark_not_mem_escape {mark : Char} (h : mark ∈ marks) (l : List Char) :
    mark ∉ escape l := by
  intro hmem
  obtain ⟨c, _, hc⟩ := List.mem_flatMap.mp hmem
  exact mark_not_mem_escapeChar h c hc

theorem quote_not_mem_escape (l : List Char) : '"' ∉ escape l :=
  mark_not_mem_escape (by decide) l

/-- A way to read text in a page: it knows the references, and a character other than an ampersand
stands for itself. -/
structure Reads (decode : List Char → List Char) : Prop where
  nothing : decode [] = []
  reference : ∀ p ∈ references, ∀ rest, decode (p.1.toList ++ rest) = p.2 :: decode rest
  other : ∀ c rest, c ≠ '&' → decode (c :: rest) = c :: decode rest

theorem reads_unescape : Reads unescape where
  nothing := rfl
  reference := by
    intro p hp rest
    simp only [references, List.mem_cons, List.not_mem_nil, or_false] at hp
    rcases hp with rfl | rfl | rfl | rfl | rfl <;> rfl
  other := by
    intro c rest hc
    rw [unescape] <;> intros <;> exact hc ‹_›

namespace Reads

variable {decode : List Char → List Char}

theorem escapeChar (h : Reads decode) (c : Char) (rest : List Char) :
    decode (Html.escapeChar c ++ rest) = c :: decode rest := by
  unfold Html.escapeChar
  split
  · exact h.reference ("&lt;", '<') (by decide) rest
  · exact h.reference ("&gt;", '>') (by decide) rest
  · exact h.reference ("&amp;", '&') (by decide) rest
  · exact h.reference ("&quot;", '"') (by decide) rest
  · exact h.reference ("&#x27;", '\x27') (by decide) rest
  · next hand _ _ => exact h.other c rest hand

/-- Text is read as it was before it was escaped. -/
theorem escape (h : Reads decode) (l : List Char) : decode (Html.escape l) = l := by
  induction l with
  | nil => exact h.nothing
  | cons c rest ih => rw [Html.escape, List.flatMap_cons, h.escapeChar, ← Html.escape, ih]

theorem plain (h : Reads decode) {l : List Char} (hl : '&' ∉ l) : decode l = l := by
  induction l with
  | nil => exact h.nothing
  | cons c rest ih =>
    rw [List.mem_cons, not_or] at hl
    rw [h.other c rest (Ne.symm hl.1), ih hl.2]

end Reads

/-! Fields of forms. -/

def Quoted.name (q : Quoted) : List Char :=
  ((q.front.dropWhile (· ≠ ' ')).drop 1).takeWhile (· ≠ '=')

namespace Tag

def kind (t : Tag) : List Char :=
  ((t.quoted.head?.map Quoted.front).getD t.rest).takeWhile (· ≠ ' ')

def attribute? (t : Tag) (name : String) : Option (List Char) :=
  (t.quoted.find? (·.name = name.toList)).map Quoted.text

def pair? (t : Tag) : Option (List Char × List Char) :=
  (t.attribute? "name").bind fun name => (t.attribute? "value").map fun value => (name, value)

/-- The name and the value of a field that is sent along without being shown. -/
def hidden? (t : Tag) : Option (List Char × List Char) :=
  if t.kind = "input".toList ∧ t.attribute? "type" = some "hidden".toList then t.pair? else none

def button? (t : Tag) : Option (List Char × List Char) :=
  if t.kind = "button".toList then t.pair? else none

def outline (t : Tag) : List (List Char × Char) × List Char :=
  (t.quoted.map fun q => (q.front, q.mark), t.rest)

def bare (s : String) : Tag := ⟨[], s.toList⟩

def hidden (name value : String) : Tag :=
  ⟨[⟨"input type=".toList, '"', "hidden".toList⟩, ⟨" name=".toList, '"', name.toList⟩,
    ⟨" value=".toList, '"', escape value.toList⟩], []⟩

end Tag

def pairs (sort : Tag → Option (List Char × List Char)) (decode : List Char → List Char)
    (page : String) : List (String × String) :=
  ((tags page).filterMap sort).map fun p =>
    (String.ofList (decode p.1), String.ofList (decode p.2))

/-! Pages in pieces. -/

def chars (pieces : List Piece) : List Char := pieces.flatMap fun p => p.render.toList

theorem toList_render (pieces : List Piece) : (render pieces).toList = chars pieces := by
  rw [render, String.toList_join, List.flatMap_map, chars]

theorem chars_append (pieces pieces' : List Piece) :
    chars (pieces ++ pieces') = chars pieces ++ chars pieces' := List.flatMap_append

open Place in
/-- A hidden field is one tag. -/
theorem finds_hiddenField {name : String} (hname : '"' ∉ name.toList) (value : String) :
    Finds .text (chars (hiddenField name value)) [Tag.hidden name value] .text := by
  have hopen : Finds .text "    <input type=\"hidden\" name=\"".toList []
      (.value [⟨"input type=".toList, '"', "hidden".toList⟩] ⟨" name=".toList, '"', []⟩) :=
    .ofList ⟨by decide, by decide⟩
  have hmiddle : Finds (.value [⟨"input type=".toList, '"', "hidden".toList⟩]
      ⟨" name=".toList, '"', name.toList⟩) "\" value=\"".toList []
      (.value [⟨"input type=".toList, '"', "hidden".toList⟩,
        ⟨" name=".toList, '"', name.toList⟩] ⟨" value=".toList, '"', []⟩) := ⟨rfl, rfl⟩
  have hvalue := finds_value [⟨"input type=".toList, '"', "hidden".toList⟩,
    ⟨" name=".toList, '"', name.toList⟩] ⟨" value=".toList, '"', []⟩
    (quote_not_mem_escape value.toList)
  have hclose : Finds (.value [⟨"input type=".toList, '"', "hidden".toList⟩,
      ⟨" name=".toList, '"', name.toList⟩] ⟨" value=".toList, '"', escape value.toList⟩)
      "\">\n".toList [Tag.hidden name value] .text := ⟨rfl, rfl⟩
  have hall := (((hopen.append (finds_value _ _ hname)).append hmiddle).append hvalue).append hclose
  simpa [chars, hiddenField, Piece.render] using hall

end ConfigRegistry.Text.Html
