import ConfigRegistry.Proofs.Blob.Names

/-!
Paths by their components. Slashes in a row count as one, and dots behind the first name do not
count at all. A key is joined to a path by its components, and another extension changes the last
component alone, unless that is no name.
-/
namespace ConfigRegistry.Blob

open FileTree

/-! Names that lead somewhere. -/

def stepsOf (path : String) : List String := (namesOf path).filter (· ≠ ".")

theorem stepsOf_append (s t : String) : stepsOf (s ++ "/" ++ t) = stepsOf s ++ stepsOf t := by
  rw [stepsOf, namesOf_append, List.filter_append]
  rfl

theorem stepsOf_join (base rest : String) :
    stepsOf (Directory.join base rest) = stepsOf base ++ stepsOf rest := by
  rw [stepsOf, namesOf_join, List.filter_append]
  rfl

theorem stepsOf_single {name : String} (hname : IsName name) (hdot : name ≠ ".") :
    stepsOf name = [name] := by
  rw [stepsOf, namesOf_single hname.ne_empty hname.no_slash]
  simp [hdot]

theorem stepsOf_empty : stepsOf "" = [] := by
  rw [stepsOf, namesOf_empty]
  rfl

theorem namesOf_dot : namesOf "." = ["."] := namesOf_single (by decide) (by decide)

theorem stepsOf_dot : stepsOf "." = [] := by
  rw [stepsOf, namesOf_dot]
  rfl

/-! Components. -/

/-- Where a path starts: at the root, or in the working directory if a dot says so. -/
def originOf (path : String) : List String :=
  if path.startsWith "/" then ["/"]
  else if (Text.split '/' path).head? = some "." then ["."]
  else []

def components (path : String) : List String := originOf path ++ stepsOf path

/-- A path that goes on from a base by names that never lead back. -/
def Inside (base path : String) : Prop :=
  ∃ rest, components path = components base ++ rest ∧ rest ≠ [] ∧ ".." ∉ rest

theorem split_ne_nil (s : String) : Text.split '/' s ≠ [] := by
  simp [Text.split, List.splitOn_ne_nil]

/-- Where a path starts is settled by its first name. -/
theorem originOf_append {s : String} (hs : s ≠ "") (t : String) :
    originOf (s ++ "/" ++ t) = originOf s := by
  have hstart : (s ++ "/" ++ t).startsWith "/" = s.startsWith "/" := by
    rw [startsWith_slash, startsWith_slash]
    cases hlist : s.toList with
    | nil => exact absurd (String.toList_eq_nil_iff.mp hlist) hs
    | cons c rest => simp [hlist]
  have hfirst : (Text.split '/' (s ++ "/" ++ t)).head? = (Text.split '/' s).head? := by
    have hsplit := Text.split_append_mark '/' s t
    rw [show String.ofList ['/'] = "/" from rfl] at hsplit
    rw [hsplit, List.head?_append]
    cases hpieces : Text.split '/' s with
    | nil => exact absurd hpieces (split_ne_nil s)
    | cons piece pieces => rfl
  rw [originOf, originOf, hstart, hfirst]

theorem originOf_slash (t : String) : originOf ("/" ++ t) = ["/"] := by
  have hstart : ("/" ++ t).startsWith "/" = true := by simp [startsWith_slash]
  rw [originOf, if_pos hstart]

theorem originOf_single {name : String} (hname : IsName name) (hdot : name ≠ ".") :
    originOf name = [] := by
  have hstart : name.startsWith "/" = false := by
    rw [startsWith_slash]
    cases hlist : name.toList with
    | nil => rfl
    | cons c rest =>
      have hslash := hname.no_slash
      rw [hlist, List.mem_cons, not_or] at hslash
      simpa using fun h => hslash.1 h.symm
  rw [originOf, hstart, Text.split_of_not_mem hname.no_slash]
  simp [hdot]

theorem originOf_empty : originOf "" = [] := by
  have hstart : "".startsWith "/" = false := by simp [startsWith_slash]
  rw [originOf, hstart, Text.split_of_not_mem (by decide)]
  decide

theorem dots_not_mem_originOf (path : String) : ".." ∉ originOf path := by
  unfold originOf
  split
  · decide
  · split
    · decide
    · exact List.not_mem_nil

/-- A slash between two texts starts the path or follows a first name. -/
theorem originOf_front {front : String} (hfront : front = "" ∨ ∃ up, front = up ++ "/")
    {name other : String} (hname : IsName name) (hdot : name ≠ ".") (hother : IsName other)
    (hdot' : other ≠ ".") : originOf (front ++ name) = originOf (front ++ other) := by
  rcases hfront with rfl | ⟨up, rfl⟩
  · rw [String.empty_append, String.empty_append, originOf_single hname hdot,
      originOf_single hother hdot']
  · by_cases hup : up = ""
    · rw [hup, String.empty_append, originOf_slash, originOf_slash]
    · rw [originOf_append hup, originOf_append hup]

theorem stepsOf_front {front : String} (hfront : front = "" ∨ ∃ up, front = up ++ "/")
    {name : String} (hname : IsName name) (hdot : name ≠ ".") :
    stepsOf (front ++ name) = stepsOf front ++ [name] := by
  rcases hfront with rfl | ⟨up, rfl⟩
  · rw [String.empty_append, stepsOf_empty, stepsOf_single hname hdot, List.nil_append]
  · have hup := stepsOf_append up ""
    rw [String.append_empty, stepsOf_empty, List.append_nil] at hup
    rw [stepsOf_append, stepsOf_single hname hdot, hup]

theorem components_front {front : String} (hfront : front = "" ∨ ∃ up, front = up ++ "/")
    {name other : String} (hname : IsName name) (hdot : name ≠ ".") (hother : IsName other)
    (hdot' : other ≠ ".") : ∃ before, components (front ++ name) = before ++ [name] ∧
      components (front ++ other) = before ++ [other] := by
  refine ⟨originOf (front ++ name) ++ stepsOf front, ?_, ?_⟩
  · rw [components, stepsOf_front hfront hname hdot, List.append_assoc]
  · rw [components, stepsOf_front hfront hother hdot',
      originOf_front hfront hname hdot hother hdot', List.append_assoc]

/-! What stands at the end of a path and is no name. -/

def backwards (l : List Char) : String := String.ofList l.reverse

theorem backwards_slash (l : List Char) : backwards ('/' :: l) = backwards l ++ "/" ++ "" := by
  rw [← String.toList_inj]
  simp [backwards]

theorem backwards_dot (l : List Char) :
    backwards ('.' :: '/' :: l) = backwards l ++ "/" ++ "." := by
  rw [← String.toList_inj]
  simp [backwards]

theorem stepsOf_dropTrailing (l : List Char) :
    stepsOf (backwards (dropTrailing l)) = stepsOf (backwards l) := by
  fun_induction dropTrailing l with
  | case1 rest ih => rw [ih, backwards_slash, stepsOf_append, stepsOf_empty, List.append_nil]
  | case2 rest ih =>
    rw [ih, backwards_slash, backwards_dot, stepsOf_append, stepsOf_append, stepsOf_empty,
      stepsOf_dot]
  | case3 l _ _ => rfl

/-- Slashes at the end of a path do not change the directory it lies in. -/
theorem originOf_dropTrailing {l : List Char} (h : dropTrailing l ≠ []) :
    originOf (backwards (dropTrailing l)) = originOf (backwards l) := by
  fun_induction dropTrailing l with
  | case1 rest ih =>
    have hrest : backwards rest ≠ "" := by
      intro hempty
      have hnil : rest = [] := by simpa [backwards] using hempty
      rw [hnil] at h
      exact h rfl
    rw [ih h, backwards_slash, originOf_append hrest]
  | case2 rest ih =>
    have hrest : backwards rest ≠ "" := by
      intro hempty
      have hnil : rest = [] := by simpa [backwards] using hempty
      rw [hnil] at h
      exact h rfl
    rw [ih h, backwards_slash, backwards_dot, originOf_append hrest, originOf_append hrest]
  | case3 l _ _ => rfl

def lastOf (path : String) : String := (namesOf path).getLast?.getD "."

/-- Nor do they change its last name, unless that was a single dot. -/
theorem lastOf_dropTrailing (l : List Char) :
    lastOf (backwards l) = "." ∨ lastOf (backwards l) = lastOf (backwards (dropTrailing l)) := by
  fun_induction dropTrailing l with
  | case1 rest ih =>
    have hrest : lastOf (backwards ('/' :: rest)) = lastOf (backwards rest) := by
      rw [lastOf, backwards_slash, namesOf_append, namesOf_empty, List.append_nil, lastOf]
    rwa [hrest]
  | case2 rest ih =>
    refine .inl ?_
    rw [lastOf, backwards_dot, namesOf_append, namesOf_dot]
    simp
  | case3 l _ _ => exact .inr rfl

theorem lastOf_front {front : String} (hfront : front = "" ∨ ∃ up, front = up ++ "/")
    {name : String} (hname : IsName name) : lastOf (front ++ name) = name := by
  rcases hfront with rfl | ⟨up, rfl⟩
  · rw [String.empty_append, lastOf, namesOf_single hname.ne_empty hname.no_slash]
    rfl
  · rw [lastOf, namesOf_append, namesOf_single hname.ne_empty hname.no_slash]
    simp

theorem slash_not_head_dropTrailing (l : List Char) : (dropTrailing l).head? ≠ some '/' := by
  fun_induction dropTrailing l with
  | case1 rest ih => exact ih
  | case2 rest ih => exact ih
  | case3 l hslash _ =>
    cases l with
    | nil => simp
    | cons c rest =>
      intro hhead
      obtain rfl : c = '/' := Option.some.inj hhead
      exact hslash rest rfl

/-! Extensions. -/

theorem isName_extended {stem extension : String} (hstem : '/' ∉ stem.toList)
    (hextension : '/' ∉ extension.toList) : IsName (stem ++ "." ++ extension) where
  ne_empty := by simp
  no_slash := by simp [hstem, hextension]

theorem stem_no_slash {l : List Char} : '/' ∉ Directory.stem l := by
  have hname : '/' ∉ l.takeWhile (· != '/') := fun h =>
    absurd (List.all_eq_true.mp List.all_takeWhile _ h) (by decide)
  unfold Directory.stem
  simp only
  split
  · exact hname
  · exact fun h => hname ((List.dropWhile_suffix _).subset (List.mem_of_mem_drop h))

/-- The last name of a path in reverse, and what stands in front of it. -/
theorem backwards_split (l : List Char) :
    ∃ front, backwards (l.dropWhile (· != '/')) = front ∧
      backwards l = front ++ backwards (l.takeWhile (· != '/')) ∧
      (front = "" ∨ ∃ up, front = up ++ "/") := by
  refine ⟨_, rfl, ?_, ?_⟩
  · have hsplit := List.takeWhile_append_dropWhile (p := (· != '/')) (l := l)
    rw [← String.toList_inj]
    simp only [backwards, String.toList_append, String.toList_ofList, ← List.reverse_append, hsplit]
  · have hhead := List.head?_dropWhile_not (· != '/') l
    cases hup : l.dropWhile (· != '/') with
    | nil => exact .inl (by simp [backwards])
    | cons c rest =>
      rw [hup] at hhead
      obtain rfl : c = '/' := by simpa using hhead
      exact .inr ⟨backwards rest, by rw [backwards_slash, String.append_empty]⟩

theorem slash_not_mem_lastName (l : List Char) :
    '/' ∉ (backwards (l.takeWhile (· != '/'))).toList := by
  intro h
  rw [backwards, String.toList_ofList, List.mem_reverse] at h
  exact absurd (List.all_eq_true.mp List.all_takeWhile _ h) (by decide)

/-- A path with another extension is the same path and ends in dots, or differs from it in the last
component alone. -/
theorem withExtension_cases (path : String) {extension : String} (h : '/' ∉ extension.toList)
    (hlong : 1 < extension.length) :
    (Directory.withExtension path extension = path ∧ isDots (lastOf path) = true) ∨
      ∃ before name stem, components path = before ++ [name] ∧ isDots name = false ∧
        components (Directory.withExtension path extension) =
          before ++ [stem ++ "." ++ extension] ∧
        lastOf (Directory.withExtension path extension) = stem ++ "." ++ extension := by
  have hpath : backwards path.toList.reverse = path := by simp [backwards]
  have hlast := lastOf_dropTrailing path.toList.reverse
  have hsteps := stepsOf_dropTrailing path.toList.reverse
  have horigin := @originOf_dropTrailing path.toList.reverse
  have hhead := slash_not_head_dropTrailing path.toList.reverse
  rw [hpath] at hlast hsteps horigin
  unfold Directory.withExtension
  simp only
  generalize dropTrailing path.toList.reverse = reversed at hlast hsteps horigin hhead ⊢
  obtain ⟨front, hup, hsplit, hfront⟩ := backwards_split reversed
  have hslash := slash_not_mem_lastName reversed
  have htext : String.ofList (reversed.takeWhile (· != '/')).reverse =
      backwards (reversed.takeWhile (· != '/')) := rfl
  rw [htext]
  clear htext
  generalize hnamed : backwards (reversed.takeWhile (· != '/')) = name at hsplit hslash ⊢
  split
  · next hcondition =>
    refine .inl ⟨rfl, ?_⟩
    rcases hlast with hlast | hlast
    · rw [hlast]
      decide
    · rcases Bool.or_eq_true_iff.mp hcondition with hempty | hdots
      · have hnil : reversed.takeWhile (· != '/') = [] := by
          rw [String.isEmpty_iff.mp hempty] at hnamed
          simpa [backwards] using hnamed
        cases reversed with
        | nil => rw [hlast]; decide
        | cons c rest =>
          have hc : c ≠ '/' := by simpa using hhead
          simp [hc] at hnil
      · have hne : name ≠ "" := by
          rintro rfl
          contradiction
        rw [hlast, hsplit, lastOf_front hfront ⟨hne, hslash⟩]
        exact hdots
  · next hcondition =>
    rw [Bool.or_eq_true, not_or, Bool.not_eq_true, Bool.not_eq_true] at hcondition
    obtain ⟨hempty, hdots⟩ := hcondition
    have hname : IsName name := ⟨by simpa using hempty, hslash⟩
    have hdot : name ≠ "." := by
      rintro rfl
      contradiction
    have hreversed : reversed ≠ [] := by
      rintro rfl
      exact hname.ne_empty hnamed.symm
    have hextended : IsName (backwards (Directory.stem reversed) ++ "." ++ extension) :=
      isName_extended (by simpa [backwards] using stem_no_slash) h
    have hdot' : backwards (Directory.stem reversed) ++ "." ++ extension ≠ "." := by
      intro heq
      have hlength := congrArg String.length heq
      simp only [String.length_append] at hlength
      have hone : ".".length = 1 := rfl
      omega
    have hnew : String.ofList (Directory.stem reversed ++ reversed.dropWhile (· != '/')).reverse ++
        "." ++ extension = front ++ (backwards (Directory.stem reversed) ++ "." ++ extension) := by
      rw [← hup, ← String.toList_inj]
      simp [backwards]
    obtain ⟨before, hbefore, hafter⟩ := components_front hfront hname hdot hextended hdot'
    refine .inr ⟨before, name, backwards (Directory.stem reversed), ?_, hdots, ?_, ?_⟩
    · rw [← hbefore, ← hsplit, components, components, horigin hreversed, hsteps]
    · rw [hnew, hafter]
    · rw [hnew, lastOf_front hfront hextended]

/-! Keys. -/

theorem infix_intercalate {mark l : List Char} {ls : List (List Char)} (h : l ∈ ls) :
    l <:+: mark.intercalate ls := by
  induction ls with
  | nil => contradiction
  | cons first rest ih =>
    cases rest with
    | nil =>
      obtain rfl := List.mem_singleton.mp h
      exact ⟨[], [], by simp⟩
    | cons second others =>
      rw [List.intercalate_cons_cons]
      rcases List.mem_cons.mp h with rfl | hrest
      · exact ((List.prefix_append _ _).trans (List.prefix_append _ _)).isInfix
      · exact (ih hrest).trans (List.suffix_append _ _).isInfix

theorem infix_of_mem_namesOf {name path : String} (h : name ∈ namesOf path) :
    name.toList <:+: path.toList := by
  rw [← Text.intercalate_split '/' path]
  exact infix_intercalate (List.mem_map_of_mem (List.mem_filter.mp h).1)

theorem hasDots_append (front : List Char) {rest : List Char}
    (h : Directory.hasDots rest = true) : Directory.hasDots (front ++ rest) = true := by
  induction front with
  | nil => exact h
  | cons c front ih =>
    rw [List.cons_append, Directory.hasDots.eq_def]
    split
    · rfl
    · next heq =>
      obtain ⟨_, rfl⟩ := List.cons.inj heq
      exact ih
    · contradiction

/-- What a key has to be to be one. -/
theorem isKey_iff {key : String} : Directory.isKey key = true ↔
    key ≠ "" ∧ Directory.hasDots key.toList = false ∧ key.startsWith "/" = false := by
  simp [Directory.isKey, and_assoc]

theorem dots_not_mem_namesOf {key : String} (h : Directory.isKey key = true) :
    ".." ∉ namesOf key := by
  intro hmem
  obtain ⟨front, back, hkey⟩ := infix_of_mem_namesOf hmem
  have hdots : Directory.hasDots key.toList = true := by
    rw [← hkey, List.append_assoc]
    exact hasDots_append front rfl
  rw [(isKey_iff.mp h).2.1] at hdots
  contradiction

theorem dots_not_mem_stepsOf {key : String} (h : Directory.isKey key = true) :
    ".." ∉ stepsOf key := fun hmem => dots_not_mem_namesOf h (List.mem_filter.mp hmem).1

theorem components_empty : components "" = [] := by
  rw [components, originOf_empty, stepsOf_empty, List.nil_append]

/-- The components of a key follow those of a base that has any. -/
theorem components_join {base : String} (hbase : base ≠ "") (key : String) :
    components (Directory.join base key) = components base ++ stepsOf key := by
  have horigin : originOf (Directory.join base key) = originOf base := by
    unfold Directory.join
    split
    · next h =>
      rcases Bool.or_eq_true_iff.mp h with hempty | hslash
      · exact absurd (String.isEmpty_iff.mp hempty) hbase
      · rw [endsWith_slash, beq_iff_eq, List.getLast?_eq_some_iff] at hslash
        obtain ⟨l, hl⟩ := hslash
        have hup : base = String.ofList l ++ "/" ++ "" := by
          rw [← String.toList_inj]
          simpa using hl
        by_cases hnone : String.ofList l = ""
        · rw [hup, hnone, String.empty_append, String.append_empty, originOf_slash]
          exact (originOf_slash "").symm
        · rw [hup, String.append_empty, originOf_append hnone]
          have hself := originOf_append hnone ""
          rwa [String.append_empty, eq_comm] at hself
    · exact originOf_append hbase key
  rw [components, horigin, stepsOf_join, components, List.append_assoc]

/-- A key has a component. -/
theorem components_ne_nil {key : String} (hkey : Directory.isKey key = true) :
    components key ≠ [] := by
  obtain ⟨hne, _, hstart⟩ := isKey_iff.mp hkey
  unfold components originOf
  rw [hstart]
  simp only [Bool.false_eq_true, if_false]
  split
  · simp
  · next hdot =>
    cases hpieces : Text.split '/' key with
    | nil => exact absurd hpieces (split_ne_nil key)
    | cons first rest =>
      rw [hpieces] at hdot
      have hdot : first ≠ "." := fun h => hdot (h ▸ rfl)
      have hfirst : first ≠ "" := by
        rintro rfl
        have htext := Text.intercalate_split '/' key
        rw [hpieces] at htext
        rw [startsWith_slash] at hstart
        cases rest with
        | nil => exact hne (String.toList_eq_nil_iff.mp (by simpa using htext.symm))
        | cons second others => simp [← htext] at hstart
      have hmem : first ∈ stepsOf key := by
        simp [stepsOf, namesOf, hpieces, hfirst, hdot]
      exact fun hnil => List.ne_nil_of_mem hmem (List.append_eq_nil_iff.mp hnil).2

def Named (key : String) : Prop := ∃ name ∈ namesOf key, name ≠ "."

theorem named_iff {key : String} : Named key ↔ stepsOf key ≠ [] := by
  simp [Named, stepsOf, List.filter_eq_nil_iff]

/-- A key leads into the base exactly if it has a name, or the base is the working directory. -/
theorem inside_join_iff {base key : String} (hkey : Directory.isKey key = true) :
    Inside base (Directory.join base key) ↔ base = "" ∨ Named key := by
  by_cases hbase : base = ""
  · subst hbase
    refine iff_of_true ⟨components key, ?_, components_ne_nil hkey, ?_⟩ (.inl rfl)
    · rw [components_empty, List.nil_append]
      rfl
    · rw [components, List.mem_append, not_or]
      exact ⟨dots_not_mem_originOf key, dots_not_mem_stepsOf hkey⟩
  · rw [or_iff_right hbase, named_iff, Inside, components_join hbase]
    constructor
    · rintro ⟨rest, hrest, hne, _⟩
      rwa [List.append_cancel_left hrest]
    · exact fun hne => ⟨_, rfl, hne, dots_not_mem_stepsOf hkey⟩

/-- Another last component leads into the same directories. -/
theorem Inside.with_last {base path other name last : String} {before : List String}
    (h : Inside base path) (hpath : components path = before ++ [name])
    (hother : components other = before ++ [last]) (hlast : isDots last = false) :
    Inside base other := by
  obtain ⟨rest, hrest, hne, hdots⟩ := h
  obtain ⟨front, final, rfl⟩ := (List.eq_nil_or_concat rest).resolve_left hne
  rw [List.concat_eq_append] at hrest hdots
  rw [hpath, ← List.append_assoc] at hrest
  obtain ⟨hbefore, _⟩ := append_inj hrest
  refine ⟨front ++ [last], ?_, by simp, ?_⟩
  · rw [hother, hbefore, List.append_assoc]
  · rw [List.mem_append, not_or] at hdots ⊢
    refine ⟨hdots.1, fun hmem => ?_⟩
    rw [← List.mem_singleton.mp hmem] at hlast
    contradiction

theorem slash_not_mem_extension (mark : Uuid) : '/' ∉ ("tmp-" ++ mark.render).toList := by
  simp [slash_not_mem_render mark]

theorem length_extension (mark : Uuid) : 1 < ("tmp-" ++ mark.render).length := by
  have hfour : "tmp-".length = 4 := rfl
  rw [String.length_append]
  omega

theorem isDots_extended (stem : String) {extension : String} (hlong : 1 < extension.length) :
    isDots (stem ++ "." ++ extension) = false := by
  apply isDots_of_length
  have hone : ".".length = 1 := rfl
  rw [String.length_append, String.length_append]
  omega

/-- The path that is written first leads into the base exactly if the final one does. -/
theorem inside_temporaryPath_iff {base path : String} (mark : Uuid) :
    Inside base (Directory.temporaryPath path mark.render) ↔ Inside base path := by
  rcases withExtension_cases path (slash_not_mem_extension mark) (length_extension mark) with
    ⟨hsame, _⟩ | ⟨before, name, stem, hpath, hname, htemporary, _⟩
  · rw [Directory.temporaryPath, hsame]
  · have hnew := isDots_extended stem (length_extension mark)
    exact ⟨fun h => h.with_last htemporary hpath hname, fun h => h.with_last hpath htemporary hnew⟩

end ConfigRegistry.Blob
