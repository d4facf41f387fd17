import PathRouting.Proofs.RouteTable.Precedence
import PathRouting.Proofs.Text.Splitting

/-!
# Slashes at the ends

A request path is cut at its first question mark and then loses the slashes around it, and a template
loses the slashes around it before it is read. So neither slashes at the ends nor what stands behind a
question mark make a difference to the answers of a table, and two routes whose templates differ in
nothing but slashes at the ends are compiled to the same.
-/

namespace PathRouting

namespace Text

/-- A leading occurrence of a character is trimmed. -/
theorem trim_cons (c : Char) (t : Text) : trim c (c :: t) = trim c t := by
  have hstart : trimStart c (c :: t) = trimStart c t := List.dropWhile_cons_of_pos (beq_self_eq_true c)
  rw [trim, hstart, trim]

/-- A trailing occurrence of a character is trimmed. -/
theorem trim_concat (c : Char) (t : Text) : trim c (t ++ [c]) = trim c t := by
  unfold trim
  by_cases hall : (trimStart c t).isEmpty = true
  · -- Nothing but occurrences of the character is left, so all of it is trimmed from the start.
    have hstart : trimStart c (t ++ [c]) = trimStart c t := by
      unfold trimStart at hall ⊢
      rw [List.dropWhile_append, if_pos hall, List.isEmpty_iff.mp hall]
      exact List.dropWhile_cons_of_pos (beq_self_eq_true c)
    rw [hstart]
  · have hstart : trimStart c (t ++ [c]) = trimStart c t ++ [c] := by
      unfold trimStart at hall ⊢
      rw [List.dropWhile_append, if_neg hall]
    rw [hstart, trimEnd_concat]

/-- Two texts are the same but for occurrences of a character at their ends. -/
def SameWithin (c : Char) (t u : Text) : Prop :=
  ∃ core front back front' back',
    t = List.replicate front c ++ core ++ List.replicate back c ∧
    u = List.replicate front' c ++ core ++ List.replicate back' c

/-- Occurrences of a character around a text are trimmed. -/
theorem trim_replicate (c : Char) (front back : Nat) (core : Text) :
    trim c (List.replicate front c ++ core ++ List.replicate back c) = trim c core := by
  induction front with
  | zero =>
    induction back with
    | zero => simp
    | succ back ih =>
      rw [List.replicate_succ', ← List.append_assoc, trim_concat]
      exact ih
  | succ front ih =>
    rw [List.replicate_succ, List.cons_append, List.cons_append, trim_cons]
    exact ih

/-- Texts that differ only at their ends are the same once they are trimmed. -/
theorem SameWithin.trim_eq {c : Char} {t u : Text} (h : SameWithin c t u) : trim c t = trim c u := by
  obtain ⟨core, front, back, front', back', rfl, rfl⟩ := h
  rw [trim_replicate, trim_replicate]

end Text

/-- Two routes differ in nothing but the slashes around their templates. -/
structure Route.SameWithinSlashes (r r' : Route) : Prop where
  /-- The names are the same. -/
  name : r'.name = r.name
  /-- The templates are the same but for slashes at their ends. -/
  template : Text.SameWithin '/' r.template r'.template
  /-- The defaults are the same. -/
  defaults : r'.defaults = r.defaults
  /-- The constraints are the same. -/
  constraints : r'.constraints = r.constraints

namespace Route

variable (r : Route) (text : Text) (query : Values)

/-- The check of a route does not look at the text of its template. -/
theorem checkAfter_template (earlier : List Text) (placed : List Template.Placed) :
    { r with template := text }.checkAfter earlier placed = r.checkAfter earlier placed := by
  induction placed generalizing earlier with
  | nil => rfl
  | cons p placed ih =>
    unfold checkAfter
    rw [ih]
    rfl

/-- The segments of a route do not depend on the text of its template once it has been read. -/
theorem segmentsFrom_template (defaults : Dict ParameterDefault) (trailing : Text) (s : Segment)
    (placed : List Template.Placed) :
    { r with template := text }.segmentsFrom defaults query trailing s placed =
      r.segmentsFrom defaults query trailing s placed := by
  induction placed generalizing s with
  | nil => rfl
  | cons p placed ih =>
    unfold segmentsFrom
    cases s.splitBetween p.gap with
    | mk done before =>
      dsimp only
      rw [ih]
      rfl

/-- What is built of a template that has been read does not depend on the text of the template. -/
theorem segments_template (t : Template) :
    { r with template := text }.segments t query = r.segments t query := by
  unfold segments check
  dsimp only
  rw [checkAfter_template]
  congr
  funext
  have hlayout : ∀ defaults, { r with template := text }.layoutSegments defaults query t.layout =
      r.layoutSegments defaults query t.layout := by
    intro defaults
    unfold layoutSegments
    split
    · rfl
    · rename_i gap p rest _
      cases Segment.splitLeading gap with
      | mk leading before =>
        dsimp only
        rw [segmentsFrom_template]
        rfl
  rw [hlayout]
  rfl

variable {r : Route} {text : Text}

/-- A route compiles to the same, or not at all, whatever slashes stand around its template. -/
theorem toOption_compile_template (h : Text.trim '/' text = Text.trim '/' r.template) :
    ({ r with template := text }.compile query).toOption = (r.compile query).toOption := by
  unfold compile
  dsimp only
  rw [h]
  cases Template.parse (Text.trim '/' r.template) with
  | error e => rfl
  | ok t =>
    change (segments _ _ _ >>= _).toOption = (segments _ _ _ >>= _).toOption
    rw [segments_template]
    cases r.segments t.escapeLiterals query with
    | error e => rfl
    | ok built =>
      change ((compilePattern _).mapError _ >>= _).toOption =
        ((compilePattern _).mapError _ >>= _).toOption
      cases compilePattern (Segment.joinedPattern (Segment.markBorders built.segments)) with
      | error e => rfl
      | ok regex => rfl

/-- Routes that differ only in slashes around their templates differ only in the text of the
template. -/
theorem SameWithinSlashes.eq_template {r' : Route} (h : r.SameWithinSlashes r') :
    r' = { r with template := r'.template } := by
  obtain ⟨name, template, defaults, constraints⟩ := r'
  obtain ⟨rfl, -, rfl, rfl⟩ := h
  rfl

/-- Routes that differ only in slashes around their templates compile to the same, or not at all. -/
theorem SameWithinSlashes.toOption_compile_eq {r' : Route} (h : r.SameWithinSlashes r') :
    (r'.compile query).toOption = (r.compile query).toOption := by
  rw [h.eq_template]
  exact toOption_compile_template query h.template.trim_eq.symm

end Route

/-- A match with another text for the template of its route. -/
def RouteMatch.withTemplate (m : RouteMatch) (text : Text) : RouteMatch :=
  { m with route := { m.route with template := text } }

namespace RouteTable

variable {r r' : Route} (t : RouteTable) (path : Text) (query : Values)

/-- A slash before a path is left out. -/
theorem normalizePath_cons : normalizePath ('/' :: path) = normalizePath path := by
  unfold normalizePath
  rw [List.takeWhile_cons_of_pos (by decide), Text.trim_cons]

/-- A slash behind a path is left out, be it in the path itself or in the query string behind it. -/
theorem normalizePath_concat : normalizePath (path ++ ['/']) = normalizePath path := by
  unfold normalizePath
  rw [List.takeWhile_append]
  split
  · rename_i hall
    rw [List.takeWhile_cons_of_pos (by decide), List.takeWhile_nil, Text.trim_concat,
      (List.takeWhile_prefix _).eq_of_length hall]
  · rfl

/-- What stands behind a question mark is left out. -/
theorem normalizePath_question (text : Text) :
    normalizePath (path ++ '?' :: text) = normalizePath path := by
  unfold normalizePath
  rw [List.takeWhile_append]
  split
  · rename_i hall
    rw [List.takeWhile_cons_of_neg (by decide), List.append_nil,
      (List.takeWhile_prefix _).eq_of_length hall]
  · rfl

/-- Routes that differ only in slashes around their templates match alike, and each is shown with its
own template. -/
theorem matchRoute?_eq_of_sameWithinSlashes (h : r.SameWithinSlashes r') :
    matchRoute? path query r' = (matchRoute? path query r).map (·.withTemplate r'.template) := by
  unfold matchRoute?
  rw [h.toOption_compile_eq]
  cases (r.compile query).toOption with
  | none => rfl
  | some c =>
    rw [Option.bind_eq_bind, Option.bind_some, Option.bind_eq_bind, Option.bind_some]
    cases c.valuesIn? path query with
    | none => rfl
    | some values =>
      conv_lhs => rw [h.eq_template]
      rfl

/-- If a route is replaced by one that differs only in slashes around its template, a table gives the
same answers, except that a match of the route itself shows the template of the new one. -/
theorem resolve_replace (h : r.SameWithinSlashes r') (front back : List Route) :
    resolve ⟨front ++ r' :: back⟩ path query = resolve ⟨front ++ r :: back⟩ path query ∨
    ∃ m, m.route.template = r.template ∧ resolve ⟨front ++ r :: back⟩ path query = some m ∧
      resolve ⟨front ++ r' :: back⟩ path query = some (m.withTemplate r'.template) := by
  have hcons : ∀ d : Route, resolve ⟨d :: back⟩ path query =
      (matchRoute? (normalizePath path) query d).or (resolve ⟨back⟩ path query) := by
    intro d
    unfold resolve
    rw [List.findSome?_cons]
    cases matchRoute? (normalizePath path) query d <;> rfl
  rw [resolve_append, resolve_append, hcons, hcons, matchRoute?_eq_of_sameWithinSlashes _ _ h]
  cases resolve ⟨front⟩ path query with
  | some m => exact .inl rfl
  | none =>
    cases hm : matchRoute? (normalizePath path) query r with
    | none => exact .inl rfl
    | some m =>
      obtain ⟨c, -, -, hroute⟩ := matchRoute?_eq_some_iff.mp hm
      exact .inr ⟨m, by rw [hroute], rfl, rfl⟩

/-- Slashes at the ends and what stands behind a question mark make no difference. A table answers
alike to a path with or without a slash before it, a slash behind it or a query string behind it. Two
routes that differ only in slashes around their templates compile, for every query string, to the same
or not at all, and if one of them is replaced by the other in a table, no answer changes but for the
text of the template that the match of the route shows. -/
theorem ends_insignificant :
    (∀ (t : RouteTable) (path : Text) (query : Values) (text : Text),
      t.resolve ('/' :: path) query = t.resolve path query ∧
      t.resolve (path ++ ['/']) query = t.resolve path query ∧
      t.resolve (path ++ '?' :: text) query = t.resolve path query) ∧
    ∀ r r' : Route, r.SameWithinSlashes r' →
      (∀ query, (r'.compile query).toOption = (r.compile query).toOption) ∧
      ∀ front back path query,
        resolve ⟨front ++ r' :: back⟩ path query = resolve ⟨front ++ r :: back⟩ path query ∨
        ∃ m, m.route.template = r.template ∧ resolve ⟨front ++ r :: back⟩ path query = some m ∧
          resolve ⟨front ++ r' :: back⟩ path query = some (m.withTemplate r'.template) := by
  refine ⟨fun t path query text => ⟨?_, ?_, ?_⟩, fun r r' h =>
    ⟨fun query => h.toOption_compile_eq query, fun front back path query =>
      resolve_replace path query h front back⟩⟩
  · rw [resolve, normalizePath_cons, resolve]
  · rw [resolve, normalizePath_concat, resolve]
  · rw [resolve, normalizePath_question, resolve]

/-- A route whose template has no slashes at its ends. -/
def newsRoute : Route :=
  { template := "news/{year}/{page?}".toList }

/-- The same route with slashes around its template. -/
def slashedNewsRoute : Route :=
  { template := "//news/{year}/{page?}/".toList }

/-- A route that comes behind. -/
def sectionRoute : Route :=
  { template := "{section}".toList }

/-- The slashes of the template show in the match, and only there. Those behind the path, and the query
string behind them, do not show at all. -/
theorem newsRoute_ends_insignificant : ∃ m,
    resolve ⟨[newsRoute, sectionRoute]⟩ "news/2021".toList ∅ = some m ∧
    resolve ⟨[newsRoute, sectionRoute]⟩ "news/2021?a=/?".toList ∅ = some m ∧
    resolve ⟨[slashedNewsRoute, sectionRoute]⟩ "news/2021".toList ∅ =
      some (m.withTemplate slashedNewsRoute.template) := by
  obtain ⟨hpath, hroutes⟩ := ends_insignificant
  have hsame : newsRoute.SameWithinSlashes slashedNewsRoute :=
    ⟨rfl, ⟨newsRoute.template, 0, 0, 2, 1, by decide, by decide⟩, rfl, rfl⟩
  obtain hunchanged | ⟨m, -, hm, hm'⟩ :=
    (hroutes newsRoute slashedNewsRoute hsame).2 [] [sectionRoute] "news/2021".toList ∅
  · exact absurd hunchanged (by decide +kernel)
  · exact ⟨m, hm, (hpath _ "news/2021".toList ∅ "a=/?".toList).2.2.trans hm, hm'⟩

end RouteTable

end PathRouting
