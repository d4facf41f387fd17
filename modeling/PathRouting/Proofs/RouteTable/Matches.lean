import PathRouting.Proofs.Route.Borders
import PathRouting.Proofs.Route.Faults
import PathRouting.Proofs.RouteTable.Precedence
import PathRouting.Proofs.Template.OuterSlashes
import PathRouting.Proofs.Text.Percent

/-!
# What a match holds

A match shows its route with the defaults in effect. It has values for parameters of the route only,
none of them is empty, and where there is none the default stands in. If the route has no
constraints, no parameter is left without a value and without a default.
-/

namespace PathRouting

/-- What holds of a match of a route whose template has given placeholders. -/
structure RouteMatch.WellFormed (m : RouteMatch) (r : Route) (ps : List Placeholder) : Prop where
  /-- The route is shown as it is, apart from the defaults. -/
  route : m.route = { r with defaults := m.route.defaults }
  /-- The defaults are those of the route and those of the placeholders. -/
  defaults : ∀ name d, m.route.defaults.get? name = some d ↔ r.Gives ps name d
  /-- No parameter has a default of both kinds. -/
  apart : ∀ name d e, r.defaults.get? name = some d → ¬Placeholder.Declared ps name e
  /-- Only parameters have values. -/
  keys : ∀ name ∈ m.values.keys, name ∈ ps.map (·.name)
  /-- No value is empty. -/
  values : ∀ value ∈ m.values.values, value ≠ []
  /-- The value of a parameter is the one that the match has. -/
  present : ∀ name value, m.values.get? name = some value → m.value? name = some value
  /-- If the match has none, the value is the text of the default, if that is one. -/
  absent : ∀ name, m.values.get? name = none →
    ∀ text, m.value? name = some text ↔ r.Gives ps name (.value text)
  /-- Without constraints the match has a value for each parameter without a default. -/
  required : (∀ p ∈ ps, r.constraints.get? p.name = none) →
    ∀ p ∈ ps, (∀ d, ¬r.Gives ps p.name d) → ∃ value, m.values.get? p.name = some value

/-- The value of a parameter that has none in a match is the text of its default. -/
theorem RouteMatch.value?_of_absent {m : RouteMatch} {name text : Text}
    (h : m.values.get? name = none) :
    m.value? name = some text ↔ m.route.defaults.get? name = some (.value text) := by
  unfold RouteMatch.value?
  rw [h, Option.none_or, Option.bind_eq_some_iff]
  constructor
  · rintro ⟨d, hd, hvalue⟩
    cases d with
    | value other =>
      cases hvalue
      exact hd
    | optional => cases hvalue
  · exact fun hd => ⟨_, hd, rfl⟩

/-- Only an optional parameter takes nothing of a path. -/
theorem Segment.Takes.isOptional {s : Segment} {x : Share} {rest name : Text}
    (h : s.Takes PlainValue x rest) (hname : s.name = some name) (hempty : x.value = []) :
    s.isOptional = true := by
  have hvalue : s.PlainValue x.value := h.value (hname ▸ Option.some_ne_none name)
  rw [← Bool.not_eq_false]
  exact fun hrequired => hvalue.2 hrequired hempty

/-- A value that a match delivers is not empty. -/
theorem Segment.ne_nil_of_value?_eq_some {m : Regex.Match} {query : Values} {name value : Text}
    (h : value? m query name = some (some value)) : value ≠ [] := by
  rintro rfl
  unfold value? at h
  split at h
  · rename_i taken htaken
    have hne : taken ≠ [] := by simpa using (Option.filter_eq_some_iff.mp htaken).2
    obtain ⟨v, hv, hsome⟩ := Option.map_eq_some_iff.mp h
    cases hsome
    exact Percent.decode?_ne_some_nil hne hv
  · have hquery : query.nonempty? name = some [] := Option.some.inj h
    have hne := (Option.filter_eq_some_iff.mp hquery).2
    cases hne

namespace Route

variable {r : Route} {t : Template} {query : Values} {c : CompiledRoute} {path : Text}

/-- The defaults in effect for a template without faults. -/
theorem get?_mergedDefaults_of_check (ht : Template.parse (Text.trim '/' r.template) = .ok t)
    (hcheck : r.check t.layout = .ok ()) {name : Text} {d : ParameterDefault} :
    (r.mergedDefaults t.layout.placed).get? name = some d ↔ r.Gives t.placeholders name d := by
  have hplaced : t.layout.placed.map (·.placeholder) = t.placeholders :=
    Template.map_placeholder_layoutAfter [] t
  have hapart : r.DefaultsApart (t.layout.placed.map (·.placeholder)) := by
    rw [hplaced]
    exact ((check_eq_ok_iff ht).mp hcheck).defaultsApart
  rw [get?_mergedDefaults (nodup_names_of_check hcheck) hapart, hplaced]

/-- A required parameter without a default can only be left out of a path if the query string gives
it a value. -/
theorem exists_nonempty?_of_isOptional (ht : Template.parse (Text.trim '/' r.template) = .ok t)
    (hcheck : r.check t.layout = .ok ()) {name : Text}
    (hnone : ∀ d, ¬r.Gives t.placeholders name d)
    (h : isOptional (r.mergedDefaults t.layout.placed) query name = true) :
    ∃ value, query.nonempty? name = some value := by
  have hget : (r.mergedDefaults t.layout.placed).get? name = none :=
    Option.eq_none_iff_forall_ne_some.mpr fun d hd =>
      hnone d ((get?_mergedDefaults_of_check ht hcheck).mp hd)
  unfold isOptional at h
  obtain hcontains | hquery := (Bool.or_eq_true _ _).mp h
  · exact absurd hcontains (Dict.get?_eq_none_iff.mp hget)
  · exact Option.isSome_iff_exists.mp hquery

/-- A parameter without a default has a value whenever a route without constraints matches: it has
taken something of the path, or the query string gives it a value. -/
theorem exists_value_of_required (hr : r.ConstraintFree)
    (ht : Template.parse (Text.trim '/' r.template) = .ok t) (hcheck : r.check t.layout = .ok ())
    (hc : r.compile query = .ok c) {values : Values}
    (hvalues : c.valuesIn? path query = some values) {p : Placeholder} (hp : p ∈ t.placeholders)
    (hnone : ∀ d, ¬r.Gives t.placeholders p.name d) : ∃ value, values.get? p.name = some value := by
  have hname : p.name ∈ c.segments.filterMap (·.name) := by
    rw [filterMap_name_of_compile ht hc]
    exact List.mem_map_of_mem hp
  obtain ⟨m, hm, hvalue, -⟩ := Segment.get?_of_valuesIn? (nodup_names_of_compile hc) hvalues
  have hvalue := hvalue p.name hname
  cases hcuts : (cuts c.segments path).head? with
  | none =>
    rw [search_eq_cuts hr hc, hcuts] at hm
    cases hm
  | some shares =>
    have hcut := mem_cuts.mp (List.mem_of_mem_head? hcuts)
    obtain ⟨start, x, hx⟩ := hcut.exists_isShareOf hname
    rw [value?_of_search hr hc hcuts hm hx] at hvalue
    split at hvalue
    · -- Only a parameter that may be absent takes nothing, and here the query string is why.
      rename_i hempty
      obtain ⟨s, hs, hsname, rest, htakes⟩ := hcut.exists_takes hx
      obtain ⟨-, heq, -⟩ := pattern_of_compile ht hc hs hsname
      have hoptional := htakes.isOptional hsname hempty
      rw [heq] at hoptional
      obtain ⟨value, hquery⟩ := exists_nonempty?_of_isOptional ht hcheck hnone hoptional
      rw [hquery] at hvalue
      exact ⟨value, (Option.some.inj hvalue).symm⟩
    · obtain ⟨value, -, hsome⟩ := Option.map_eq_some_iff.mp hvalue
      exact ⟨value, hsome.symm⟩

/-- Only parameters are given values, and none of the values is empty. -/
theorem mem_and_ne_nil_of_valuesIn? (ht : Template.parse (Text.trim '/' r.template) = .ok t)
    (hc : r.compile query = .ok c) {values : Values} (hvalues : c.valuesIn? path query = some values)
    {name value : Text} (hget : values.get? name = some value) :
    name ∈ t.placeholders.map (·.name) ∧ value ≠ [] := by
  obtain ⟨found, -, hvalue, hother⟩ := Segment.get?_of_valuesIn? (nodup_names_of_compile hc) hvalues
  have hname : name ∈ c.segments.filterMap (·.name) := by
    by_contra hno
    rw [hother name hno] at hget
    cases hget
  have hdelivered : Segment.value? found query name = some (some value) := by
    rw [hvalue name hname, hget]
  exact ⟨filterMap_name_of_compile ht hc ▸ hname, Segment.ne_nil_of_value?_eq_some hdelivered⟩

/-- A match of a route is well formed. -/
theorem IsMatch.wellFormed {m : RouteMatch} (h : r.IsMatch path query m) :
    ∃ t, Template.parse r.template = .ok t ∧ m.WellFormed r t.placeholders := by
  obtain ⟨c, hc, hvalues, hroute⟩ := h
  obtain ⟨t, ht, hcheck, -, -, -, hdefaults, -⟩ := compile_eq_ok hc
  obtain ⟨whole, hwhole, hwidens⟩ := Template.exists_parse_of_parse_trim ht
  have hgives : ∀ name d, m.route.defaults.get? name = some d ↔ r.Gives t.placeholders name d := by
    intro name d
    rw [hroute, ← get?_mergedDefaults_of_check ht hcheck, ← hdefaults]
  refine ⟨whole, hwhole, ?_⟩
  rw [hwidens.placeholders]
  exact {
    route := by
      rw [hroute]
    defaults := hgives
    apart := by
      rintro name d e hd ⟨p, hp, rfl, hdeclares⟩
      have hdefault : p.default ≠ .none := fun hnone => by
        rw [InlineDefault.toDefault?_eq_none_iff.mpr hnone] at hdeclares
        cases hdeclares
      rw [((check_eq_ok_iff ht).mp hcheck).defaultsApart p hp hdefault] at hd
      cases hd
    keys := by
      intro name hname
      obtain ⟨⟨_, value⟩, hpair, rfl⟩ := List.mem_map.mp hname
      exact (mem_and_ne_nil_of_valuesIn? ht hc hvalues (Dict.get?_eq_some_iff.mpr hpair)).1
    values := by
      intro value hmem
      obtain ⟨⟨_, _⟩, hpair, rfl⟩ := List.mem_map.mp hmem
      exact (mem_and_ne_nil_of_valuesIn? ht hc hvalues (Dict.get?_eq_some_iff.mpr hpair)).2
    present := by
      intro name value hget
      unfold RouteMatch.value?
      rw [hget, Option.some_or]
    absent := by
      intro name hget text
      rw [RouteMatch.value?_of_absent hget, hgives]
    required := by
      intro hfree p hp hnone
      have hr : r.ConstraintFree := constraintFree_of_parse ht hfree
      exact exists_value_of_required hr ht hcheck hc hvalues hp hnone }

end Route

namespace RouteTable

/-- Every match that a table answers with is a well-formed match of one of its routes. -/
theorem resolve_wellFormed {table : RouteTable} {path : Text} {query : Values} {m : RouteMatch}
    (h : table.resolve path query = some m) :
    ∃ i r t, table.routes[i]? = some r ∧ table.AnswersAt path query i m ∧
      Template.parse r.template = .ok t ∧ m.WellFormed r t.placeholders := by
  obtain ⟨i, hanswers⟩ := resolve_eq_some_iff.mp h
  obtain ⟨r, hr, hmatch⟩ := hanswers.matched
  obtain ⟨t, ht, hwellFormed⟩ := hmatch.wellFormed
  exact ⟨i, r, t, hr, hanswers, ht, hwellFormed⟩

/-- A route with a default of each kind and a parameter without one. -/
def docsRoute : Route :=
  { template := "/docs/{page}/{lang=en}/{view}".toList
    defaults := .ofList [("view".toList, .value "plain".toList)] }

/-- The table that holds this route. -/
def docsTable : RouteTable :=
  ⟨[docsRoute]⟩

/-- A path with a value for the first parameter alone has a well-formed match. -/
theorem docsTable_resolve_wellFormed : RouteTable.empty.add docsRoute = .ok docsTable ∧
    ∃ m, docsTable.resolve "/docs/intro".toList ∅ = some m ∧
    ∃ i r t, docsTable.routes[i]? = some r ∧ docsTable.AnswersAt "/docs/intro".toList ∅ i m ∧
      Template.parse r.template = .ok t ∧ m.WellFormed r t.placeholders := by
  have hsome : (docsTable.resolve "/docs/intro".toList ∅).isSome = true := by decide +kernel
  obtain ⟨m, hm⟩ := Option.isSome_iff_exists.mp hsome
  exact ⟨by decide +kernel, m, hm, resolve_wellFormed hm⟩

end RouteTable

end PathRouting
