import PathRouting.Proofs.Route.Constraints
import PathRouting.Proofs.Segment.Acceptance

/-!
# Routes that compile for every request

A route is compiled when it is registered, without query values, and again for every request. Which
parameters may be absent from the path depends on the query values, and the expression with it. If
the constraints of a registered route can be put in parentheses and leave room for the groups around
them, its expression is read for every request, and only its size can be a reason not to compile it.
-/

namespace PathRouting

open Regex

/-- The constraints of a route leave room for the groups around them. -/
def Route.Roomy (r : Route) : Prop :=
  ∀ t, Template.parse (Text.trim '/' r.template) = .ok t → ∀ p ∈ t.placeholders,
    ∀ constraint, r.constraints.get? p.name = some constraint →
      textHeight pathFlags constraint + 4 ≤ nestingLimit

/-- The constraints of a route leave room if all that are given do. -/
theorem Route.roomy_of_values {r : Route}
    (h : ∀ constraint ∈ r.constraints.values, textHeight pathFlags constraint + 4 ≤ nestingLimit) :
    r.Roomy :=
  fun _ _ _ _ constraint hconstraint => h constraint (Dict.mem_values_of_get?_eq_some hconstraint)

namespace Route

variable {r : Route} {query : Values} {c : CompiledRoute} {t : Template}

/-- A route without constraints has none that could not be put in parentheses. -/
theorem ConstraintFree.enclosable (hr : r.ConstraintFree) : r.Enclosable := by
  intro t ht p hp constraint hconstraint
  rw [hr t ht p hp] at hconstraint
  cases hconstraint

/-- A route without constraints has none that would need room. -/
theorem ConstraintFree.roomy (hr : r.ConstraintFree) : r.Roomy := by
  intro t ht p hp constraint hconstraint
  rw [hr t ht p hp] at hconstraint
  cases hconstraint

/-- The names of the groups of a compiled route are distinct. -/
theorem nodup_groupNames_of_compile (henc : r.Enclosable)
    (ht : Template.parse (Text.trim '/' r.template) = .ok t) (hc : r.compile query = .ok c) :
    ((t.placeholders.map (·.name)).flatMap (groupNames r.constraints.get?)).Nodup := by
  obtain ⟨vs, parsed, hrow, hparsed, hnames, -⟩ :=
    exists_rowRead_of_readsValue hc (readsValue_of_compile henc hc)
  rw [← filterMap_name_of_compile ht hc, ← hrow.map_fst_names, ← hnames]
  exact nodup_names_of_parse hparsed

/-- The segments of a route that passes its check can be read, whichever parameters may be
absent. -/
theorem readable_of_mem_templateSegments (henc : r.Enclosable) (hroom : r.Roomy)
    (ht : Template.parse (Text.trim '/' r.template) = .ok t) (hcheck : r.check t.layout = .ok ()) :
    ∀ s ∈ (r.templateSegments query t).map Segment.escape, s.Readable r.constraints.get? := by
  intro s hs
  have hplaceholder : ∀ {name}, s.name = some name → ∃ p ∈ t.placeholders, p.name = name :=
    fun hname => (pattern_of_mem_templateSegments hs hname).1
  refine ⟨shaped_templateSegments ht s hs, builtBy_of_mem_templateSegments hs,
    fun name constraint hname hconstraint => ?_, fun name constraint hname hconstraint => ?_,
    fun name constraint hname hconstraint => ?_⟩
  all_goals obtain ⟨p, hp, rfl⟩ := hplaceholder hname
  · exact exists_parse_of_placeholder hcheck hp hconstraint
  · exact henc t ht p hp constraint hconstraint
  · exact hroom t ht p hp constraint hconstraint

/-- A route that compiles for one request compiles for every other one, as long as its expression
does not become too large. -/
theorem exists_compile_of_compile (henc : r.Enclosable) (hroom : r.Roomy)
    (hc : r.compile query = .ok c) {other : Values}
    (hsize : r.compile other ≠ .error (.invalidTemplate r.template (.expression .size))) :
    ∃ d, r.compile other = .ok d := by
  obtain ⟨t, ht, hcheck, -⟩ := Route.compile_eq_ok hc
  have hreadable : ∀ s ∈ (r.templateSegments other t).map Segment.escape,
      s.Readable r.constraints.get? := readable_of_mem_templateSegments henc hroom ht hcheck
  obtain ⟨parsed, hparsed⟩ := exists_parse_joinedPattern hreadable (by
    rw [filterMap_name_templateSegments]
    exact nodup_groupNames_of_compile henc ht hc)
  have hread : compilePattern (Segment.joinedPattern
      ((r.templateSegments other t).map Segment.escape)) =
        if weightLimit < parsed.expr.weight then .error .size
        else .ok ⟨parsed.names, parsed.expr.program⟩ := by
    unfold compilePattern Regex.compile
    rw [hparsed]
    rfl
  rw [compile_eq ht hcheck rfl, hread] at hsize ⊢
  split at hsize
  · exact absurd rfl hsize
  · rename_i hlight
    rw [if_neg hlight]
    exact ⟨_, rfl⟩

end Route

namespace RouteTable

variable {table bigger : RouteTable} {r : Route}

/-- Every route of a table compiles without query values. -/
def Compiles (table : RouteTable) : Prop :=
  ∀ r ∈ table.routes, ∃ c, r.compile ∅ = .ok c

/-- A route that is added compiles, as all others do. -/
theorem Compiles.add (h : table.Compiles) (hadd : table.add r = .ok bigger) : bigger.Compiles := by
  obtain ⟨-, hr, rfl⟩ := add_eq_ok_iff.mp hadd
  intro s hs
  rcases List.mem_append.mp hs with hs | hs
  · exact h s hs
  · obtain rfl := List.mem_singleton.mp hs
    exact hr

/-- All routes that have been added compile. -/
theorem Compiles.addAll {routes : List Route} (h : table.Compiles)
    (hadd : table.addAll routes = .ok bigger) : bigger.Compiles := by
  induction routes generalizing table with
  | nil =>
    cases hadd
    exact h
  | cons r rest ih =>
    obtain ⟨larger, hlarger, hadd⟩ := bind_eq_ok hadd
    exact ih (h.add hlarger) hadd

/-- A registered route whose constraints can be put in parentheses and leave room for that is never
skipped: it compiles for every request for which its expression does not become too large, and what
it finds in a path is what it answers. -/
theorem registered_compiles {routes : List Route} (hadd : empty.addAll routes = .ok table)
    (hr : r ∈ table.routes) (henc : r.Enclosable) (hroom : r.Roomy) {query : Values}
    (hsize : r.compile query ≠ .error (.invalidTemplate r.template (.expression .size))) :
    ∃ c, r.compile query = .ok c ∧ ∀ path, matchRoute? path query r =
      (c.valuesIn? path query).map fun values => ⟨{ r with defaults := c.defaults }, values⟩ := by
  have hcompiles : table.Compiles :=
    Compiles.addAll (fun _ hs => absurd hs List.not_mem_nil) hadd
  obtain ⟨c, hc⟩ := hcompiles r hr
  obtain ⟨d, hd⟩ := Route.exists_compile_of_compile henc hroom hc hsize
  refine ⟨d, hd, fun path => ?_⟩
  unfold matchRoute?
  rw [hd, Option.map_eq_bind]
  rfl

/-- A parameter whose constraint is a letter in as many groups as given. -/
def nestedRoute (depth : Nat) : Route :=
  { template := "{p}".toList
    constraints := .ofList [("p".toList, List.replicate depth '(' ++
      'a' :: List.replicate depth ')')] }

/-- As many groups as there is room for are no reason to skip the route. -/
theorem nestedRoute_registered_compiles :
    ∃ c, (nestedRoute 246).compile (.ofList [("p".toList, "x".toList)]) = .ok c ∧
      ∀ path, matchRoute? path (.ofList [("p".toList, "x".toList)]) (nestedRoute 246) =
        (c.valuesIn? path (.ofList [("p".toList, "x".toList)])).map fun values =>
          ⟨{ nestedRoute 246 with defaults := c.defaults }, values⟩ := by
  have hadd : empty.addAll [nestedRoute 246] = .ok ⟨[nestedRoute 246]⟩ := by decide +kernel
  have henc : (nestedRoute 246).Enclosable := Route.enclosable_of_values (by decide +kernel)
  have hroom : (nestedRoute 246).Roomy := Route.roomy_of_values (by decide +kernel)
  have hsize : ((nestedRoute 246).compile (.ofList [("p".toList, "x".toList)])).map (·.pattern) ≠
      .error (.invalidTemplate "{p}".toList (.expression .size)) := by decide +kernel
  refine registered_compiles hadd List.mem_cons_self henc hroom fun herror => hsize ?_
  rw [herror]
  rfl

/-- With one more group, the route is registered, but it does not compile for a request with a query
value for its parameter, and is skipped. -/
theorem nestedRoute_skipped :
    empty.add (nestedRoute 247) = .ok ⟨[nestedRoute 247]⟩ ∧
    (nestedRoute 247).compile (.ofList [("p".toList, "x".toList)]) =
      .error (.invalidTemplate "{p}".toList (.expression .nesting)) ∧
    RouteTable.resolve ⟨[nestedRoute 247]⟩ "a".toList (.ofList [("p".toList, "x".toList)]) =
      none := by
  have herror : ((nestedRoute 247).compile (.ofList [("p".toList, "x".toList)])).map (·.pattern) =
      .error (.invalidTemplate "{p}".toList (.expression .nesting)) := by decide +kernel
  refine ⟨by decide +kernel, ?_, by decide +kernel⟩
  cases hcompile : (nestedRoute 247).compile (.ofList [("p".toList, "x".toList)]) with
  | ok c =>
    rw [hcompile] at herror
    cases herror
  | error e =>
    rw [hcompile] at herror
    exact congrArg Except.error (Except.error.inj herror)

end RouteTable

end PathRouting
