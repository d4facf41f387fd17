import PathRouting.Proofs.Route.Loosening
import PathRouting.Proofs.RouteTable.Precedence

/-!
# Which query values matter

The query string is consulted in three places: a value of it lets a parameter be absent from the
path, stands in the outline, and stands in for a value that the path does not give. Each of them
asks for parameters of the route only and takes an empty value for none. So two query strings that
agree on the parameters of a table get the same answers from it.
-/

namespace PathRouting

namespace Segment

variable {segments : List Segment} {query other : Values}

/-- The outline of a row of segments depends on the query values of its parameters only. -/
theorem joinedOutline_congr
    (h : ∀ name ∈ segments.filterMap (·.name), query.nonempty? name = other.nonempty? name) :
    joinedOutline query segments = joinedOutline other segments := by
  unfold joinedOutline
  congr 1
  refine List.flatMap_congr fun s hs => ?_
  have hvalue : outlineValue query s = outlineValue other s := by
    unfold outlineValue
    split
    · rename_i name hname
      rw [h name (List.mem_filterMap.mpr ⟨s, hs, hname⟩)]
    · rfl
  unfold outlineOf
  rw [hvalue]

/-- The values that are found in a path depend on the query values of the parameters only. -/
theorem valuesIn?_congr {regex : Regex} {path : Text}
    (h : ∀ name ∈ segments.filterMap (·.name), query.nonempty? name = other.nonempty? name) :
    valuesIn? regex segments path query = valuesIn? regex segments path other := by
  have hvalue : ∀ m, ∀ name ∈ segments.filterMap (·.name),
      value? m query name = value? m other name := by
    intro m name hname
    unfold value?
    rw [h name hname]
  unfold valuesIn?
  cases regex.search path with
  | none => rfl
  | some m =>
    rw [Option.bind_eq_bind, Option.bind_some, Option.bind_eq_bind, Option.bind_some]
    congr 1
    refine mapM_congr_of_mem fun name hname => ?_
    rw [hvalue m name hname]

end Segment

namespace Route

variable {r : Route} {query other : Values}

/-- A route compiles alike, or fails alike, for query values that agree on its parameters. -/
theorem compile_eq_of_agree
    (h : ∀ name, r.HasParameter name → query.nonempty? name = other.nonempty? name) :
    r.compile query = r.compile other := by
  cases ht : Template.parse (Text.trim '/' r.template) with
  | error e =>
    unfold compile
    rw [ht]
    rfl
  | ok t =>
    have hagree : ∀ p ∈ t.placeholders, query.nonempty? p.name = other.nonempty? p.name :=
      fun p hp => h p.name ⟨t, ht, p, hp, rfl⟩
    cases hcheck : r.check t.layout with
    | error e =>
      have hrefused : ∀ values, r.segments t.escapeLiterals values = .error e := by
        intro values
        unfold Route.segments
        dsimp only
        rw [Template.layout_escapeLiterals, check_escape, hcheck]
        rfl
      unfold compile
      rw [ht]
      change r.segments _ _ >>= _ = r.segments _ _ >>= _
      rw [hrefused, hrefused]
      rfl
    | ok =>
      have hsegments : r.templateSegments query t = r.templateSegments other t := by
        refine templateSegments_congr fun p hp => ?_
        unfold isOptional
        rw [hagree p hp]
      have houtline : Segment.joinedOutline query ((r.templateSegments other t).map Segment.escape) =
          Segment.joinedOutline other ((r.templateSegments other t).map Segment.escape) := by
        refine Segment.joinedOutline_congr fun name hname => ?_
        rw [filterMap_name_templateSegments] at hname
        obtain ⟨p, hp, rfl⟩ := List.mem_map.mp hname
        exact hagree p hp
      rw [compile_eq ht hcheck rfl, compile_eq ht hcheck rfl, hsegments, houtline]

end Route

namespace RouteTable

variable {table : RouteTable} {r : Route} {path : Text} {query other : Values}

/-- A route matches alike for query values that agree on its parameters. -/
theorem matchRoute?_eq_of_agree
    (h : ∀ name, r.HasParameter name → query.nonempty? name = other.nonempty? name) :
    matchRoute? path query r = matchRoute? path other r := by
  unfold matchRoute?
  rw [Route.compile_eq_of_agree h]
  cases hc : r.compile other with
  | error e => rfl
  | ok c =>
    obtain ⟨t, ht, -⟩ := Route.compile_eq_ok hc
    have hvalues : c.valuesIn? path query = c.valuesIn? path other := by
      refine Segment.valuesIn?_congr fun name hname => ?_
      rw [Route.filterMap_name_of_compile ht hc] at hname
      obtain ⟨p, hp, rfl⟩ := List.mem_map.mp hname
      exact h p.name ⟨t, ht, p, hp, rfl⟩
    rw [Except.toOption, Option.bind_eq_bind, Option.bind_some, Option.bind_eq_bind,
      Option.bind_some, hvalues]

/-- Query values of other names than those of parameters of a table play no part in its answers, and
an empty value counts as none: where two query strings give the same values that are not empty to the
parameters of the routes, the answers are the same. -/
theorem resolve_eq_of_agree (h : ∀ r ∈ table.routes, ∀ name, r.HasParameter name →
    query.nonempty? name = other.nonempty? name) (path : Text) :
    table.resolve path query = table.resolve path other := by
  unfold resolve
  generalize table.routes = routes at h
  induction routes with
  | nil => rfl
  | cons r rest ih =>
    obtain ⟨hr, hrest⟩ := List.forall_mem_cons.mp h
    rw [List.findSome?_cons, List.findSome?_cons, matchRoute?_eq_of_agree hr, ih hrest]

/-- A table with a parameter that may be absent and, behind it, one that is required. -/
def searchTable : RouteTable :=
  ⟨[{ template := "/search/{term?}".toList }, { template := "{section}/{page}".toList }]⟩

/-- A query string with a name that no parameter has, and with a parameter that has no text. -/
def sortedQuery : Values :=
  .ofList [("term".toList, "rust".toList), ("sort".toList, "asc".toList), ("page".toList, [])]

/-- Neither of these two values shows in the answer. -/
theorem searchTable_resolve_eq_of_agree :
    searchTable.resolve "/search".toList sortedQuery =
        searchTable.resolve "/search".toList (.ofList [("term".toList, "rust".toList)]) ∧
      (searchTable.resolve "/search".toList sortedQuery).map (·.values) =
        some (.ofList [("term".toList, "rust".toList)]) := by
  have hfirst : Template.parse "search/{term?}".toList = .ok
      [.literal "search/".toList, .placeholder ⟨"term".toList, .optional⟩] := by decide +kernel
  have hsecond : Template.parse "{section}/{page}".toList = .ok
      [.placeholder ⟨"section".toList, .none⟩, .literal "/".toList,
        .placeholder ⟨"page".toList, .none⟩] := by decide +kernel
  have hagree : ∀ name ∈ ["term".toList, "section".toList, "page".toList],
      sortedQuery.nonempty? name = Values.nonempty? (.ofList [("term".toList, "rust".toList)]) name := by
    decide +kernel
  refine ⟨resolve_eq_of_agree (fun r hr name hname => hagree name ?_) _, by decide +kernel⟩
  obtain ⟨t, ht, p, hp, rfl⟩ := hname
  rcases List.mem_cons.mp hr with rfl | hr
  · obtain rfl := Except.ok.inj (hfirst.symm.trans ht)
    obtain rfl := List.mem_singleton.mp hp
    exact List.mem_cons_self
  · obtain rfl := List.mem_singleton.mp hr
    obtain rfl := Except.ok.inj (hsecond.symm.trans ht)
    exact List.mem_cons_of_mem _ (List.mem_map_of_mem hp)

end RouteTable

end PathRouting
