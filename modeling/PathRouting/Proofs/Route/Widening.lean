import PathRouting.Proofs.Route.Acceptance
import PathRouting.Proofs.Route.Loosening

/-!
# Values of the query string widen a route

A value of the query string lets its parameter be absent from the path, which changes what the
parameter takes, the separator behind it and those before it. A path that could be cut into the
shares of the segments still can be. So a route without constraints that matches a path goes on
matching it when the query string gives values to more parameters.
-/

namespace PathRouting

section

variable {r : Route} {query wider : Values} {c d : CompiledRoute}

/-- The expression of a route without constraints matches the paths that can be cut. -/
theorem isSome_search_iff (hr : r.ConstraintFree) (hc : r.compile query = .ok c) (path : Text) :
    (c.regex.search path).isSome = true ↔
      ∃ shares, IsCut Segment.PlainValue c.segments shares path := by
  rw [search_eq_cuts hr hc, Option.isSome_map, List.isSome_head?, ne_eq, List.eq_nil_iff_forall_not_mem,
    not_forall]
  exact exists_congr fun shares => not_not.trans mem_cuts

/-- A path that is matched for some query values is matched where more parameters have one. -/
theorem isSome_search_of_wider (hr : r.ConstraintFree) (hc : r.compile query = .ok c)
    (hd : r.compile wider = .ok d) (hquery : ∀ name, r.HasParameter name →
      (query.nonempty? name).isSome = true → (wider.nonempty? name).isSome = true)
    {path : Text} (h : (c.regex.search path).isSome = true) :
    (d.regex.search path).isSome = true := by
  obtain ⟨shares, hcut⟩ := (isSome_search_iff hr hc path).mp h
  have hloosens := Route.loosens_of_compile hc hd hquery
  refine (isSome_search_iff hr hd path).mpr ⟨shares, hcut.loosen ?_ hloosens⟩
  exact fun hds _ hvalue => hds.plainValue hvalue

/-- Query values only widen a route without constraints: if they give a value to every parameter to
which other ones give a value, every path that the route matches for the others it matches for them.
The route compiles for them unless its expression becomes too large. -/
theorem search_mono_query (hr : r.ConstraintFree) (hc : r.compile query = .ok c)
    (hquery : ∀ name, r.HasParameter name → (query.nonempty? name).isSome = true →
      (wider.nonempty? name).isSome = true) :
    (∀ d, r.compile wider = .ok d → ∀ path, (c.regex.search path).isSome = true →
      (d.regex.search path).isSome = true) ∧
    (r.compile wider ≠ .error (.invalidTemplate r.template (.expression .size)) →
      ∃ d, r.compile wider = .ok d) :=
  ⟨fun _ hd _ h => isSome_search_of_wider hr hc hd hquery h,
    Route.exists_compile_of_compile hr.enclosable hr.roomy hc⟩

/-- A route with a required parameter in each of two components and two that are glued together. -/
def reportRoute : Route :=
  { template := "reports/{year}/{name}.{format}".toList }

/-- A path with a value for each parameter is matched if the query string has some of them too. -/
theorem reportRoute_search_mono_query : ∃ c d,
    reportRoute.compile (.ofList [("format".toList, "pdf".toList)]) = .ok c ∧
    reportRoute.compile (.ofList [("year".toList, "2020".toList), ("format".toList, "txt".toList)]) =
      .ok d ∧
    (c.regex.search "reports/2019/sales.".toList).isSome = true ∧
    (d.regex.search "reports/2019/sales.".toList).isSome = true := by
  have hany : (reportRoute.compile (.ofList [("format".toList, "pdf".toList)])).toOption.any
      (fun c => (c.regex.search "reports/2019/sales.".toList).isSome) = true := by decide +kernel
  obtain ⟨c, hc, hsome⟩ := exists_ok_of_any_toOption hany
  have ht : Template.parse (Text.trim '/' reportRoute.template) = .ok
      [.literal "reports/".toList, .placeholder ⟨"year".toList, .none⟩, .literal "/".toList,
        .placeholder ⟨"name".toList, .none⟩, .literal ".".toList,
        .placeholder ⟨"format".toList, .none⟩] := by decide +kernel
  have hall : ∀ p ∈ [Placeholder.mk "year".toList .none, ⟨"name".toList, .none⟩,
      ⟨"format".toList, .none⟩],
      (Values.nonempty? (.ofList [("format".toList, "pdf".toList)]) p.name).isSome = true →
        (Values.nonempty? (.ofList [("year".toList, "2020".toList), ("format".toList, "txt".toList)])
          p.name).isSome = true := by decide +kernel
  have hsize : (reportRoute.compile (.ofList [("year".toList, "2020".toList),
      ("format".toList, "txt".toList)])).map (·.pattern) ≠
        .error (.invalidTemplate reportRoute.template (.expression .size)) := by decide +kernel
  have hquery : ∀ name, reportRoute.HasParameter name →
      (Values.nonempty? (.ofList [("format".toList, "pdf".toList)]) name).isSome = true →
        (Values.nonempty? (.ofList [("year".toList, "2020".toList), ("format".toList, "txt".toList)])
          name).isSome = true := by
    rintro name ⟨t, ht', p, hp, rfl⟩
    obtain rfl := Except.ok.inj (ht.symm.trans ht')
    exact hall p hp
  obtain ⟨hmono, hcompiles⟩ := search_mono_query (fun _ _ _ _ => rfl) hc hquery
  obtain ⟨d, hd⟩ := hcompiles fun herror => hsize (by rw [herror]; rfl)
  exact ⟨c, d, hc, hd, hsome, hmono d hd _ hsome⟩

end

end PathRouting
