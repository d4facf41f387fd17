import PathRouting.Proofs.Route.Acceptance
import PathRouting.Proofs.Route.Components
import PathRouting.Proofs.Segment.Filling

/-!
# Paths that a template makes

A route without constraints takes apart the paths that its template makes of texts for the
parameters: whatever the texts are, the values are the texts again. The query values make no
difference to that.
-/

namespace PathRouting

/-- Steps that always give something give a list. -/
theorem mapM_eq_some_map {α β : Type} {f : α → Option β} {g : α → β} {l : List α}
    (h : ∀ a ∈ l, f a = some (g a)) : l.mapM f = some (l.map g) := by
  induction l with
  | nil => rfl
  | cons a l ih =>
    obtain ⟨ha, hl⟩ := List.forall_mem_cons.mp h
    rw [List.mapM_cons, ha, ih hl]
    rfl

section

variable {query : Values} {assign : Text → Text}

/-- Where every parameter has its text in the path or else in the query string, the texts are
delivered. -/
theorem delivered?_eq_of_forall {taken : List (Text × Text)}
    (h : ∀ p ∈ taken, (if p.2.isEmpty then query.nonempty? p.1 else Percent.decode? p.2) =
      some (assign p.1)) :
    delivered? query taken = some (.ofList (taken.map fun p => (p.1, assign p.1))) := by
  unfold delivered?
  rw [mapM_eq_some_map (g := fun p => some (p.1, assign p.1))]
  · rw [Option.bind_eq_bind, Option.bind_some]
    congr 2
    rw [List.filterMap_map]
    exact congrFun (List.filterMap_eq_map (f := fun p => (p.1, assign p.1))) taken
  · intro p hp
    have hvalue := h p hp
    dsimp only
    split at hvalue
    · rename_i hempty
      rw [if_pos hempty, hvalue]
      rfl
    · rename_i hempty
      rw [if_neg hempty, hvalue]
      rfl

/-- Encoded texts that are not empty are delivered as the texts, and so are texts of the query string
for parameters that are absent from the path. -/
theorem delivered?_append {front back : List Text} (hfront : ∀ name ∈ front, assign name ≠ [])
    (hback : ∀ name ∈ back, query.nonempty? name = some (assign name)) :
    delivered? query
        ((front.map fun name => (name, Percent.encode (assign name))) ++ back.map (·, [])) =
      some (.ofList ((front ++ back).map fun name => (name, assign name))) := by
  rw [delivered?_eq_of_forall, List.map_append, List.map_append, List.map_map, List.map_map]
  · rfl
  · rw [List.forall_mem_append]
    constructor
    · intro p hp
      obtain ⟨name, hname, rfl⟩ := List.mem_map.mp hp
      have hne : (Percent.encode (assign name)).isEmpty = false := by
        rw [List.isEmpty_eq_false_iff, ne_eq, Percent.encode_eq_nil_iff]
        exact hfront name hname
      rw [hne, if_neg Bool.false_ne_true, Percent.decode?_encode]
    · intro p hp
      obtain ⟨name, hname, rfl⟩ := List.mem_map.mp hp
      exact hback name hname

/-- Encoded texts that are not empty are delivered as the texts. -/
theorem delivered?_encode {names : List Text} (hassign : ∀ name ∈ names, assign name ≠ []) :
    delivered? query (names.map fun name => (name, Percent.encode (assign name))) =
      some (.ofList (names.map fun name => (name, assign name))) := by
  have hdelivered : delivered? query (_ ++ ([] : List Text).map (·, [])) = _ :=
    delivered?_append hassign nofun
  rwa [List.map_nil, List.append_nil, List.append_nil] at hdelivered

end

section

variable {r : Route} {query : Values} {c : CompiledRoute} {t : Template}

/-- Texts that are not empty for the placeholders are so for the segments. -/
theorem Route.assign_ne_nil_of_compile {assign : Text → Text}
    (ht : Template.parse (Text.trim '/' r.template) = .ok t) (hc : r.compile query = .ok c)
    (hassign : ∀ p ∈ t.placeholders, assign p.name ≠ []) :
    ∀ s ∈ c.segments, ∀ name, s.name = some name → assign name ≠ [] := by
  intro s hs name hname
  have hmem : name ∈ c.segments.filterMap (·.name) := List.mem_filterMap.mpr ⟨s, hs, hname⟩
  rw [filterMap_name_of_compile ht hc] at hmem
  obtain ⟨p, hp, rfl⟩ := List.mem_map.mp hmem
  exact hassign p hp

/-- The path that an unglued template makes is the one that its segments make. -/
theorem filledPath_eq_substitute {assign : Text → Text}
    (ht : Template.parse (Text.trim '/' r.template) = .ok t) (hglue : t.Unglued)
    (hempty : t.NoEmptyComponent) (hc : r.compile query = .ok c)
    (hassign : ∀ p ∈ t.placeholders, assign p.name ≠ []) :
    filledPath assign c.segments = t.substitute assign := by
  obtain ⟨-, hwhole⟩ := Route.whole_of_compile ht hglue hc
  have hcomponents := Route.flatMap_components_of_compile ht hglue hempty hc
  have hne : c.segments ≠ [] := by
    intro hnil
    rw [hnil] at hcomponents
    exact List.splitOn_ne_nil _ _ (List.map_eq_nil_iff.mp hcomponents.symm)
  have hsplit : (filledPath assign c.segments).splitOn '/' =
      (t.substitute assign).splitOn '/' := by
    rw [splitOn_filledPath hne hwhole (Route.assign_ne_nil_of_compile ht hc hassign), hcomponents,
      Template.splitOn_substitute hglue]
  have hjoin : ∀ path : Text, ['/'].intercalate (path.splitOn '/') = path :=
    fun _ => List.intercalate_splitOn '/'
  rw [← hjoin (filledPath assign c.segments), hsplit, hjoin]

/-- A route without constraints whose placeholders are parted by slashes matches each path that its
template makes of texts that are not empty, and gives these texts as the values. -/
theorem valuesIn?_substitute {assign : Text → Text} (hr : r.ConstraintFree)
    (ht : Template.parse (Text.trim '/' r.template) = .ok t) (hglue : t.Unglued)
    (hempty : t.NoEmptyComponent) (hc : r.compile query = .ok c)
    (hassign : ∀ p ∈ t.placeholders, assign p.name ≠ []) :
    c.valuesIn? (t.substitute assign) query =
      some (.ofList (t.placeholders.map fun p => (p.name, assign p.name))) := by
  obtain ⟨hmarked, hwhole⟩ := Route.whole_of_compile ht hglue hc
  have hcut := head?_cuts_filledPath hmarked hwhole (Route.assign_ne_nil_of_compile ht hc hassign)
  rw [valuesIn?_eq_delivered? hr hc, ← filledPath_eq_substitute ht hglue hempty hc hassign, hcut,
    Option.map_some, Option.bind_some, captured_filledShares, Route.filterMap_name_of_compile ht hc,
    delivered?_encode, List.map_map]
  · rfl
  · intro name hname
    obtain ⟨p, hp, rfl⟩ := List.mem_map.mp hname
    exact hassign p hp

/-- A route without constraints that compiles for one request gives back, for every request, the
texts that are not empty of which its template makes a path. It compiles for every request for which
its expression does not become too large. -/
theorem accepted_values_substitute {assign : Text → Text} (hr : r.ConstraintFree)
    (ht : Template.parse (Text.trim '/' r.template) = .ok t) (hglue : t.Unglued)
    (hempty : t.NoEmptyComponent) (hc : r.compile query = .ok c)
    (hassign : ∀ p ∈ t.placeholders, assign p.name ≠ []) (other : Values) :
    (∀ d, r.compile other = .ok d → d.valuesIn? (t.substitute assign) other =
      some (.ofList (t.placeholders.map fun p => (p.name, assign p.name)))) ∧
    (r.compile other ≠ .error (.invalidTemplate r.template (.expression .size)) →
      ∃ d, r.compile other = .ok d) :=
  ⟨fun _ hd => valuesIn?_substitute hr ht hglue hempty hd hassign,
    Route.exists_compile_of_compile hr.enclosable hr.roomy hc⟩

/-- A route with text around a value, braces in its text and a parameter that may be absent. -/
def noteRoute : Route :=
  { template := "/by-{user}/{{note}}/{page?}/".toList }

/-- What the template of the route is read as. -/
def noteTemplate : Template :=
  [.literal "by-".toList, .placeholder ⟨"user".toList, .none⟩, .literal "/{note}/".toList,
    .placeholder ⟨"page".toList, .optional⟩]

/-- Texts for the parameters of the route, with characters that are written in encoded form. -/
def noteValues (name : Text) : Text :=
  if name = "user".toList then "a/b 100%".toList else "é?".toList

/-- Encoded slashes and signs stay inside the values, also if the query string has other ones. -/
theorem noteRoute_values_eq : ∃ c, noteRoute.compile (.ofList [("user".toList, "z".toList)]) = .ok c ∧
    c.valuesIn? "by-a%2Fb%20100%25/{note}/%C3%A9%3F".toList
        (.ofList [("user".toList, "z".toList)]) =
      some (.ofList [("user".toList, "a/b 100%".toList), ("page".toList, "é?".toList)]) := by
  have hany : (noteRoute.compile ∅).toOption.any (fun _ => true) = true := by decide +kernel
  obtain ⟨accepted, haccepted, -⟩ := exists_ok_of_any_toOption hany
  have ht : Template.parse (Text.trim '/' noteRoute.template) = .ok noteTemplate := by
    decide +kernel
  have hglue : noteTemplate.Unglued := by
    unfold Template.Unglued
    decide
  have hempty : noteTemplate.NoEmptyComponent := by
    unfold Template.NoEmptyComponent
    decide
  have hpath : noteTemplate.substitute noteValues = "by-a%2Fb%20100%25/{note}/%C3%A9%3F".toList := by
    decide +kernel
  have hsize : (noteRoute.compile (.ofList [("user".toList, "z".toList)])).map (·.pattern) ≠
      .error (.invalidTemplate noteRoute.template (.expression .size)) := by decide +kernel
  have hassign : ∀ p ∈ noteTemplate.placeholders, noteValues p.name ≠ [] := by decide
  obtain ⟨hvalues, hcompiles⟩ := accepted_values_substitute (fun _ _ _ _ => rfl) ht hglue hempty
    haccepted hassign (.ofList [("user".toList, "z".toList)])
  obtain ⟨c, hc⟩ := hcompiles fun herror => hsize (by rw [herror]; rfl)
  refine ⟨c, hc, ?_⟩
  rw [← hpath, hvalues c hc]
  decide +kernel

end

end PathRouting
