import PathRouting.Proofs.Json.Scanning
import PathRouting.Proofs.RouteTable.Registration
import PathRouting.Proofs.Service.History
import PathRouting.Proofs.Settings.Reading

/-!
# Registering exported routes

The service shows a route as an object that is read as a definition of the route, and a route that has
been accepted once is accepted by a table that does not have its name. So the routes of a table can be
registered again from what is shown of them, except for those whose objects are too long for the body
of a request.
-/

namespace PathRouting

open Json.Token (Spells)

namespace Settings

/-- The definition that a route is shown as. -/
def ofRoute (r : Route) : Settings :=
  ⟨r.name, r.template, r.defaults.map (·.value?), r.constraints⟩

/-- A route is described by the definition that it is shown as. -/
theorem toRoute_ofRoute (r : Route) : (ofRoute r).toRoute = r := by
  have hdefault : ∀ d : ParameterDefault, toDefault d.value? = d := fun d => by cases d <;> rfl
  have hdefaults : (r.defaults.map (·.value?)).map toDefault = r.defaults := by
    refine Dict.ext ?_
    change (r.defaults.toList.map _).map _ = _
    rw [List.map_map]
    exact List.map_id'' (fun p => by simp [hdefault]) _
  unfold toRoute ofRoute
  rw [hdefaults]

end Settings

namespace Service

open Settings (definition? Draft)

/-- The object that shows a route is cut into its tokens. -/
theorem spells_routeJson (r : Route) : Spells (routeJson r).render (routeJson r).tokens := by
  have hdefaults : Spells (defaultsJson r.defaults).render (defaultsJson r.defaults).tokens := by
    refine Json.spells_ofDict (fun d => ?_) r.defaults
    cases d with
    | value text => exact Json.spells_string text
    | optional => exact Json.spells_null
  refine Json.spells_object fun p hp => ?_
  rcases List.mem_append.mp hp with hp | hp
  · obtain ⟨name, -, rfl⟩ := Option.map_eq_some_iff.mp (Option.mem_toList.mp hp)
    exact Json.spells_string name
  · simp only [List.mem_cons, List.not_mem_nil, or_false] at hp
    rcases hp with rfl | rfl | rfl
    · exact Json.spells_string r.template
    · exact hdefaults
    · exact Json.spells_ofDict Json.spells_string r.constraints

/-- The entries behind the name of a route give a definition all fields but the name. -/
theorem withEntry?_others (r : Route) (name : Option (Option Text)) :
    [("template".toList, Json.string r.template), ("defaults".toList, defaultsJson r.defaults),
        ("constraints".toList, Json.ofDict .string r.constraints)].foldlM Draft.withEntry? { name } =
      some { name
             template := some r.template
             defaults := some (r.defaults.map (·.value?))
             constraints := some r.constraints } := by
  have hshown : defaultsJson r.defaults = Json.ofDict Json.ofText? (r.defaults.map (·.value?)) := by
    unfold defaultsJson Json.ofDict Dict.map
    rw [List.map_map]
    rfl
  have htext (t : Option Text) : (Json.ofText? t).optionalText? = some t := by
    cases t <;> rfl
  have hdefaults := Json.dict?_ofDict htext (r.defaults.map (·.value?))
  have hconstraints : (Json.ofDict .string r.constraints).dict? Json.text? = some r.constraints :=
    Json.dict?_ofDict (f := .string) (fun _ => rfl) r.constraints
  -- The fields are told by their names, so that only the values of the maps are left to be read.
  rw [hshown]
  change (((Json.ofDict Json.ofText? _).dict? Json.optionalText?).map _).bind _ = _
  rw [hdefaults]
  change (((Json.ofDict Json.string _).dict? Json.text?).map _).bind _ = _
  rw [hconstraints]
  rfl

/-- The object that shows a route makes up the definition of the route. -/
theorem definition?_shown (r : Route) :
    definition? ((r.name.map fun name => ("name".toList, Json.string name)).toList
      ++ [("template".toList, .string r.template), ("defaults".toList, defaultsJson r.defaults),
        ("constraints".toList, Json.ofDict .string r.constraints)]) = some (.ofRoute r) := by
  unfold definition? Settings.ofRoute
  cases r.name with
  | none =>
    rw [Option.map_none, Option.toList_none, List.nil_append, withEntry?_others]
    rfl
  | some name =>
    have hname : Draft.withEntry? {} ("name".toList, .string name) =
        some { name := some (some name) } := rfl
    rw [Option.map_some, Option.toList_some, List.singleton_append, List.foldlM_cons, hname,
      Option.bind_eq_bind, Option.bind_some, withEntry?_others]
    rfl

/-- The object that shows a route is read as the definition of the route. -/
theorem parse_routeJson (r : Route) : Settings.parse (routeJson r).render = .ok (.ofRoute r) := by
  unfold Settings.parse
  rw [(spells_routeJson r).scan_eq, routeJson]
  exact Settings.eq_ok_of_toOption
    ((Settings.Parse.toOption_ofTokens_object _).trans (definition?_shown r))

/-- A request to see the table. -/
def listing : Request :=
  { uri := ⟨tablePath, none⟩ }

/-- A request that registers what is shown of a route. -/
def posting (item : Json) : Request :=
  { method := "POST".toList
    uri := ⟨tablePath, none⟩
    contentType := some "application/json".toList
    body := item.render }

/-- Whether what is shown of a route is short enough to be the body of a request. -/
def fits (item : Json) : Bool :=
  Text.utf8Length item.render ≤ bodyLimit

/-- A text has at least as many bytes as it has characters. -/
theorem length_le_utf8Length (t : Text) : t.length ≤ Text.utf8Length t := by
  have hfold : ∀ start, start + t.length ≤
      t.foldl (fun length c => length + c.utf8Size) start := by
    induction t with
    | nil => exact fun start => Nat.le_refl start
    | cons c t ih =>
      intro start
      have hrest := ih (start + c.utf8Size)
      have hbyte := c.utf8Size_pos
      rw [List.length_cons, List.foldl_cons]
      omega
  exact (Nat.le_of_eq (Nat.zero_add _).symm).trans (hfold 0)

/-- A text in quotes is longer than the text. -/
theorem length_lt_length_quote (t : Text) : t.length < (Json.quote t).length := by
  have hchars : t.length ≤ (t.flatMap Json.encodeChar).length := by
    induction t with
    | nil => exact Nat.le_refl 0
    | cons c t ih =>
      have hchar : 0 < (Json.encodeChar c).length := by
        unfold Json.encodeChar Json.escapeControl
        repeat' split
        all_goals exact Nat.succ_pos _
      rw [List.flatMap_cons, List.length_append, List.length_cons]
      omega
  unfold Json.quote
  rw [List.length_append, List.length_cons]
  omega

/-- What is shown of a route is longer than its name. -/
theorem length_name_lt_length_render {r : Route} {name : Text} (hname : r.name = some name) :
    name.length < (routeJson r).render.length := by
  have hquote := length_lt_length_quote name
  unfold routeJson
  rw [hname, Json.render]
  simp only [Option.map_some, Option.toList_some, List.singleton_append, Json.renderEntries,
    Json.render, List.length_append, List.length_cons]
  omega

/-- A route with a name that is as long as the body of a request may be is shown as an object that is
too long. -/
theorem fits_eq_false_of_name {r : Route} {name : Text} (hname : r.name = some name)
    (hlength : bodyLimit ≤ name.length) : fits (routeJson r) = false := by
  have hrender := length_name_lt_length_render hname
  have hbytes := length_le_utf8Length (routeJson r).render
  exact decide_eq_false (by omega)

/-- The answer to a request that registers what is shown of a route. -/
def postingAnswer (item : Json) : Response :=
  if fits item then ⟨201, some item⟩ else ⟨413, none⟩

/-- The routes of which the shown objects are short enough. -/
def fitting (routes : List Route) : List Route :=
  routes.filter fun r => fits (routeJson r)

/-- The table is shown as a list of its routes. -/
theorem handle_listing (t : RouteTable) :
    (handle t listing).1 = ⟨200, some (.array (t.routes.map routeJson))⟩ := by
  rw [handle_of_get rfl (.inl rfl)]
  rfl

section

variable {t : RouteTable} {r : Route}

/-- A request that registers what is shown of a route has a body in JSON. -/
theorem hasJson_posting (item : Json) : hasJson (posting item) = true := by
  have htype : (MediaType.parse? "application/json".toList).any (·.isJson) = true := by decide
  exact htype

/-- An object that is too long is not read. -/
theorem handle_posting_of_not_fits {item : Json} (h : fits item = false) :
    handle t (posting item) = (⟨413, none⟩, t) := by
  have hlimit : bodyLimit < Text.utf8Length (posting item).body :=
    Nat.lt_of_not_le (of_decide_eq_false h)
  rw [handle_of_post rfl rfl]
  unfold register
  rw [hasJson_posting, if_neg (by decide), if_pos hlimit]

/-- An object that is short enough registers the route that it shows, if the route is accepted. -/
theorem handle_posting_of_fits (h : fits (routeJson r) = true)
    (hadd : t.add r = .ok ⟨t.routes ++ [r]⟩) :
    handle t (posting (routeJson r)) = (⟨201, some (routeJson r)⟩, ⟨t.routes ++ [r]⟩) := by
  have hlimit : ¬bodyLimit < Text.utf8Length (posting (routeJson r)).body :=
    Nat.not_lt_of_le (of_decide_eq_true h)
  have hbody : Settings.parse (posting (routeJson r)).body = .ok (.ofRoute r) := parse_routeJson r
  rw [handle_of_post rfl rfl]
  unfold register
  rw [hasJson_posting, if_neg (by decide), if_neg hlimit, hbody]
  dsimp only
  rw [Settings.toRoute_ofRoute, hadd]

end

/-- Routes that can be accepted one after another are registered from what is shown of them, unless it
is too long. -/
theorem run_posting {t : RouteTable} {routes : List Route}
    (hnames : ((t.routes ++ routes).filterMap (·.name)).Nodup)
    (hcompile : ∀ r ∈ routes, ∃ c, r.compile ∅ = .ok c) :
    answers t ((routes.map routeJson).map posting) = (routes.map routeJson).map postingAnswer ∧
      Run.after handle t ((routes.map routeJson).map posting) =
        ⟨t.routes ++ fitting routes⟩ := by
  induction routes generalizing t with
  | nil => exact ⟨rfl, congrArg RouteTable.mk (List.append_nil _).symm⟩
  | cons r routes ih =>
    rw [List.forall_mem_cons] at hcompile
    rw [List.map_cons, List.map_cons, List.map_cons, answers, Run.answers, Run.after, fitting,
      List.filter_cons, postingAnswer]
    cases hfits : fits (routeJson r) with
    | false =>
      have hrest : ((t.routes ++ routes).filterMap (·.name)).Nodup := by
        refine hnames.sublist (List.Sublist.filterMap _ ?_)
        exact (List.sublist_cons_self r routes).append_left t.routes
      obtain ⟨hanswers, hafter⟩ := ih hrest hcompile.2
      rw [handle_posting_of_not_fits hfits]
      exact ⟨congrArg _ hanswers, hafter⟩
    | true =>
      have hnew : t.hasNameOf r = false := by
        refine RouteTable.hasNameOf_eq_false_iff.mpr fun name hname hmem => ?_
        rw [List.filterMap_append, List.filterMap_cons_some hname, List.nodup_append] at hnames
        exact hnames.2.2 name hmem name List.mem_cons_self rfl
      have hadd : t.add r = .ok ⟨t.routes ++ [r]⟩ :=
        RouteTable.add_eq_ok_iff.mpr ⟨hnew, hcompile.1, rfl⟩
      rw [← List.singleton_append, ← List.append_assoc] at hnames
      obtain ⟨hanswers, hafter⟩ := ih (t := ⟨t.routes ++ [r]⟩) hnames hcompile.2
      rw [handle_posting_of_fits hfits hadd]
      refine ⟨congrArg _ hanswers, hafter.trans ?_⟩
      rw [List.append_assoc]
      rfl

/-- What is shown of a table that has been filled by calls can be registered again. The service shows
the table as a list of items. Registered one after another in an empty table, each item is answered
with status 201 and itself if it is short enough to be the body of a request, and with status 413
otherwise. The new table has the routes of the old one, in their order, except for those whose items
are too long. If no item is too long, it is the same table and every path has the same match. -/
theorem exists_reimport (calls : List RouteTable.Call) :
    ∃ items, (handle (.after ∅ calls) listing).1 = ⟨200, some (.array items)⟩ ∧
      answers ∅ (items.map posting) = items.map postingAnswer ∧
      (Run.after handle ∅ (items.map posting)).routes =
        fitting (RouteTable.after ∅ calls).routes ∧
      ((∀ item ∈ items, fits item = true) →
        Run.after handle ∅ (items.map posting) = .after ∅ calls ∧
        ∀ path query, (Run.after handle ∅ (items.map posting)).resolve path query =
          (RouteTable.after ∅ calls).resolve path query) := by
  have hsound : (RouteTable.after ∅ calls).Sound := RouteTable.Sound.empty.after calls
  have hnames : ((RouteTable.routes ∅ ++ (RouteTable.after ∅ calls).routes).filterMap
      (·.name)).Nodup := hsound.names
  obtain ⟨hanswers, hafter⟩ :=
    run_posting hnames fun r hr => RouteTable.exists_compile_of_mem_after hr
  refine ⟨_, handle_listing _, hanswers, congrArg RouteTable.routes hafter, fun hfits => ?_⟩
  have hall : fitting (RouteTable.after ∅ calls).routes = (RouteTable.after ∅ calls).routes :=
    List.filter_eq_self.mpr fun r hr => hfits _ (List.mem_map_of_mem hr)
  rw [hall] at hafter
  exact ⟨hafter, fun path query => congrArg (·.resolve path query) hafter⟩

/-- Calls that register a route with all extras and one with a default that is empty. -/
def shopCalls : List RouteTable.Call :=
  [.add { name := some "item \"1\"".toList
          template := "/shop/{section}/{item}/".toList
          defaults := .ofList [("section".toList, .optional), ("item".toList, .value [])]
          constraints := .ofList [("item".toList, "a|b".toList)] },
    .add { template := "about\n".toList }]

/-- The routes that the calls have registered are registered again. -/
theorem shopCalls_reimport : ∃ items,
    (handle (.after ∅ shopCalls) listing).1 = ⟨200, some (.array items)⟩ ∧
      Run.after handle ∅ (items.map posting) = .after ∅ shopCalls ∧
      (RouteTable.after ∅ shopCalls).size = 2 := by
  obtain ⟨items, hshown, -, -, hsame⟩ := exists_reimport shopCalls
  obtain ⟨-, hbody⟩ := Response.mk.inj (hshown.symm.trans (handle_listing _))
  have hitems : items = (RouteTable.after ∅ shopCalls).routes.map routeJson :=
    Json.array.inj (Option.some.inj hbody)
  have hfits : ((RouteTable.after ∅ shopCalls).routes.map routeJson).all fits = true := by
    decide +kernel
  refine ⟨items, hshown, (hsame ?_).1, by decide +kernel⟩
  rw [hitems]
  exact List.all_eq_true.mp hfits

/-- A route whose name is as long as the body of a request may be. -/
def longRoute : Route :=
  { name := some (List.replicate bodyLimit 'a'), template := "about".toList }

/-- Not every item that is shown of a table is accepted when it is registered: a route can have a
longer name than the body of a request. -/
theorem longRoute_not_accepted : ¬∀ calls items,
    (handle (.after ∅ calls) listing).1 = ⟨200, some (.array items)⟩ →
      ∀ answer ∈ answers ∅ (items.map posting), answer.status = 201 := by
  intro h
  have hany : (Route.compile { template := "about".toList } ∅).toOption.any (fun _ => true) =
      true := by decide +kernel
  obtain ⟨c, hc, -⟩ := exists_ok_of_any_toOption hany
  have hlong : fits (routeJson longRoute) = false :=
    fits_eq_false_of_name rfl (Nat.le_of_eq List.length_replicate.symm)
  have hadd : RouteTable.add ∅ longRoute = .ok ⟨[longRoute]⟩ :=
    RouteTable.add_eq_ok_iff.mpr ⟨rfl, ⟨c, hc⟩, rfl⟩
  have hafter : RouteTable.after ∅ [.add longRoute] = ⟨[longRoute]⟩ := by
    change ((∅ : RouteTable).outcome (RouteTable.add ∅ longRoute)).2 = _
    rw [hadd]
    rfl
  have hshown : (handle (.after ∅ [.add longRoute]) listing).1 =
      ⟨200, some (.array [routeJson longRoute])⟩ := by
    rw [hafter]
    exact handle_listing _
  have hanswers : answers ∅ [posting (routeJson longRoute)] = [⟨413, none⟩] := by
    rw [answers, Run.answers, handle_posting_of_not_fits hlong]
    rfl
  have hstatus := h _ _ hshown
  rw [List.map_singleton, hanswers] at hstatus
  exact absurd (hstatus _ List.mem_cons_self) (by decide : 413 ≠ 201)

end Service

end PathRouting
