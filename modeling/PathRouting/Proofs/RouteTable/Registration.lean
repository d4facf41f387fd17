import PathRouting.Proofs.Route.Faults
import PathRouting.Proofs.Run
import PathRouting.Proofs.Template.OuterSlashes
import PathRouting.RouteTable.Call

/-!
# What a route table holds

A table that has been filled by calls holds the routes that it has accepted, in the order of the
calls. Each of them is well formed, and no two of them have the same name, so a route that has a
name is found by it from then on.
-/

namespace PathRouting

/-- A route has a given template, in which nothing is at fault. -/
structure Route.WellFormed (r : Route) (t : Template) : Prop where
  /-- The template can be read. -/
  parsed : Template.parse r.template = .ok t
  /-- No two placeholders have the same name. -/
  names : (t.placeholders.map (·.name)).Nodup
  /-- There is text between any two placeholders. -/
  apart : t.Apart
  /-- A default is given in the placeholder or in the route, and not in both. -/
  defaults : r.DefaultsApart t.placeholders

namespace Route

variable {r : Route} {t : Template} {query : Values} {c : CompiledRoute}

/-- The template of a route that compiles has no faults. -/
theorem exists_wellFormed_of_compile (hc : r.compile query = .ok c) : ∃ t, r.WellFormed t := by
  obtain ⟨t, ht, hcheck, -⟩ := Route.compile_eq_ok hc
  have hfaultless : r.Faultless t := (check_eq_ok_iff ht).mp hcheck
  have hnames : (t.placeholders.map (·.name)).Nodup := by
    rw [← filterMap_name_of_compile ht hc]
    exact nodup_names_of_compile hc
  -- The template is checked without its outer slashes, but none of this depends on them.
  obtain ⟨whole, hwhole, hwidens⟩ := Template.exists_parse_of_parse_trim ht
  refine ⟨whole, hwhole, ?_, hwidens.apart hfaultless.apart, ?_⟩
  · rwa [hwidens.placeholders]
  · rw [hwidens.placeholders]
    exact hfaultless.defaultsApart

end Route

namespace RouteTable

/-- What holds of every table that has been filled by calls. -/
structure Sound (t : RouteTable) : Prop where
  /-- No two routes have the same name. -/
  names : (t.routes.filterMap (·.name)).Nodup
  /-- The routes are well formed. -/
  routes : ∀ r ∈ t.routes, ∃ template, r.WellFormed template

variable {t : RouteTable} {r : Route}

/-- The table without routes is sound. -/
theorem Sound.empty : (∅ : RouteTable).Sound :=
  ⟨List.nodup_nil, fun _ hr => absurd hr List.not_mem_nil⟩

/-- A route has a new name if no route of the table has that name. -/
theorem hasNameOf_eq_false_iff :
    t.hasNameOf r = false ↔ ∀ name, r.name = some name → name ∉ t.routes.filterMap (·.name) := by
  unfold hasNameOf find?
  cases hname : r.name with
  | none => simp
  | some name => simp

/-- A route that is accepted leaves a sound table sound. -/
theorem Sound.add (h : t.Sound) {bigger : RouteTable} (hadd : t.add r = .ok bigger) :
    bigger.Sound := by
  obtain ⟨hnew, ⟨c, hc⟩, rfl⟩ := add_eq_ok_iff.mp hadd
  refine ⟨?_, fun s hs => ?_⟩
  · rw [List.filterMap_append]
    cases hname : r.name with
    | none =>
      rw [List.filterMap_cons_none hname, List.filterMap_nil, List.append_nil]
      exact h.names
    | some name =>
      rw [List.filterMap_cons_some hname, List.filterMap_nil, List.nodup_append_comm]
      exact List.nodup_cons.mpr ⟨hasNameOf_eq_false_iff.mp hnew name hname, h.names⟩
  · rcases List.mem_append.mp hs with hs | hs
    · exact h.routes s hs
    · obtain rfl := List.mem_singleton.mp hs
      exact Route.exists_wellFormed_of_compile hc

/-- A call registers the route that it offers behind all others, or it leaves the table as it is. -/
inductive Step (t : RouteTable) (call : Call) : Prop
  /-- The route that is offered is accepted. -/
  | accepted {r : Route} (hroute : call.accepted? (t.answer call).1 = some r)
    (hadd : t.add r = .ok ⟨t.routes ++ [r]⟩)
    (hanswer : t.answer call = (.accepted, ⟨t.routes ++ [r]⟩))
  /-- No route is offered, or it is not accepted. -/
  | same (hnone : call.accepted? (t.answer call).1 = none) (hanswer : (t.answer call).1 ≠ .accepted)
    (hsame : (t.answer call).2 = t)

/-- A call that offers a route registers it if the table can be given it. -/
theorem step_of_offered {call : Call} (hoffered : call.offered? = some r)
    (hanswer : t.answer call = t.outcome (t.add r)) : t.Step call := by
  cases hadd : t.add r with
  | error e =>
    rw [hadd] at hanswer
    have hrefused : (t.answer call).1 = .refused e := congrArg Prod.fst hanswer
    refine .same ?_ ?_ (congrArg Prod.snd hanswer)
    · rw [hrefused]
      rfl
    · rw [hrefused]
      exact nofun
  | ok bigger =>
    obtain ⟨-, -, rfl⟩ := add_eq_ok_iff.mp hadd
    rw [hadd] at hanswer
    refine .accepted ?_ hadd hanswer
    rw [hanswer]
    exact hoffered

/-- What a call can do to a table. -/
theorem step (t : RouteTable) (call : Call) : t.Step call := by
  cases call with
  | add r => exact step_of_offered rfl rfl
  | addRoute name template defaults constraints => exact step_of_offered rfl rfl
  | resolve path query => exact .same rfl nofun rfl
  | find name => exact .same rfl nofun rfl

/-- Calls leave a sound table sound. -/
theorem Sound.after (h : t.Sound) (calls : List Call) : (t.after calls).Sound := by
  refine Run.after_preserves (fun t call ht => ?_) h calls
  cases t.step call with
  | accepted hroute hadd hanswer =>
    rw [hanswer]
    exact ht.add hadd
  | same hnone hanswer hsame =>
    rw [hsame]
    exact ht

/-- The routes of a table that has been filled by calls compile. -/
theorem exists_compile_of_mem_after {calls : List Call} {r : Route}
    (hr : r ∈ (after ∅ calls).routes) : ∃ c, r.compile ∅ = .ok c := by
  refine Run.after_preserves (P := fun t : RouteTable => ∀ r ∈ t.routes, ∃ c, r.compile ∅ = .ok c)
    (fun t call ht => ?_) (fun r hr => absurd hr List.not_mem_nil) calls r hr
  cases t.step call with
  | @accepted r hroute hadd hanswer =>
    rw [hanswer]
    refine List.forall_mem_append.mpr ⟨ht, List.forall_mem_singleton.mpr ?_⟩
    exact (add_eq_ok_iff.mp hadd).2.1
  | same hnone hanswer hsame =>
    rw [hsame]
    exact ht

/-- The routes that calls have registered stand behind those of the table, in their order. -/
theorem routes_after (t : RouteTable) (calls : List Call) :
    (t.after calls).routes = t.routes ++
      (calls.zip (t.answers calls)).filterMap fun (call, answer) => call.accepted? answer := by
  refine Run.log_after (fun t call => ?_) t calls
  cases t.step call with
  | accepted hroute hadd hanswer => rw [hroute, hanswer, Option.toList_some]
  | same hnone hanswer hsame => rw [hnone, hsame, Option.toList_none, List.append_nil]

/-- A route with a name is the one that is found by it. -/
theorem Sound.find?_eq_some (h : t.Sound) (hr : r ∈ t.routes) {name : Text}
    (hname : r.name = some name) : t.find? name = some r := by
  obtain ⟨front, back, hroutes⟩ := List.append_of_mem hr
  have hnodup := h.names
  rw [hroutes, List.filterMap_append, List.filterMap_cons_some hname, List.nodup_append] at hnodup
  have hfront : ∀ d ∈ front, ¬(d.name == some name) = true := by
    intro d hd heq
    have hmem : name ∈ front.filterMap (·.name) :=
      List.mem_filterMap.mpr ⟨d, hd, beq_iff_eq.mp heq⟩
    exact hnodup.2.2 name hmem name List.mem_cons_self rfl
  have hfound : (r :: back).find? (fun r => r.name == some name) = some r :=
    List.find?_cons_of_pos (beq_iff_eq.mpr hname)
  unfold find?
  rw [hroutes, List.find?_append, List.find?_eq_none.mpr hfront, Option.none_or, hfound]

/-- What a table holds after calls, whatever they are and whatever has been answered. Its routes are
those that have been accepted, in the order of the calls. No two of them have the same name, and all
of them are well formed. A call by which no route is accepted leaves the table as it is. A route
with a name is found by it, also after any further calls. -/
theorem after_empty_sound (calls : List Call) :
    (after ∅ calls).routes = ((calls.zip (answers ∅ calls)).filterMap fun (call, answer) =>
      call.accepted? answer) ∧
    ((after ∅ calls).routes.filterMap (·.name)).Nodup ∧
    (∀ r ∈ (after ∅ calls).routes, ∃ template, r.WellFormed template) ∧
    (∀ call, ((after ∅ calls).answer call).1 ≠ .accepted →
      ((after ∅ calls).answer call).2 = after ∅ calls) ∧
    ∀ r ∈ (after ∅ calls).routes, ∀ name, r.name = some name → ∀ later,
      (after ∅ (calls ++ later)).find? name = some r := by
  have hsound : (after ∅ calls).Sound := Sound.empty.after calls
  refine ⟨routes_after ∅ calls, hsound.names, hsound.routes, fun call hcall => ?_,
    fun r hr name hname later => ?_⟩
  · cases (after ∅ calls).step call with
    | accepted hroute hadd hanswer =>
      rw [hanswer] at hcall
      exact absurd rfl hcall
    | same hnone hanswer hsame => exact hsame
  · have happend : after ∅ (calls ++ later) = (after ∅ calls).after later :=
      Run.after_append ∅ calls later
    rw [happend]
    refine (hsound.after later).find?_eq_some ?_ hname
    rw [routes_after]
    exact List.mem_append_left _ hr

end RouteTable

end PathRouting
