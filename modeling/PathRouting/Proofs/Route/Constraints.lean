import PathRouting.Proofs.Regex.AlikeReadings
import PathRouting.Proofs.Route.Match
import PathRouting.Proofs.RouteTable.Precedence
import PathRouting.Proofs.Segment.Runs
import PathRouting.Proofs.Text.Percent

/-!
# Routes with constraints

What a compiled route finds in a path is a cut of the path into shares of its segments, also with
constraints: a constraint that can be put in parentheses matches the value of its parameter where
the value stands, and changes nothing about the rest. A value that a table delivers is therefore
one whose encoded form was matched by the constraint, or it comes from the query string.
-/

namespace PathRouting

open Regex

/-- The constraints of a route can be put in parentheses. -/
def Route.Enclosable (r : Route) : Prop :=
  ∀ t, Template.parse (Text.trim '/' r.template) = .ok t → ∀ p ∈ t.placeholders,
    ∀ constraint, r.constraints.get? p.name = some constraint →
      Regex.Enclosable pathFlags constraint

/-- The constraints of a route can be put in parentheses if all that are given can. -/
theorem Route.enclosable_of_values {r : Route}
    (h : ∀ constraint ∈ r.constraints.values, Regex.Enclosable pathFlags constraint) :
    r.Enclosable :=
  fun _ _ _ _ constraint hconstraint => h constraint (Dict.mem_values_of_get?_eq_some hconstraint)

/-- The constraints of the placeholders of a route are good ones. -/
def Route.EachConstraint (r : Route) (good : Text → Prop) : Prop :=
  ∀ t, Template.parse (Text.trim '/' r.template) = .ok t → ∀ p ∈ t.placeholders,
    ∀ constraint, r.constraints.get? p.name = some constraint → good constraint

/-- The first share of a cut, and the others behind it. -/
theorem isShareOf_cons {s : Segment} {segments : List Segment} {x y : Share} {shares : List Share}
    {name : Text} {start : Nat} (h : IsShareOf (s :: segments) (x :: shares) name start y) :
    (s.name = some name ∧ y = x ∧ start = x.before.length) ∨
      ∃ later, IsShareOf segments shares name later y ∧ start = x.text.length + later := by
  obtain ⟨i, d, hd, hname, hy, rfl⟩ := h
  cases i with
  | zero =>
    rw [List.getElem?_cons_zero, Option.some.injEq] at hd hy
    subst hd hy
    exact .inl ⟨hname, rfl, by simp⟩
  | succ i =>
    rw [List.getElem?_cons_succ] at hd hy
    exact .inr ⟨_, ⟨i, d, hd, hname, hy, rfl⟩, by simp [Nat.add_assoc]⟩

namespace Segment

variable {constraint? : Text → Option Text}

/-- What a match of a row of segments leaves behind: the values stand where they are bound by their
constraints, and the groups of the parameters remember where that is. -/
structure Traced (constraint? : Text → Option Text) (segments : List Segment)
    (vs : List ValueRead) (t : Text) (place : Nat) (shares : List Share) (new : List (Nat × Nat)) :
    Prop where
  /-- A value is bound by the constraint of its parameter. -/
  bound : ∀ {name start x}, IsShareOf segments shares name start x →
    ∃ s ∈ segments, s.name = some name ∧ s.Bound constraint? t (place + start) x.value
  /-- The bounds of a value are what was last remembered under the number of its group. -/
  remembered : ∀ {name start x}, IsShareOf segments shares name start x →
    ∃ index, (name, index) ∈ vs.flatMap (·.names) ∧
      new.find? (·.1 == 2 * index) = some (2 * index, place + start) ∧
      new.find? (·.1 == 2 * index + 1) = some (2 * index + 1, place + start + x.value.length)

/-- The group of a parameter has the first number. -/
theorem ReadBy.mem_names {s : Segment} {k : Nat} {v : ValueRead} (hv : ReadBy constraint? s k v)
    {name : Text} (hname : s.name = some name) : (name, k) ∈ v.names ∧ k < v.nextIndex := by
  cases hv with
  | plain h =>
    unfold plainRead
    rw [hname]
    exact ⟨List.mem_singleton_self _, Nat.lt_succ_self k⟩
  | constrained hname' _ _ hnext _ =>
    rw [hname, Option.some.injEq] at hname'
    subst hname'
    exact ⟨List.mem_cons_self, Nat.lt_add_of_pos_left hnext⟩

/-- Numbers of groups are only given once. -/
theorem ReadBy.le_nextIndex {s : Segment} {k : Nat} {v : ValueRead}
    (hv : ReadBy constraint? s k v) : k ≤ v.nextIndex := by
  cases hname : s.name with
  | some name => exact Nat.le_of_lt (hv.mem_names hname).2
  | none =>
    cases hv with
    | plain h =>
      unfold plainRead
      rw [hname]
    | constrained hname' _ _ _ _ =>
      rw [hname] at hname'
      cases hname'

/-- Each segment of a row has a value that is read in a way that is allowed. -/
theorem RowRead.exists_allowed {allowed : Segment → Nat → ValueRead → Prop}
    {segments : List Segment} {k : Nat} {vs : List ValueRead} (h : RowRead allowed segments k vs)
    {s : Segment} (hs : s ∈ segments) : ∃ j v, allowed s j v := by
  induction h with
  | nil k => exact absurd hs List.not_mem_nil
  | cons hfirst _ ih =>
    rcases List.mem_cons.mp hs with rfl | hs
    · exact ⟨_, _, hfirst⟩
    · exact ih hs

/-- What is left behind by a row of segments and by one before it. -/
theorem Traced.cons {s : Segment} {segments : List Segment} {k : Nat} {v : ValueRead}
    {vs : List ValueRead} {t : Text} {place : Nat} {z : Share} {shares : List Share}
    {new later : List (Nat × Nat)} (hv : ReadBy constraint? s k v)
    (hbound : s.Bound constraint? t (place + z.before.length) z.value)
    (hremembers : s.Remembers k v.nextIndex (place + z.before.length) z.value new)
    (hrange : ∀ entry ∈ later, v.nextIndex ≤ entry.1 / 2)
    (h : Traced constraint? segments vs t (place + z.text.length) shares later) :
    Traced constraint? (s :: segments) (v :: vs) t place (z :: shares) (later ++ new) where
  bound hy := by
    rcases isShareOf_cons hy with ⟨hname, rfl, rfl⟩ | ⟨behind, hbehind, rfl⟩
    · exact ⟨s, List.mem_cons_self, hname, hbound⟩
    · obtain ⟨d, hd, hname, hbound⟩ := h.bound hbehind
      rw [Nat.add_assoc] at hbound
      exact ⟨d, List.mem_cons_of_mem s hd, hname, hbound⟩
  remembered hy := by
    rcases isShareOf_cons hy with ⟨hname, rfl, rfl⟩ | ⟨behind, hbehind, rfl⟩
    · have hne : s.name ≠ none := by
        rw [hname]
        exact Option.some_ne_none _
      obtain ⟨hmem, hlt⟩ := hv.mem_names hname
      -- The groups of later segments have higher numbers, so what they remember hides nothing.
      have hhidden : ∀ slot, slot / 2 < v.nextIndex → later.find? (·.1 == slot) = none := by
        intro slot hslot
        rw [List.find?_eq_none]
        intro entry hentry heq
        have hle := hrange entry hentry
        rw [beq_iff_eq.mp heq] at hle
        exact Nat.not_le_of_lt hslot hle
      refine ⟨k, ?_, ?_, ?_⟩
      · rw [List.flatMap_cons]
        exact List.mem_append_left _ hmem
      · rw [List.find?_append, hhidden _ (by omega), Option.none_or]
        exact hremembers.starts hne
      · rw [List.find?_append, hhidden _ (by omega), Option.none_or]
        exact hremembers.stops hne
    · obtain ⟨index, hmem, hstart, hstop⟩ := h.remembered hbehind
      refine ⟨index, ?_, ?_, ?_⟩
      · rw [List.flatMap_cons]
        exact List.mem_append_right _ hmem
      · rw [List.find?_append, hstart, Nat.add_assoc, Option.some_or]
      · rw [List.find?_append, hstop, Nat.add_assoc place, Option.some_or]

/-- A match of the expressions of a row of segments before the end of the path is a cut of the
path. -/
theorem RowRead.takes {segments : List Segment} {k : Nat} {vs : List ValueRead}
    (h : RowRead (ReadBy constraint?) segments k vs) {t : Text} {x y : Spot}
    (hx : x.place ≤ t.toArray.size)
    (hrun : RunAll t.toArray (rowExprs segments vs ++ [.look .textEnd]) x y) :
    ∃ shares new, IsCut (BoundValue constraint?) segments shares (x.left t.toArray) ∧
      y.saved = new ++ x.saved ∧ (∀ entry ∈ new, k ≤ entry.1 / 2) ∧
      Traced constraint? segments vs t x.place shares new := by
  induction h generalizing x with
  | nil k =>
    obtain ⟨z, hend, rfl⟩ := hrun
    obtain ⟨rfl, hleft⟩ := Spot.left_eq_nil_of_textEnd hend
    have hnone : ∀ {name start y}, ¬IsShareOf [] [] name start y := by
      rintro name start y ⟨i, s, hs, -⟩
      simp at hs
    exact ⟨[], [], hleft, rfl, fun entry hentry => absurd hentry List.not_mem_nil,
      fun hshare => absurd hshare hnone, fun hshare => absurd hshare hnone⟩
  | @cons s rest k v vs hs hrest ih =>
    have hsplit : rowExprs (s :: rest) (v :: vs) ++ [.look .textEnd] =
        s.exprs v.exprs ++ (rowExprs rest vs ++ [.look .textEnd]) := List.append_assoc ..
    rw [hsplit] at hrun
    obtain ⟨w, hfirst, hrun⟩ := runAll_append.mp hrun
    obtain ⟨z, hpass, htakes, hbound, new, hnew, hremembers⟩ := hs.takes hx hfirst
    obtain ⟨shares, later, hcut, hlater, hrange, htraced⟩ := ih (hpass.place_le_size hx) hrun
    rw [hpass.place] at htraced
    refine ⟨z :: shares, later ++ new, ⟨w.left t.toArray, hpass.left, htakes, hcut⟩, ?_, ?_,
      htraced.cons hs hbound hremembers hrange⟩
    · rw [hlater, hnew, List.append_assoc]
    · intro entry hentry
      rcases List.mem_append.mp hentry with hentry | hentry
      · exact hs.le_nextIndex.trans (hrange entry hentry)
      · exact (hremembers.range entry hentry).1

end Segment

namespace Route

variable {r : Route} {query : Values} {c : CompiledRoute} {t : Template}

/-- The values of the segments of a route have the constraints of their parameters. -/
theorem builtBy_of_mem_templateSegments {s : Segment}
    (hs : s ∈ (r.templateSegments query t).map Segment.escape) :
    s.BuiltBy r.constraints.get? := by
  intro name hname
  obtain ⟨-, -, hpattern⟩ := pattern_of_mem_templateSegments hs hname
  rw [hpattern, valueBody]
  cases r.constraints.get? name <;> rfl

/-- The constraints of a route that passes its check are expressions. -/
theorem exists_parse_of_check {l : Template.Layout} (h : r.check l = .ok ()) {p : Template.Placed}
    (hp : p ∈ l.placed) {constraint : Text}
    (hconstraint : r.constraints.get? p.placeholder.name = some constraint) :
    ∃ parsed, parse pathFlags constraint = .ok parsed := by
  have hafter : ∀ (placed : List Template.Placed) (earlier : List Text),
      r.checkAfter earlier placed = .ok () → ∀ p ∈ placed, r.checkConstraint p.placeholder = .ok () := by
    intro placed
    induction placed with
    | nil => exact fun _ _ p hp => absurd hp List.not_mem_nil
    | cons first rest ih =>
      intro earlier h p hp
      rw [checkAfter] at h
      obtain ⟨⟨⟩, -, h⟩ := bind_eq_ok h
      obtain ⟨⟨⟩, -, h⟩ := bind_eq_ok h
      obtain ⟨⟨⟩, -, h⟩ := bind_eq_ok h
      obtain ⟨⟨⟩, hfirst, h⟩ := bind_eq_ok h
      rcases List.mem_cons.mp hp with rfl | hp
      · exact hfirst
      · exact ih _ h p hp
  have hcheck := hafter l.placed [] h p hp
  unfold checkConstraint at hcheck
  rw [hconstraint] at hcheck
  dsimp only at hcheck
  split at hcheck
  · rename_i regex hcompile
    obtain ⟨parsed, hparsed, -⟩ := Regex.compile_eq_ok hcompile
    exact (Flags.Alike.mk rfl rfl rfl rfl rfl : ({} : Flags).Alike pathFlags).parse hparsed
  · cases hcheck

/-- The constraint of a placeholder is an expression if the template passes its check. -/
theorem exists_parse_of_placeholder (hcheck : r.check t.layout = .ok ()) {p : Placeholder}
    (hp : p ∈ t.placeholders) {constraint : Text}
    (hconstraint : r.constraints.get? p.name = some constraint) :
    ∃ parsed, parse pathFlags constraint = .ok parsed := by
  rw [← Template.map_placeholder_layoutAfter [] t] at hp
  obtain ⟨placed, hplaced, rfl⟩ := List.mem_map.mp hp
  exact exists_parse_of_check hcheck hplaced hconstraint

/-- The values of a compiled route are read by their constraints. -/
theorem readsValue_of_compile (henc : r.Enclosable) (hc : r.compile query = .ok c) :
    ∀ s ∈ c.segments, s.Shaped → s.ReadsValue (Segment.ReadBy r.constraints.get?) := by
  obtain ⟨t, ht, hcheck, hsegments, -⟩ := Route.compile_eq_ok hc
  rw [hsegments]
  intro s hs hshaped
  refine hshaped.readsValue_by (builtBy_of_mem_templateSegments hs) fun name constraint hname
    hconstraint => ?_
  obtain ⟨⟨p, hp, rfl⟩, -⟩ := pattern_of_mem_templateSegments hs hname
  exact ⟨exists_parse_of_placeholder hcheck hp hconstraint, henc t ht p hp constraint hconstraint⟩

/-- The constraints of a compiled route can be put in parentheses if they never turn the verbose mode
on. -/
theorem enclosable_of_compile (hfree : r.EachConstraint (VerboseFree pathFlags))
    (hc : r.compile query = .ok c) :
    r.Enclosable := by
  obtain ⟨t, ht, hcheck, hsegments, -⟩ := Route.compile_eq_ok hc
  -- Every constraint is read within the expression of the route, which meets no error.
  have hvalues : ∀ s ∈ c.segments, s.Shaped → s.ReadsValue fun s _ _ =>
      ∀ name constraint, s.name = some name → r.constraints.get? name = some constraint →
        Regex.Enclosable pathFlags constraint := by
    intro s hs hshaped state rest hf hacc
    rw [hsegments] at hs
    have hbuilt := builtBy_of_mem_templateSegments hs
    have hvalid : ∀ name constraint, s.name = some name →
        r.constraints.get? name = some constraint →
        (∃ parsed, parse pathFlags constraint = .ok parsed) ∧
          Regex.Enclosable pathFlags constraint := by
      intro name constraint hname hconstraint
      obtain ⟨⟨p, hp, rfl⟩, -⟩ := pattern_of_mem_templateSegments hs hname
      obtain ⟨parsed, hparsed⟩ := exists_parse_of_placeholder hcheck hp hconstraint
      have hpattern := hbuilt p.name hname
      rw [hconstraint] at hpattern
      dsimp only at hpattern
      rw [hpattern] at hacc
      exact ⟨⟨parsed, hparsed⟩, enclosable_of_accepts (hshaped.group p.name hname).1 hparsed
        (hfree t ht p hp constraint hconstraint) s.isOptional hf hacc⟩
    obtain ⟨state', v, hreads, hext, hnext, -⟩ :=
      hshaped.readsValue_by hbuilt hvalid state rest hf hacc
    exact ⟨state', v, hreads, hext, hnext, fun name constraint hname hconstraint =>
      (hvalid name constraint hname hconstraint).2⟩
  obtain ⟨vs, -, hrow, -⟩ := exists_rowRead_of_readsValue hc hvalues
  intro t' ht' p hp constraint hconstraint
  obtain rfl : t = t' := Except.ok.inj (ht.symm.trans ht')
  have hname : p.name ∈ c.segments.filterMap (·.name) := by
    rw [Route.filterMap_name_of_compile ht hc]
    exact List.mem_map_of_mem hp
  obtain ⟨s, hs, hname⟩ := List.mem_filterMap.mp hname
  obtain ⟨_, _, henc⟩ := hrow.exists_allowed hs
  exact henc p.name constraint hname hconstraint

end Route

/-- No name is given to two groups of an expression. -/
theorem Regex.nodup_names_of_parse {f : Flags} {t : Text} {parsed : Parsed}
    (h : parse f t = .ok parsed) : (parsed.names.map Prod.fst).Nodup := by
  obtain ⟨fuel, final, hfinal, -, -, rfl⟩ := parse_eq_ok h
  have hnumbered := (Reading.Numbered.start f).readParts hfinal
  have hreverse := List.nodup_reverse.mpr hnumbered.names
  rwa [← List.map_reverse] at hreverse

section

variable {r : Route} {query : Values} {c : CompiledRoute}

/-- What the expression of a compiled route finds is a cut of the path. The groups of the parameters
remember where the values are, and a constraint matches a value where it stands. -/
theorem exists_cut_of_search (henc : r.Enclosable) (hc : r.compile query = .ok c) {path : Text}
    {m : Regex.Match} (hm : c.regex.search path = some m) :
    m.input = path.toArray ∧
    ∃ shares, IsCut (Segment.BoundValue r.constraints.get?) c.segments shares path ∧
      ∀ name start x, IsShareOf c.segments shares name start x →
        m.span? name = some (start, start + x.value.length) ∧
        ∃ s ∈ c.segments, s.name = some name ∧
          s.Bound r.constraints.get? path start x.value := by
  obtain ⟨vs, parsed, hrow, hparsed, hnames, hregex, hprogram⟩ :=
    exists_rowRead_of_readsValue hc (Route.readsValue_of_compile henc hc)
  unfold Regex.search at hm
  rw [hprogram] at hm
  obtain ⟨saved, hsaved, rfl⟩ := Option.map_eq_some_iff.mp hm
  rw [← List.append_nil (_ :: _)] at hsaved
  obtain ⟨place, hplace, x, y, rest, hrun, hends, rfl⟩ :=
    search_rowProgram _ (fun d hd => absurd hd List.not_mem_nil) hsaved
  obtain ⟨rfl, -⟩ : y = x ∧ rest = [] := by simpa [endsAll, eq_comm] using hends
  obtain ⟨z, ⟨hstart, rfl⟩, hrun⟩ := hrun
  -- Only at the start of the path is nothing before the place where the match begins.
  obtain rfl : place = 0 := by
    by_contra hpos
    have hlt : place - 1 < path.toArray.size := by omega
    unfold Look.holdsAt Look.holds at hstart
    dsimp only at hstart
    rw [if_neg hpos, Array.getElem?_eq_getElem hlt] at hstart
    cases hstart
  obtain ⟨shares, new, hcut, hnew, -, htraced⟩ := hrow.takes hplace hrun
  refine ⟨rfl, shares, hcut, fun name start x hx => ⟨?_, ?_⟩⟩
  · obtain ⟨index, hmem, hstart, hstop⟩ := htraced.remembered hx
    rw [Nat.zero_add] at hstart hstop
    refine Match.span?_eq_some (by rw [hregex]; exact nodup_names_of_parse hparsed)
      (show (name, index) ∈ c.regex.names from ?_) ?_ ?_
    · rw [hregex, hnames]
      exact hmem
    · dsimp only
      rw [hnew, List.append_nil]
      exact hstart
    · dsimp only
      rw [hnew, List.append_nil]
      exact hstop
  · obtain ⟨s, hs, hname, hbound⟩ := htraced.bound hx
    rw [Nat.zero_add] at hbound
    exact ⟨s, hs, hname, hbound⟩

end

namespace RouteTable

variable {table : RouteTable} {path : Text} {query : Values} {m : RouteMatch}

/-- A match is that of a compiled route of the table. -/
theorem exists_of_resolve (h : table.resolve path query = some m) :
    ∃ r ∈ table.routes, ∃ c, r.compile query = .ok c ∧
      m.route = { r with defaults := c.defaults } ∧
      c.valuesIn? (normalizePath path) query = some m.values := by
  obtain ⟨r, hr, hmatch⟩ := List.exists_of_findSome?_eq_some h
  obtain ⟨c, hc, hvalues, hroute⟩ := matchRoute?_eq_some_iff.mp hmatch
  exact ⟨r, hr, c, hc, hroute, hvalues⟩

/-- A value that a table delivers for a parameter with a constraint has one of two sources. If the
parameter has taken something of the path, the constraint matches what it has taken as a whole, and
the value is that once it is decoded. Otherwise the value is the one of the query string, which no
constraint is held against. -/
theorem resolve_value_bound (hm : table.resolve path query = some m) (henc : m.route.Enclosable)
    {t : Template} (ht : Template.parse (Text.trim '/' m.route.template) = .ok t) {p : Placeholder}
    (hp : p ∈ t.placeholders) {constraint : Text}
    (hconstraint : m.route.constraints.get? p.name = some constraint)
    (hlook : LookFree pathFlags constraint) {v : Text} (hv : m.values.get? p.name = some v) :
    ∃ r ∈ table.routes, ∃ c found taken, r.compile query = .ok c ∧
      m.route = { r with defaults := c.defaults } ∧
      c.regex.search (normalizePath path) = some found ∧ found.named? p.name = some taken ∧
      if taken = [] then query.nonempty? p.name = some v
      else MatchesWhole pathFlags constraint taken ∧ Percent.decode? taken = some v ∧
        ('%' ∉ taken → MatchesWhole pathFlags constraint v) := by
  obtain ⟨r, hr, c, hc, hroute, hvalues⟩ := exists_of_resolve hm
  rw [hroute] at henc ht hconstraint
  obtain ⟨found, hfound, hvalue, -⟩ := Segment.get?_of_valuesIn? (nodup_names_of_compile hc) hvalues
  obtain ⟨hinput, shares, hcut, hshares⟩ := exists_cut_of_search (r := r) henc hc hfound
  have hname : p.name ∈ c.segments.filterMap (·.name) := by
    rw [Route.filterMap_name_of_compile (r := r) ht hc]
    exact List.mem_map_of_mem hp
  obtain ⟨start, x, hx⟩ := hcut.exists_isShareOf hname
  obtain ⟨hspan, s, hs, hsname, hbound⟩ := hshares p.name start x hx
  have hnamed := hcut.named?_eq hx hinput hspan
  have hdelivered := hvalue p.name hname
  rw [Segment.value?_of_named? hnamed, hv] at hdelivered
  refine ⟨r, hr, c, found, x.value, hc, hroute, hfound, hnamed, ?_⟩
  split at hdelivered
  · rename_i hempty
    rw [if_pos hempty]
    exact Option.some.inj hdelivered
  · rename_i hne
    rw [if_neg hne]
    obtain ⟨w, hdecode, hw⟩ := Option.map_eq_some_iff.mp hdelivered
    cases hw
    obtain ⟨hnil, -⟩ | hmatches := hbound p.name constraint hsname hconstraint
    · exact absurd hnil hne
    obtain ⟨front, back, hpath, rfl⟩ := hcut.split_value hx
    rw [hpath] at hmatches
    have hwhole := hmatches.whole hlook
    refine ⟨hwhole, hdecode, fun hsign => ?_⟩
    rw [Percent.decode?_of_notMem hsign, Option.some.injEq] at hdecode
    rwa [← hdecode]

/-- A route whose parameter is a number. -/
def numberRoute : Route :=
  { template := "user/{id}".toList
    constraints := .ofList [("id".toList, "[0-9]+".toList)] }

/-- The table that holds this route. -/
def numberTable : RouteTable :=
  ⟨[numberRoute]⟩

/-- The number in a path is bound by the constraint. -/
theorem numberTable_value_bound : ∃ r ∈ numberTable.routes, ∃ c found taken,
    r.compile ∅ = .ok c ∧ numberRoute = { r with defaults := c.defaults } ∧
    c.regex.search (normalizePath "/user/42/?page=7".toList) = some found ∧
    found.named? "id".toList = some taken ∧
    if taken = [] then (∅ : Values).nonempty? "id".toList = some "42".toList
    else MatchesWhole pathFlags "[0-9]+".toList taken ∧ Percent.decode? taken = some "42".toList ∧
      ('%' ∉ taken → MatchesWhole pathFlags "[0-9]+".toList "42".toList) := by
  have hm : numberTable.resolve "/user/42/?page=7".toList ∅ =
      some ⟨numberRoute, .ofList [("id".toList, "42".toList)]⟩ := by decide +kernel
  have henc : numberRoute.Enclosable := Route.enclosable_of_values (by decide +kernel)
  have ht : Template.parse (Text.trim '/' numberRoute.template) =
      .ok [.literal "user/".toList, .placeholder ⟨"id".toList, .none⟩] := by decide +kernel
  exact resolve_value_bound hm henc ht (p := ⟨"id".toList, .none⟩) (by decide) (by decide)
    (by decide +kernel) (by decide)

/-- A value of the query string is delivered although the constraint does not match it. -/
theorem numberTable_query_value_unbound : RouteTable.empty.add numberRoute = .ok numberTable ∧
    numberTable.resolve "/user".toList (.ofList [("id".toList, "abc".toList)]) =
      some ⟨numberRoute, .ofList [("id".toList, "abc".toList)]⟩ ∧
    numberRoute.constraints.get? "id".toList = some "[0-9]+".toList ∧
    LookFree pathFlags "[0-9]+".toList ∧
    ¬MatchesWhole pathFlags "[0-9]+".toList "abc".toList := by
  refine ⟨by decide +kernel, by decide +kernel, by decide, by decide +kernel, ?_⟩
  obtain ⟨digits, hdigits, hletter⟩ : ∃ digits, parse pathFlags "[0-9]+".toList =
      .ok ⟨.repeated 1 none true (.set digits), []⟩ ∧ digits.contains 'a' = false :=
    ⟨_, rfl, by decide +kernel⟩
  rintro ⟨parsed, hparse, saved, hrun⟩
  obtain rfl := Except.ok.inj (hdigits.symm.trans hparse)
  -- The first round would have to take the letter.
  obtain ⟨n, hmin, -, hrounds⟩ := hrun
  obtain ⟨n, rfl⟩ := Nat.exists_eq_add_of_le' hmin
  obtain ⟨y, ⟨c, hc, hdigit, -⟩, -⟩ := hrounds
  obtain rfl : 'a' = c := Option.some.inj hc
  rw [hletter] at hdigit
  cases hdigit

end RouteTable

end PathRouting
