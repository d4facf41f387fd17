import PathRouting.Proofs.Route.Building
import PathRouting.Proofs.Segment.CutEnds
import PathRouting.Proofs.Segment.Values

/-!
# What a route without constraints matches

The expression of a route without constraints finds the first cut of a path in the greedy order,
and the groups remember where the values of the cut are.
-/

namespace PathRouting

open Regex

/-- No placeholder of a route has a constraint. -/
def Route.ConstraintFree (r : Route) : Prop :=
  ∀ t, Template.parse (Text.trim '/' r.template) = .ok t →
    ∀ p ∈ t.placeholders, r.constraints.get? p.name = none

/-- It is enough to know the placeholders of the template that is read. -/
theorem Route.constraintFree_of_parse {r : Route} {t : Template}
    (ht : Template.parse (Text.trim '/' r.template) = .ok t)
    (hfree : ∀ p ∈ t.placeholders, r.constraints.get? p.name = none) : r.ConstraintFree := by
  intro t' ht'
  obtain rfl : t = t' := Except.ok.inj (ht.symm.trans ht')
  exact hfree

/-- A share of a cut belongs to a parameter, and its value starts at a given place of the path. -/
def IsShareOf (segments : List Segment) (shares : List Share) (name : Text) (start : Nat)
    (x : Share) : Prop :=
  ∃ (i : Nat) (s : Segment), segments[i]? = some s ∧ s.name = some name ∧ shares[i]? = some x ∧
    start = ((shares.take i).flatMap Share.text).length + x.before.length

/-- The first shares of a cut are the start of the path. -/
theorem IsCut.split {allowed : Segment → Text → Prop} {segments : List Segment}
    {shares : List Share} {path : Text} (h : IsCut allowed segments shares path) {i : Nat}
    {x : Share} (hx : shares[i]? = some x) :
    ∃ rest, path = (shares.take i).flatMap Share.text ++ x.text ++ rest := by
  induction h using IsCut.induction generalizing i with
  | nil => simp at hx
  | cons s segments y shares rest _ _ ih =>
    cases i with
    | zero =>
      rw [List.getElem?_cons_zero, Option.some.injEq] at hx
      subst hx
      exact ⟨rest, rfl⟩
    | succ i =>
      rw [List.getElem?_cons_succ] at hx
      obtain ⟨rest', rfl⟩ := ih hx
      exact ⟨rest', by simp⟩

/-- The value of a parameter stands in the path where its share has it. -/
theorem IsCut.split_value {allowed : Segment → Text → Prop} {segments : List Segment}
    {shares : List Share} {path : Text} (h : IsCut allowed segments shares path) {name : Text}
    {start : Nat} {x : Share} (hx : IsShareOf segments shares name start x) :
    ∃ front back, path = front ++ x.value ++ back ∧ front.length = start := by
  obtain ⟨i, s, -, -, hi, rfl⟩ := hx
  obtain ⟨rest, hpath⟩ := h.split hi
  refine ⟨(shares.take i).flatMap Share.text ++ x.before,
    x.after ++ (if x.slash then ['/'] else []) ++ rest, ?_, List.length_append⟩
  rw [hpath, Share.text]
  simp

/-- A group whose name is given only once has taken what stands between the places that were last
remembered under its number. -/
theorem Regex.Match.span?_eq_some {m : Regex.Match} (hnodup : (m.names.map Prod.fst).Nodup)
    {name : Text} {index start stop : Nat} (hmem : (name, index) ∈ m.names)
    (hstart : m.saved.find? (·.1 == 2 * index) = some (2 * index, start))
    (hstop : m.saved.find? (·.1 == 2 * index + 1) = some (2 * index + 1, stop)) :
    m.span? name = some (start, stop) := by
  have hfind : m.names.find? (·.1 == name) = some (name, index) := by
    cases hfound : m.names.find? (·.1 == name) with
    | none =>
      rw [List.find?_eq_none] at hfound
      exact absurd (hfound _ hmem) (by simp)
    | some entry =>
      have hentry := List.mem_of_find?_eq_some hfound
      have heq : entry.1 = name := by simpa using List.find?_some hfound
      rw [List.inj_on_of_nodup_map hnodup hentry hmem heq]
  unfold span?
  rw [hfind]
  change (do return (← m.place? (2 * index), ← m.place? (2 * index + 1)) : Option _) = _
  unfold place?
  rw [hstart, hstop]
  rfl

/-- What a group took is the value of the share whose bounds it remembers. -/
theorem IsCut.named?_eq {allowed : Segment → Text → Prop} {segments : List Segment}
    {shares : List Share} {path : Text} (h : IsCut allowed segments shares path) {name : Text}
    {start : Nat} {x : Share} (hx : IsShareOf segments shares name start x) {m : Regex.Match}
    (hinput : m.input = path.toArray) (hspan : m.span? name = some (start, start + x.value.length)) :
    m.named? name = some x.value := by
  obtain ⟨front, back, hpath, hstart⟩ := h.split_value hx
  unfold Regex.Match.named?
  rw [hspan, Option.map_some, hinput, hpath, ← hstart]
  simp

/-- What a group took is delivered if it is not empty. -/
theorem Segment.value?_of_named? {m : Regex.Match} {query : Values} {name value : Text}
    (h : m.named? name = some value) :
    Segment.value? m query name = if value = [] then some (query.nonempty? name)
      else (Percent.decode? value).map some := by
  unfold Segment.value?
  rw [h]
  split
  · rename_i taken htaken
    obtain ⟨heq, hne⟩ := Option.filter_eq_some_iff.mp htaken
    rw [Option.some.injEq] at heq
    subst heq
    rw [if_neg (by simpa using hne)]
  · rename_i hnone
    rw [Option.filter_eq_none_iff] at hnone
    rw [if_pos (by simpa using hnone _ rfl)]

namespace Regex.Spot

/-- A share is as long as its text. -/
theorem place_afterShare (x : Spot) (s : Segment) (k : Nat) (y : Share) :
    (x.afterShare s k y).place = x.place + y.text.length := by
  unfold afterShare afterOwn Share.text
  cases s.name <;> cases y.slash <;> simp [skip, remember, Nat.add_assoc]

/-- A value of a parameter is remembered with its bounds. -/
theorem saved_afterShare (x : Spot) (s : Segment) (k : Nat) (y : Share) :
    (x.afterShare s k y).saved = match s.name with
      | none => x.saved
      | some _ => (2 * k + 1, x.place + y.before.length + y.value.length) ::
          (2 * k, x.place + y.before.length) :: x.saved := by
  unfold afterShare afterOwn
  cases s.name <;> rfl

/-- The first share and the others. -/
theorem afterShares_cons (x : Spot) (s : Segment) (segments : List Segment) (k : Nat) (y : Share)
    (shares : List Share) : x.afterShares (s :: segments) k (y :: shares) =
      (x.afterShare s k y).afterShares segments (s.plainRead k).nextIndex shares :=
  rfl

/-- Later segments remember places under higher numbers. -/
theorem saved_afterShares (x : Spot) (segments : List Segment) (k : Nat) (shares : List Share) :
    ∃ new, (x.afterShares segments k shares).saved = new ++ x.saved ∧
      ∀ entry ∈ new, 2 * k ≤ entry.1 := by
  induction segments generalizing x k shares with
  | nil => exact ⟨[], rfl, by simp⟩
  | cons s segments ih =>
    cases shares with
    | nil => exact ⟨[], rfl, by simp⟩
    | cons y shares =>
      obtain ⟨new, hnew, hge⟩ := ih (x.afterShare s k y) (s.plainRead k).nextIndex shares
      have hnext : k ≤ (s.plainRead k).nextIndex := by
        unfold Segment.plainRead
        cases s.name with
        | none => exact Nat.le_refl k
        | some name => exact Nat.le_succ k
      have hge' : ∀ entry ∈ new, 2 * k ≤ entry.1 := by
        intro entry hentry
        have := hge entry hentry
        omega
      rw [afterShares_cons, hnew, saved_afterShare]
      cases s.name with
      | none => exact ⟨new, rfl, hge'⟩
      | some name =>
        refine ⟨new ++ [(2 * k + 1, x.place + y.before.length + y.value.length),
          (2 * k, x.place + y.before.length)], by simp, fun entry hentry => ?_⟩
        rcases List.mem_append.mp hentry with hentry | hentry
        · exact hge' entry hentry
        · simp only [List.mem_cons, List.not_mem_nil, or_false] at hentry
          rcases hentry with rfl | rfl
          · exact Nat.le_succ _
          · exact Nat.le_refl _

/-- The bounds of the value of a parameter are what is last remembered under the numbers of its
group. -/
theorem find?_afterShares {segments : List Segment} {k : Nat} {vs : List Segment.ValueRead}
    (h : Segment.RowRead Segment.PlainRead segments k vs) {shares : List Share} {name : Text}
    {start : Nat} {y : Share} (hy : IsShareOf segments shares name start y) (x : Spot) :
    ∃ index, (name, index) ∈ vs.flatMap (·.names) ∧
      (x.afterShares segments k shares).saved.find? (·.1 == 2 * index) =
        some (2 * index, x.place + start) ∧
      (x.afterShares segments k shares).saved.find? (·.1 == 2 * index + 1) =
        some (2 * index + 1, x.place + start + y.value.length) := by
  obtain ⟨i, s, hs, hname, hi, rfl⟩ := hy
  induction h generalizing shares i x with
  | nil k => simp at hs
  | @cons d rest k v vs hd hrest ih =>
    obtain rfl := hd
    cases shares with
    | nil => simp at hi
    | cons z shares =>
      rw [afterShares_cons]
      cases i with
      | zero =>
        rw [List.getElem?_cons_zero, Option.some.injEq] at hs hi
        subst hs hi
        obtain ⟨new, hnew, hge⟩ := saved_afterShares (x.afterShare d k z) rest
          (d.plainRead k).nextIndex shares
        have hread : d.plainRead k =
            ⟨[.group k (Segment.plainValue d.isOptional)], [(name, k)], k + 1⟩ := by
          unfold Segment.plainRead
          rw [hname]
        have hnext : (d.plainRead k).nextIndex = k + 1 := by rw [hread]
        rw [hnext] at hge
        have hsaved := saved_afterShare x d k z
        rw [hname] at hsaved
        have hnone : ∀ slot, slot < 2 * (k + 1) → new.find? (·.1 == slot) = none := by
          intro slot hslot
          rw [List.find?_eq_none]
          intro entry hentry heq
          have := hge entry hentry
          have := beq_iff_eq.mp heq
          omega
        refine ⟨k, ?_, ?_, ?_⟩
        · rw [List.flatMap_cons, hread]
          exact List.mem_append_left _ (List.mem_singleton_self _)
        · rw [hnew, hsaved, List.find?_append, hnone _ (by omega)]
          simp
        · rw [hnew, hsaved, List.find?_append, hnone _ (by omega)]
          simp [Nat.add_assoc]
      | succ i =>
        rw [List.getElem?_cons_succ] at hs hi
        obtain ⟨index, hmem, hstart, hstop⟩ := ih (x.afterShare d k z) i hs hi
        refine ⟨index, ?_, ?_, ?_⟩
        · rw [List.flatMap_cons]
          exact List.mem_append_right _ hmem
        · rw [hstart, place_afterShare]
          simp [Nat.add_assoc]
        · rw [hstop, place_afterShare]
          simp [Nat.add_assoc]

end Regex.Spot

section

variable {segments : List Segment} {k : Nat} {vs : List Segment.ValueRead}

/-- The named groups of a row are the parameters of the segments in order. -/
theorem map_fst_names (h : Segment.RowRead Segment.PlainRead segments k vs) :
    (vs.flatMap (·.names)).map Prod.fst = segments.filterMap (·.name) := by
  induction h with
  | nil k => rfl
  | @cons s rest k v vs hs _ ih =>
    obtain rfl := hs
    rw [List.flatMap_cons, List.map_append, ih, Segment.plainRead]
    cases hname : s.name with
    | none => rw [List.filterMap_cons_none hname]; rfl
    | some name => rw [List.filterMap_cons_some hname]; rfl

/-- All rounds in the expressions of segments without constraints take something. -/
theorem progressive_rowExprs (h : Segment.RowRead Segment.PlainRead segments k vs) :
    ∀ e ∈ Segment.rowExprs segments vs, e.progressive = true := by
  have hliteral : ∀ t : Text, ∀ e ∈ literalExprs t, e.progressive = true := by
    intro t e he
    obtain ⟨c, -, rfl⟩ := List.mem_map.mp he
    rfl
  have hseparator : ∀ s : Segment, ∀ e ∈ s.separatorExprs, e.progressive = true := by
    intro s e he
    unfold Segment.separatorExprs at he
    repeat' split at he
    all_goals simp at he
    all_goals subst he; rfl
  induction h with
  | nil k => exact fun e he => absurd he List.not_mem_nil
  | @cons s rest k v vs hs _ ih =>
    obtain rfl := hs
    intro e he
    have hvalue : ∀ e ∈ (s.plainRead k).exprs, e.progressive = true := by
      intro e he
      unfold Segment.plainRead at he
      split at he
      · exact hliteral _ e he
      · obtain rfl := List.mem_singleton.mp he
        cases s.isOptional <;> rfl
    change e ∈ s.exprs (s.plainRead k).exprs ++ Segment.rowExprs rest vs at he
    simp only [Segment.exprs, List.mem_append] at he
    rcases he with (((he | he) | he) | he) | he
    · exact hliteral _ e he
    · exact hvalue e he
    · exact hliteral _ e he
    · exact hseparator s e he
    · exact ih e he

end

section

variable {r : Route} {query : Values} {c : CompiledRoute}

/-- The expression of a compiled route is that of its segments between the start and the end of the
path, if their values are read in a way that is allowed. -/
theorem exists_rowRead_of_readsValue {allowed : Segment → Nat → Segment.ValueRead → Prop}
    (hc : r.compile query = .ok c)
    (hvalues : ∀ s ∈ c.segments, s.Shaped → s.ReadsValue allowed) :
    ∃ vs parsed, Segment.RowRead allowed c.segments 1 vs ∧
      parse pathFlags (Segment.joinedPattern c.segments) = .ok parsed ∧
      parsed.names = vs.flatMap (·.names) ∧ c.regex.names = parsed.names ∧
      c.regex.program = rowProgram (.look .textStart :: (Segment.rowExprs c.segments vs
        ++ [.look .textEnd])) := by
  obtain ⟨t, ht, -, hsegments, hregex, -⟩ := Route.compile_eq_ok hc
  obtain ⟨parsed, hparsed, hregex⟩ := Regex.compile_eq_ok hregex
  have hshaped : ∀ s ∈ c.segments, s.Shaped := by
    rw [hsegments]
    exact Route.shaped_templateSegments ht
  obtain ⟨vs, hrow, hnames, hexpr⟩ :=
    parse_joinedPattern (fun s hs => ⟨hshaped s hs, hvalues s hs (hshaped s hs)⟩) hparsed
  refine ⟨vs, parsed, hrow, hparsed, hnames, ?_, ?_⟩
  · rw [hregex]
  · rw [hregex]
    dsimp only
    rw [hexpr, Expr.program_concat]
    rfl

/-- The text of the value of a segment of a compiled route is that of its parameter. -/
theorem pattern_of_compile {t : Template} (ht : Template.parse (Text.trim '/' r.template) = .ok t)
    (hc : r.compile query = .ok c) {s : Segment} (hs : s ∈ c.segments) {name : Text}
    (hname : s.name = some name) : (∃ p ∈ t.placeholders, p.name = name) ∧
      s.isOptional = Route.isOptional (r.mergedDefaults t.layout.placed) query name ∧
      s.pattern = Segment.capture name (r.valueBody name s.isOptional) := by
  rw [Route.segments_of_compile ht hc] at hs
  exact Route.pattern_of_mem_templateSegments hs hname

/-- The parameters of the segments of a compiled route are those of its placeholders. -/
theorem Route.filterMap_name_of_compile {t : Template}
    (ht : Template.parse (Text.trim '/' r.template) = .ok t)
    (hc : r.compile query = .ok c) :
    c.segments.filterMap (·.name) = t.placeholders.map (·.name) := by
  rw [segments_of_compile ht hc]
  exact filterMap_name_templateSegments

/-- The expression of a route without constraints is that of its segments between the start and the
end of the path. -/
theorem exists_rowRead_of_compile (hr : r.ConstraintFree) (hc : r.compile query = .ok c) :
    ∃ vs, Segment.RowRead Segment.PlainRead c.segments 1 vs ∧
      c.regex.names = vs.flatMap (·.names) ∧
      c.regex.program = rowProgram (.look .textStart :: (Segment.rowExprs c.segments vs
        ++ [.look .textEnd])) := by
  obtain ⟨t, ht, -⟩ := Route.compile_eq_ok hc
  obtain ⟨vs, parsed, hrow, -, hnames, hregex, hprogram⟩ := exists_rowRead_of_readsValue hc
    fun s hs hshaped => hshaped.readsValue_plain fun name hname => by
      obtain ⟨⟨p, hp, rfl⟩, -, hpattern⟩ := pattern_of_compile ht hc hs hname
      rw [hpattern, Route.valueBody, hr t ht p hp]
  exact ⟨vs, hrow, hregex.trans hnames, hprogram⟩

/-- The names of the segments of a compiled route are distinct. -/
theorem nodup_names_of_compile (hc : r.compile query = .ok c) :
    (c.segments.filterMap (·.name)).Nodup := by
  obtain ⟨t, -, hcheck, hsegments, -⟩ := Route.compile_eq_ok hc
  rw [hsegments]
  exact Route.nodup_names_templateSegments hcheck

/-- The ends of the whole expression are those of the cuts of the path, in the greedy order. -/
theorem endsAll_whole {segments : List Segment} {vs : List Segment.ValueRead}
    (hrow : Segment.RowRead Segment.PlainRead segments 1 vs) (path : Text) (place : Nat)
    (hplace : place ≤ path.length) :
    endsAll path.toArray (.look .textStart :: (Segment.rowExprs segments vs ++ [.look .textEnd]))
        ⟨place, []⟩ =
      if place = 0 then (cuts segments path).map fun shares =>
        Spot.afterShares ⟨0, []⟩ segments 1 shares
      else [] := by
  rw [endsAll, Expr.ends, Look.holdsAt, Look.holds]
  dsimp only
  by_cases hzero : place = 0
  · subst hzero
    rw [if_pos rfl, if_pos rfl, Option.isNone_none, if_pos rfl, List.flatMap_singleton,
      endsAll_rowExprs hrow]
    rfl
  · have hlt : place - 1 < path.toArray.size := by
      rw [List.size_toArray]
      omega
    rw [if_neg hzero, if_neg hzero, Array.getElem?_eq_getElem hlt]
    rfl

/-- What a search of the expression finds is the first cut of the path in the greedy order. -/
theorem search_eq_cuts (hr : r.ConstraintFree) (hc : r.compile query = .ok c) (path : Text) :
    c.regex.search path = (cuts c.segments path).head?.map fun shares =>
      ⟨path.toArray, c.regex.names, (Spot.afterShares ⟨0, []⟩ c.segments 1 shares).saved⟩ := by
  obtain ⟨vs, hrow, hnames, hprogram⟩ := exists_rowRead_of_compile hr hc
  have hprog : ∀ d ∈ Expr.look .textStart :: (Segment.rowExprs c.segments vs ++ [.look .textEnd]),
      d.progressive = true := by
    intro d hd
    rcases List.mem_cons.mp hd with rfl | hd
    · rfl
    · rcases List.mem_append.mp hd with hd | hd
      · exact progressive_rowExprs hrow d hd
      · obtain rfl := List.mem_singleton.mp hd
        rfl
  have hsize : path.toArray.size = path.length := List.size_toArray
  have hwhole := endsAll_whole hrow path
  unfold Regex.search
  rw [hprogram]
  dsimp only
  cases hsearch : (rowProgram (.look .textStart :: (Segment.rowExprs c.segments vs
      ++ [.look .textEnd]))).search path.toArray with
  | none =>
    cases hcuts : cuts c.segments path with
    | nil => rfl
    | cons shares rest =>
      have hsome := isSome_search_rowProgram hprog (Nat.zero_le path.toArray.size)
        (by rw [hwhole 0 (Nat.zero_le _), if_pos rfl, hcuts]; simp)
      rw [hsearch] at hsome
      cases hsome
  | some saved =>
    obtain ⟨place, hplace, x, y, rest, hx, hends, rfl⟩ := search_rowProgram [] hprog hsearch
    obtain rfl := hx
    rw [hwhole place (hsize ▸ hplace)] at hends
    split at hends
    · cases hcuts : cuts c.segments path with
      | nil =>
        rw [hcuts] at hends
        cases hends
      | cons shares rest =>
        rw [hcuts, List.map_cons, List.cons.injEq] at hends
        rw [← hends.1]
        rfl
    · cases hends

/-- The groups remember where the values of the cut that was found are. -/
theorem span?_of_search (hr : r.ConstraintFree) (hc : r.compile query = .ok c) {path : Text}
    {m : Regex.Match} {shares : List Share} (hcuts : (cuts c.segments path).head? = some shares)
    (hm : c.regex.search path = some m) {name : Text} {start : Nat} {x : Share}
    (hx : IsShareOf c.segments shares name start x) :
    m.span? name = some (start, start + x.value.length) := by
  obtain ⟨vs, hrow, hnames, -⟩ := exists_rowRead_of_compile hr hc
  rw [search_eq_cuts hr hc, hcuts] at hm
  cases hm
  obtain ⟨index, hmem, hstart, hstop⟩ := Spot.find?_afterShares hrow hx ⟨0, []⟩
  have hnodup : (c.regex.names.map Prod.fst).Nodup := by
    rw [hnames, map_fst_names hrow]
    exact nodup_names_of_compile hc
  rw [Nat.zero_add] at hstart hstop
  refine Regex.Match.span?_eq_some hnodup ?_ hstart hstop
  change _ ∈ c.regex.names
  rw [hnames]
  exact hmem

/-- A group took the value of its parameter in the cut that was found. -/
theorem named?_of_search (hr : r.ConstraintFree) (hc : r.compile query = .ok c) {path : Text}
    {m : Regex.Match} {shares : List Share} (hcuts : (cuts c.segments path).head? = some shares)
    (hm : c.regex.search path = some m) {name : Text} {start : Nat} {x : Share}
    (hx : IsShareOf c.segments shares name start x) : m.named? name = some x.value := by
  have hinput : m.input = path.toArray := by
    rw [search_eq_cuts hr hc, hcuts] at hm
    cases hm
    rfl
  exact (mem_cuts.mp (List.mem_of_mem_head? hcuts)).named?_eq hx hinput
    (span?_of_search hr hc hcuts hm hx)

/-- The value of a parameter in the cut that was found is what is delivered. -/
theorem value?_of_search (hr : r.ConstraintFree) (hc : r.compile query = .ok c) {path : Text}
    {m : Regex.Match} {shares : List Share} (hcuts : (cuts c.segments path).head? = some shares)
    (hm : c.regex.search path = some m) {name : Text} {start : Nat} {x : Share}
    (hx : IsShareOf c.segments shares name start x) :
    Segment.value? m query name = if x.value = [] then some (query.nonempty? name)
      else (Percent.decode? x.value).map some := by
  exact Segment.value?_of_named? (named?_of_search hr hc hcuts hm hx)

/-- A cut has a share for each segment. -/
theorem IsCut.length_eq {allowed : Segment → Text → Prop} {segments : List Segment}
    {shares : List Share} {path : Text} (h : IsCut allowed segments shares path) :
    segments.length = shares.length := by
  induction h using IsCut.induction with
  | nil => rfl
  | cons s segments x shares rest _ _ ih => rw [List.length_cons, List.length_cons, ih]

/-- Every parameter has a share in a cut. -/
theorem IsCut.exists_isShareOf {allowed : Segment → Text → Prop} {segments : List Segment}
    {shares : List Share} {path : Text} (h : IsCut allowed segments shares path) {name : Text}
    (hname : name ∈ segments.filterMap (·.name)) : ∃ start x, IsShareOf segments shares name start x := by
  obtain ⟨s, hs, hname⟩ := List.mem_filterMap.mp hname
  obtain ⟨i, hi⟩ := List.mem_iff_getElem?.mp hs
  have hlt : i < shares.length := by
    rw [← h.length_eq]
    exact (List.getElem?_eq_some_iff.mp hi).1
  exact ⟨_, shares[i], i, s, hi, hname, List.getElem?_eq_getElem hlt, rfl⟩

/-- A route without constraints matches the paths that can be cut into shares of its segments. What
it reports and delivers are the values of the first cut in the greedy order: those that are not
empty are decoded, and for the others a value of the query string may stand in. -/
theorem constraintFree_match_iff_cut (hr : r.ConstraintFree) (hc : r.compile query = .ok c)
    (path : Text) :
    ((c.regex.search path).isSome = true ↔
      ∃ shares, IsCut Segment.PlainValue c.segments shares path) ∧
    (c.regex.search path = none → c.valuesIn? path query = none) ∧
    ∀ m, c.regex.search path = some m → ∃ shares,
      IsFirstCut Segment.PlainValue c.segments shares path ∧
      (∀ name start x, IsShareOf c.segments shares name start x →
        m.span? name = some (start, start + x.value.length)) ∧
      (c.valuesIn? path query = none ↔ ∃ name start x, IsShareOf c.segments shares name start x ∧
        x.value ≠ [] ∧ Percent.decode? x.value = none) ∧
      ∀ values, c.valuesIn? path query = some values →
        (∀ name start x, IsShareOf c.segments shares name start x → values.get? name =
          if x.value = [] then query.nonempty? name else Percent.decode? x.value) ∧
        ∀ name ∉ c.segments.filterMap (·.name), values.get? name = none := by
  have hsearch := search_eq_cuts hr hc path
  refine ⟨?_, fun hnone => ?_, fun m hm => ?_⟩
  · rw [hsearch, Option.isSome_map]
    constructor
    · intro h
      obtain ⟨shares, hshares⟩ := Option.isSome_iff_exists.mp h
      exact ⟨shares, mem_cuts.mp (List.mem_of_mem_head? hshares)⟩
    · rintro ⟨shares, hcut⟩
      rw [List.isSome_head?, ne_eq]
      exact List.ne_nil_of_mem (mem_cuts.mpr hcut)
  · refine Segment.valuesIn?_eq_none_iff.mpr fun m hm => ?_
    rw [hnone] at hm
    cases hm
  · cases hcuts : cuts c.segments path with
    | nil =>
      rw [hsearch, hcuts] at hm
      cases hm
    | cons shares rest =>
      have hhead : (cuts c.segments path).head? = some shares := by rw [hcuts]; rfl
      have hfirst := isFirstCut_of_cuts_eq_cons hcuts
      refine ⟨shares, hfirst, fun name start x hx => span?_of_search hr hc hhead hm hx, ?_,
        fun values hvalues => ?_⟩
      · rw [CompiledRoute.valuesIn?, Segment.valuesIn?_eq_none_iff]
        constructor
        · intro h
          obtain ⟨name, hname, hnone⟩ := h m hm
          obtain ⟨start, x, hx⟩ := hfirst.1.exists_isShareOf hname
          rw [value?_of_search hr hc hhead hm hx] at hnone
          split at hnone
          · cases hnone
          · rename_i hne
            exact ⟨name, start, x, hx, hne, Option.map_eq_none_iff.mp hnone⟩
        · rintro ⟨name, start, x, hx, hne, hnone⟩ m' hm'
          have hname : name ∈ c.segments.filterMap (·.name) := by
            obtain ⟨i, s, hs, hname, -⟩ := hx
            exact List.mem_filterMap.mpr ⟨s, List.mem_of_getElem? hs, hname⟩
          refine ⟨name, hname, ?_⟩
          rw [value?_of_search hr hc hhead hm' hx, if_neg hne, hnone]
          rfl
      · obtain ⟨m', hm', hvalue, hother⟩ :=
          Segment.get?_of_valuesIn? (nodup_names_of_compile hc) hvalues
        refine ⟨fun name start x hx => ?_, hother⟩
        have hname : name ∈ c.segments.filterMap (·.name) := by
          obtain ⟨i, s, hs, hname, -⟩ := hx
          exact List.mem_filterMap.mpr ⟨s, List.mem_of_getElem? hs, hname⟩
        have heq := hvalue name hname
        rw [value?_of_search hr hc hhead hm' hx] at heq
        split at heq
        · rename_i hempty
          rw [if_pos hempty]
          exact (Option.some.inj heq).symm
        · rename_i hne
          rw [if_neg hne]
          obtain ⟨v, hv, hsome⟩ := Option.map_eq_some_iff.mp heq
          rw [hv, hsome]

/-- A route whose optional parameter can only be told from its neighbours by the greedy order. -/
def gapRoute : Route :=
  { template := "{a}/{b?}/{c}".toList }

/-- On a path with two components the middle parameter takes from the second one. -/
theorem gapRoute_match_iff_cut : ∃ c, gapRoute.compile ∅ = .ok c ∧
    ∃ m, c.regex.search "x/yz".toList = some m ∧ ∃ shares,
      IsFirstCut Segment.PlainValue c.segments shares "x/yz".toList ∧
      ∀ name start x, IsShareOf c.segments shares name start x →
        m.span? name = some (start, start + x.value.length) := by
  have hany : (gapRoute.compile ∅).toOption.any (fun c =>
      (c.regex.search "x/yz".toList).isSome) = true := by decide +kernel
  obtain ⟨c, hc, hsome⟩ := exists_ok_of_any_toOption hany
  obtain ⟨m, hm⟩ := Option.isSome_iff_exists.mp hsome
  obtain ⟨shares, hfirst, hspan, -⟩ :=
    (constraintFree_match_iff_cut (fun _ _ _ _ => rfl) hc "x/yz".toList).2.2 m hm
  exact ⟨c, hc, m, hm, shares, hfirst, hspan⟩

end

end PathRouting
