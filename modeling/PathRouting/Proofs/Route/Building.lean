import PathRouting.Proofs.Segment.Borders
import PathRouting.Proofs.Segment.Escaping
import PathRouting.Proofs.Segment.Expression
import PathRouting.Proofs.Template.Names
import PathRouting.Proofs.Text.Splitting

/-!
# What a compiled route is built of

The segments of a compiled route are those of its template, escaped and with their borders marked.
Each of them is a piece of literal text or belongs to one placeholder, and the placeholders come in
the order of the template.
-/

namespace PathRouting

open Regex

/-- What is known about a segment that was built for a layout. -/
structure Segment.BuiltFor (r : Route) (defaults : Dict ParameterDefault) (query : Values)
    (placed : List Template.Placed) (s : Segment) : Prop where
  /-- A value belongs to a placeholder, by which it is described. -/
  named : ∀ name, s.name = some name → (∃ p ∈ placed, p.placeholder.name = name) ∧
    s.isOptional = Route.isOptional defaults query name ∧
    s.pattern = r.valuePattern name s.isOptional
  /-- A piece of literal text is a segment of its own. -/
  literal : s.name = none → s.isOptional = false ∧ s.isGlued = false ∧ s.before = [] ∧ s.after = []

/-- A segment of a layout is that of a placeholder, with the text around it, or a piece of literal
text. -/
inductive Segment.PartOf (r : Route) (defaults : Dict ParameterDefault) (query : Values)
    (placed : List Template.Placed) : Segment → Prop
  /-- The segment belongs to a placeholder. -/
  | placeholder {p : Template.Placed} (hp : p ∈ placed) (before after : Text) (isGlued : Bool) :
    PartOf r defaults query placed
      { r.segmentOf defaults query p.placeholder before with after, isGlued }
  /-- The segment is a piece of literal text. -/
  | literal (text : Text) : PartOf r defaults query placed (.literal text)

namespace Segment

/-- Pieces of literal text are part of every layout. -/
theorem partOf_literals {r : Route} {defaults : Dict ParameterDefault} {query : Values}
    {placed : List Template.Placed} (text : Text) :
    ∀ s ∈ literals text, s.PartOf r defaults query placed := by
  intro s hs
  unfold literals at hs
  split at hs
  · exact absurd hs List.not_mem_nil
  · obtain rfl := List.mem_singleton.mp hs
    exact .literal text

/-- What is known about the segments of a layout. -/
theorem PartOf.builtFor {r : Route} {defaults : Dict ParameterDefault} {query : Values}
    {placed : List Template.Placed} {s : Segment} (h : s.PartOf r defaults query placed) :
    s.BuiltFor r defaults query placed := by
  cases h with
  | @placeholder p hp before after isGlued =>
    refine ⟨?_, fun hnone => absurd hnone (Option.some_ne_none _)⟩
    rintro _ ⟨⟩
    exact ⟨⟨p, hp, rfl⟩, rfl, rfl⟩
  | literal text =>
    exact ⟨fun _ hname => absurd hname.symm (Option.some_ne_none _), fun _ => ⟨rfl, rfl, rfl, rfl⟩⟩

/-- The borders of the segments of a layout have no marks yet. -/
theorem PartOf.unmarked {r : Route} {defaults : Dict ParameterDefault} {query : Values}
    {placed : List Template.Placed} {s : Segment} (h : s.PartOf r defaults query placed) :
    s.isLast = false ∧ s.optionalRest = false := by
  cases h with
  | placeholder => exact ⟨rfl, rfl⟩
  | literal => exact ⟨rfl, rfl⟩

/-- How the text before the first placeholder is cut: at its last slash, or not at all. -/
theorem splitLeading_cases (text : Text) :
    ('/' ∉ text ∧ splitLeading text = ([], text)) ∨
    (∃ front back, text = front ++ '/' :: back ∧ '/' ∉ back ∧
      splitLeading text = (literals front, back)) := by
  unfold splitLeading
  cases hsplit : Text.splitLast '/' text with
  | none => exact .inl ⟨Text.notMem_of_splitLast_eq_none hsplit, rfl⟩
  | some cut =>
    obtain ⟨rfl, hback⟩ := Text.splitLast_eq_some hsplit
    exact .inr ⟨cut.1, cut.2, rfl, hback, rfl⟩

/-- How the text between two placeholders is cut: not at all if it has no slash, once if it has one,
and else at its first slash and at its last one. -/
theorem splitBetween_cases (s : Segment) (text : Text) :
    ('/' ∉ text ∧ s.splitBetween text = ([{ s with isGlued := true }], text)) ∨
    (∃ head tail, text = head ++ '/' :: tail ∧ '/' ∉ head ∧ '/' ∉ tail ∧
      s.splitBetween text = ([{ s with after := head }], tail)) ∨
    (∃ head middle tail, text = head ++ '/' :: (middle ++ '/' :: tail) ∧ '/' ∉ head ∧ '/' ∉ tail ∧
      s.splitBetween text = ({ s with after := head } :: literals middle, tail)) := by
  unfold splitBetween
  cases hsplit : Text.splitFirst '/' text with
  | none => exact .inl ⟨Text.notMem_of_splitFirst_eq_none hsplit, rfl⟩
  | some cut =>
    obtain ⟨head, rest⟩ := cut
    obtain ⟨rfl, hhead⟩ := Text.splitFirst_eq_some hsplit
    dsimp only
    cases hrest : Text.splitLast '/' rest with
    | none => exact .inr (.inl ⟨head, rest, rfl, hhead, Text.notMem_of_splitLast_eq_none hrest, rfl⟩)
    | some cut =>
      obtain ⟨rfl, htail⟩ := Text.splitLast_eq_some hrest
      exact .inr (.inr ⟨head, cut.1, cut.2, rfl, hhead, htail, rfl⟩)

/-- How the text behind the last placeholder is cut: at its first slash, or not at all. -/
theorem splitTrailing_cases (s : Segment) (text : Text) :
    ('/' ∉ text ∧ s.splitTrailing text = [{ s with after := text }]) ∨
    (∃ head rest, text = head ++ '/' :: rest ∧ '/' ∉ head ∧
      s.splitTrailing text = { s with after := head } :: literals rest) := by
  unfold splitTrailing
  cases hsplit : Text.splitFirst '/' text with
  | none => exact .inl ⟨Text.notMem_of_splitFirst_eq_none hsplit, rfl⟩
  | some cut =>
    obtain ⟨rfl, hhead⟩ := Text.splitFirst_eq_some hsplit
    exact .inr ⟨cut.1, cut.2, rfl, hhead, rfl⟩

/-- The segments before the text that is attached to the next placeholder are the placeholder's
segment, with the text behind it, and literal text. -/
theorem mem_splitBetween {s d : Segment} {text : Text} (h : d ∈ (s.splitBetween text).1) :
    (∃ after isGlued, d = { s with after, isGlued }) ∨ ∃ middle, d ∈ literals middle := by
  unfold splitBetween at h
  split at h
  · obtain rfl := List.mem_singleton.mp h
    exact .inl ⟨_, _, rfl⟩
  · dsimp only at h
    split at h
    · obtain rfl := List.mem_singleton.mp h
      exact .inl ⟨_, _, rfl⟩
    · rcases List.mem_cons.mp h with rfl | h
      · exact .inl ⟨_, _, rfl⟩
      · exact .inr ⟨_, h⟩

/-- The segments behind the last placeholder are the placeholder's segment, with the text behind
it, and literal text. -/
theorem mem_splitTrailing {s d : Segment} {text : Text} (h : d ∈ s.splitTrailing text) :
    (∃ after, d = { s with after }) ∨ ∃ rest, d ∈ literals rest := by
  unfold splitTrailing at h
  split at h
  · obtain rfl := List.mem_singleton.mp h
    exact .inl ⟨_, rfl⟩
  · rcases List.mem_cons.mp h with rfl | h
    · exact .inl ⟨_, rfl⟩
    · exact .inr ⟨_, h⟩

/-- Literal text has no names. -/
theorem filterMap_name_literals (text : Text) : (literals text).filterMap (·.name) = [] := by
  unfold literals
  split <;> rfl

end Segment

namespace Route

variable {r : Route} {defaults : Dict ParameterDefault} {query : Values}

/-- The segments from a placeholder on are part of the layout. -/
theorem partOf_segmentsFrom {trailing : Text} {all : List Template.Placed} {p : Template.Placed}
    {placed : List Template.Placed} (hp : p ∈ all) (hall : ∀ q ∈ placed, q ∈ all) (before : Text) :
    ∀ d ∈ r.segmentsFrom defaults query trailing (r.segmentOf defaults query p.placeholder before)
      placed, d.PartOf r defaults query all := by
  induction placed generalizing p before with
  | nil =>
    intro d hd
    rcases Segment.mem_splitTrailing hd with ⟨after, rfl⟩ | ⟨rest, hd⟩
    · exact .placeholder hp before after false
    · exact Segment.partOf_literals rest d hd
  | cons q rest ih =>
    obtain ⟨hq, hall⟩ := List.forall_mem_cons.mp hall
    intro d hd
    rw [segmentsFrom] at hd
    rcases List.mem_append.mp hd with hd | hd
    · rcases Segment.mem_splitBetween hd with ⟨after, isGlued, rfl⟩ | ⟨middle, hd⟩
      · exact .placeholder hp before after isGlued
      · exact Segment.partOf_literals middle d hd
    · exact ih hq hall _ d hd

/-- The segments of a layout are part of it. -/
theorem partOf_layoutSegments (l : Template.Layout) :
    ∀ s ∈ r.layoutSegments defaults query l, s.PartOf r defaults query l.placed := by
  intro s hs
  unfold layoutSegments at hs
  split at hs
  · obtain rfl := List.mem_singleton.mp hs
    exact .literal l.trailing
  · rename_i gap p rest hplaced
    have hall : ∀ q ∈ (⟨gap, p⟩ : Template.Placed) :: rest, q ∈ l.placed := fun q hq => by
      rw [hplaced]
      exact hq
    obtain ⟨hp, hrest⟩ := List.forall_mem_cons.mp hall
    rcases List.mem_append.mp hs with hs | hs
    · split at hs
      · exact Segment.partOf_literals _ s hs
      · exact absurd hs List.not_mem_nil
    · exact partOf_segmentsFrom hp hrest _ s hs

/-- The names of the segments from a placeholder on are the names of the placeholders in order. -/
theorem filterMap_name_segmentsFrom {trailing : Text} {s : Segment} {name : Text}
    {placed : List Template.Placed} (hname : s.name = some name) :
    (r.segmentsFrom defaults query trailing s placed).filterMap (·.name) =
      name :: placed.map (·.placeholder.name) := by
  induction placed generalizing s name with
  | nil =>
    rw [segmentsFrom]
    unfold Segment.splitTrailing
    split
    · simp [hname]
    · simp [hname, Segment.filterMap_name_literals]
  | cons p rest ih =>
    rw [segmentsFrom, List.filterMap_append]
    have hrest := ih (s := r.segmentOf defaults query p.placeholder (s.splitBetween p.gap).2) rfl
    rw [hrest]
    unfold Segment.splitBetween
    split
    · simp [hname]
    · dsimp only
      split
      · simp [hname]
      · simp [hname, Segment.filterMap_name_literals]

/-- The names of the segments of a layout are the names of the placeholders in order. -/
theorem filterMap_name_layoutSegments (l : Template.Layout) :
    (r.layoutSegments defaults query l).filterMap (·.name) =
      l.placed.map (·.placeholder.name) := by
  unfold layoutSegments
  split
  · rename_i hplaced
    rw [hplaced]
    rfl
  · rename_i gap p rest hplaced
    rw [hplaced, List.filterMap_append, filterMap_name_segmentsFrom rfl]
    unfold Segment.splitLeading
    split
    · rw [Segment.filterMap_name_literals]
      rfl
    · rfl

/-- The names of the placeholders of a layout without faults are distinct. -/
theorem nodup_names_of_check {l : Template.Layout} (h : r.check l = .ok ()) :
    (l.placed.map (·.placeholder.name)).Nodup := by
  have hafter : ∀ (placed : List Template.Placed) (earlier : List Text),
      r.checkAfter earlier placed = .ok () →
        (placed.map (·.placeholder.name)).Nodup ∧
          ∀ name ∈ placed.map (·.placeholder.name), name ∉ earlier := by
    intro placed
    induction placed with
    | nil => exact fun _ _ => ⟨List.nodup_nil, fun _ hname => absurd hname List.not_mem_nil⟩
    | cons p rest ih =>
      intro earlier h
      rw [checkAfter] at h
      obtain ⟨_, hname, h⟩ := bind_eq_ok h
      obtain ⟨_, _, h⟩ := bind_eq_ok h
      obtain ⟨_, _, h⟩ := bind_eq_ok h
      obtain ⟨_, _, h⟩ := bind_eq_ok h
      obtain ⟨hnodup, hnew⟩ := ih _ h
      have hp : p.placeholder.name ∉ earlier := by
        intro hmem
        unfold checkName at hname
        rw [if_pos hmem] at hname
        cases hname
      rw [List.map_cons, List.nodup_cons, List.forall_mem_cons]
      refine ⟨⟨fun hmem => ?_, hnodup⟩, hp, fun name hmem hin => ?_⟩
      · exact hnew _ hmem List.mem_cons_self
      · exact hnew name hmem (List.mem_cons_of_mem _ hin)
  exact (hafter l.placed [] h).1

/-- The segments of a route before its literal text is escaped. -/
def templateSegments (r : Route) (query : Values) (t : Template) : List Segment :=
  Segment.markBorders (r.layoutSegments (r.mergedDefaults t.layout.placed) query t.layout)

end Route

/-- Naming an error differently changes nothing about a success. -/
theorem mapError_eq_ok {ε ε' α : Type} {x : Except ε α} {f : ε → ε'} {a : α}
    (h : x.mapError f = .ok a) : x = .ok a := by
  cases x with
  | error e => cases h
  | ok b =>
    cases h
    rfl

/-- A result with a property is a success. -/
theorem exists_ok_of_any_toOption {ε α : Type} {x : Except ε α} {p : α → Bool}
    (h : x.toOption.any p = true) : ∃ a, x = .ok a ∧ p a = true := by
  cases x with
  | error e => cases h
  | ok a => exact ⟨a, rfl, h⟩

/-- An expression that compiles has been read. -/
theorem Regex.compile_eq_ok {f : Flags} {t : Text} {regex : Regex} (h : compile f t = .ok regex) :
    ∃ parsed, parse f t = .ok parsed ∧ regex = ⟨parsed.names, parsed.expr.program⟩ := by
  obtain ⟨parsed, hparsed, h⟩ := bind_eq_ok h
  split at h
  · cases h
  · cases h
    exact ⟨parsed, hparsed, rfl⟩

/-- A route whose template is read and passes its check compiles as the expression of its segments
does. -/
theorem Route.compile_eq {r : Route} {t : Template}
    (ht : Template.parse (Text.trim '/' r.template) = .ok t) (hcheck : r.check t.layout = .ok ())
    {query : Values} {segments : List Segment}
    (hsegments : (r.templateSegments query t).map Segment.escape = segments) :
    r.compile query = ((compilePattern (Segment.joinedPattern segments)).map fun regex =>
        ⟨Segment.joinedPattern segments, regex, segments, r.mergedDefaults t.layout.placed,
          Segment.joinedOutline query segments⟩).mapError
      fun e => .invalidTemplate r.template (.expression e) := by
  have hbuilt : r.segments t.escapeLiterals query = .ok
      ⟨(r.layoutSegments (r.mergedDefaults t.layout.placed) query t.layout).map Segment.escape,
        r.mergedDefaults t.layout.placed⟩ := by
    unfold Route.segments
    dsimp only
    rw [Template.layout_escapeLiterals, check_escape, hcheck, mergedDefaults_escape,
      layoutSegments_escape]
    rfl
  unfold compile
  rw [ht]
  change r.segments t.escapeLiterals query >>= _ = _
  rw [hbuilt]
  change (compilePattern (Segment.joinedPattern (Segment.markBorders _))).mapError _ >>= _ = _
  rw [Segment.markBorders_map_escape]
  change (compilePattern (Segment.joinedPattern
    ((r.templateSegments query t).map Segment.escape))).mapError _ >>= _ = _
  subst hsegments
  cases compilePattern _ <;> rfl

/-- What a compiled route is made of. -/
theorem Route.compile_eq_ok {r : Route} {query : Values} {c : CompiledRoute}
    (h : r.compile query = .ok c) :
    ∃ t, Template.parse (Text.trim '/' r.template) = .ok t ∧ r.check t.layout = .ok () ∧
      c.segments = (r.templateSegments query t).map Segment.escape ∧
      compilePattern (Segment.joinedPattern c.segments) = .ok c.regex ∧
      c.pattern = Segment.joinedPattern c.segments ∧
      c.defaults = r.mergedDefaults t.layout.placed ∧
      c.outline = Segment.joinedOutline query c.segments := by
  have hsource := h
  unfold compile at hsource
  obtain ⟨t, ht, hsource⟩ := bind_eq_ok hsource
  obtain ⟨built, hbuilt, -⟩ := bind_eq_ok hsource
  obtain ⟨⟨⟩, hcheck, -⟩ := bind_eq_ok hbuilt
  rw [Template.layout_escapeLiterals, Route.check_escape] at hcheck
  have ht := mapError_eq_ok ht
  rw [Route.compile_eq ht hcheck rfl] at h
  cases hregex : compilePattern (Segment.joinedPattern
      ((r.templateSegments query t).map Segment.escape)) with
  | error e =>
    rw [hregex] at h
    cases h
  | ok regex =>
    rw [hregex] at h
    cases h
    exact ⟨t, ht, hcheck, rfl, hregex, rfl, rfl, rfl⟩

/-- The segments of a compiled route are those of its template, escaped. -/
theorem Route.segments_of_compile {r : Route} {query : Values} {c : CompiledRoute} {t : Template}
    (ht : Template.parse (Text.trim '/' r.template) = .ok t) (hc : r.compile query = .ok c) :
    c.segments = (r.templateSegments query t).map Segment.escape := by
  obtain ⟨t', ht', -, hsegments, -⟩ := Route.compile_eq_ok hc
  obtain rfl : t = t' := Except.ok.inj (ht.symm.trans ht')
  exact hsegments

namespace Route

/-- The text of the body of the group of a value. -/
def valueBody (r : Route) (name : Text) (isOptional : Bool) : Text :=
  match r.constraints.get? name with
  | some constraint =>
    "(?:".toList ++ constraint ++ if isOptional then ")|".toList else ")".toList
  | none => Segment.plainBody isOptional

/-- The text of a value is a group. -/
theorem valuePattern_eq (r : Route) (name : Text) (isOptional : Bool) :
    r.valuePattern name isOptional = Segment.capture name (r.valueBody name isOptional) := by
  unfold valuePattern valueBody Segment.capture Segment.plainBody
  cases r.constraints.get? name <;> rfl

variable {r : Route} {query : Values} {t : Template}

/-- What is known about the segments of a route. -/
theorem builtFor_templateSegments :
    ∀ s ∈ r.templateSegments query t,
      s.BuiltFor r (r.mergedDefaults t.layout.placed) query t.layout.placed := by
  intro s hs
  obtain ⟨d, hd, isLast, optionalRest, rfl⟩ := Segment.exists_mem_of_mem_markBorders hs
  have hbuilt := (partOf_layoutSegments t.layout d hd).builtFor
  exact ⟨hbuilt.named, hbuilt.literal⟩

/-- The text of the value of an escaped segment is that of its parameter. -/
theorem pattern_of_mem_templateSegments {s : Segment}
    (hs : s ∈ (r.templateSegments query t).map Segment.escape) {name : Text}
    (hname : s.name = some name) : (∃ p ∈ t.placeholders, p.name = name) ∧
      s.isOptional = isOptional (r.mergedDefaults t.layout.placed) query name ∧
      s.pattern = Segment.capture name (r.valueBody name s.isOptional) := by
  obtain ⟨d, hd, rfl⟩ := List.mem_map.mp hs
  obtain ⟨⟨p, hp, rfl⟩, hopt, hpattern⟩ := (builtFor_templateSegments d hd).named _ hname
  refine ⟨⟨p.placeholder, ?_, rfl⟩, hopt, ?_⟩
  · rw [← Template.map_placeholder_layoutAfter []]
    exact List.mem_map_of_mem hp
  · change d.name = _ at hname
    unfold Segment.escape
    rw [hname]
    exact hpattern.trans (valuePattern_eq r _ _)

/-- The escaped segments of a route are groups with escaped text around them. -/
theorem shaped_templateSegments {text : Text} (ht : Template.parse text = .ok t) :
    ∀ s ∈ (r.templateSegments query t).map Segment.escape, s.Shaped := by
  intro s hs
  obtain ⟨d, hd, rfl⟩ := List.mem_map.mp hs
  refine ⟨?_, ?_, fun hname => ?_, fun name hname => ?_⟩
  · exact congrArg escape (unescape_escape d.before)
  · exact congrArg escape (unescape_escape d.after)
  · change d.name = none at hname
    have hpattern : d.escape.pattern = escape d.pattern := by
      unfold Segment.escape
      rw [hname]
      rfl
    rw [hpattern, unescape_escape]
  · obtain ⟨⟨p, hp, rfl⟩, -, hpattern⟩ := pattern_of_mem_templateSegments hs hname
    exact ⟨Template.isGroupName_of_parse ht p hp, _, hpattern⟩

/-- The parameters of the segments of a route are those of its placeholders. -/
theorem filterMap_name_templateSegments :
    ((r.templateSegments query t).map Segment.escape).filterMap (·.name) =
      t.placeholders.map (·.name) := by
  have hplaced : t.layout.placed.map (·.placeholder) = t.placeholders :=
    Template.map_placeholder_layoutAfter [] t
  rw [List.filterMap_map]
  change (r.templateSegments query t).filterMap (·.name) = _
  rw [templateSegments, Segment.filterMap_name_markBorders, filterMap_name_layoutSegments,
    ← hplaced, List.map_map]
  rfl

/-- The names of the segments of a route are distinct. -/
theorem nodup_names_templateSegments (hcheck : r.check t.layout = .ok ()) :
    (((r.templateSegments query t).map Segment.escape).filterMap (·.name)).Nodup := by
  rw [List.filterMap_map]
  change ((r.templateSegments query t).filterMap (·.name)).Nodup
  rw [templateSegments, Segment.filterMap_name_markBorders, filterMap_name_layoutSegments]
  exact nodup_names_of_check hcheck

end Route

end PathRouting
