import PathRouting.Proofs.Route.Building
import PathRouting.Proofs.Template.Rendering

/-!
# The components of a template

The slashes of its literal text cut a template into components. Where no placeholders are glued
together and no slash directly follows another one, the segments of a compiled route are the
components of its template: a placeholder with the text around it is one component, and a piece of
literal text stands for one or more of them.
-/

namespace PathRouting

/-- A component of a template: literal text, or a placeholder with the text around it. -/
structure Component where
  /-- The text before the placeholder, or all of the text. -/
  before : Text
  /-- The name of the parameter, if there is one. -/
  name : Option Text
  /-- The text behind the placeholder. -/
  after : Text
deriving DecidableEq

/-- The character that a symbol is, if it is no gap. -/
def Symbol.char? : Symbol → Option Char
  | .char c => some c
  | .gap _ => none

namespace Component

/-- A component that is literal text. -/
def literal (text : Text) : Component :=
  ⟨text, none, []⟩

/-- The component that a row of symbols without a slash makes up. -/
def ofSymbols : List Symbol → Component
  | [] => literal []
  | .char c :: rest => { ofSymbols rest with before := c :: (ofSymbols rest).before }
  | .gap p :: rest => ⟨[], some p.name, rest.filterMap Symbol.char?⟩

/-- Literal text makes up a component. -/
theorem ofSymbols_map_char (t : Text) : ofSymbols (t.map .char) = literal t := by
  induction t with
  | nil => rfl
  | cons c t ih =>
    rw [List.map_cons, ofSymbols, ih]
    rfl

/-- A gap with the text around it makes up a component. -/
theorem ofSymbols_append_gap (before after : Text) (p : Placeholder) :
    ofSymbols (before.map .char ++ .gap p :: after.map .char) = ⟨before, some p.name, after⟩ := by
  induction before with
  | nil =>
    have hafter : (after.map Symbol.char).filterMap Symbol.char? = after := by
      rw [List.filterMap_map]
      exact List.filterMap_some
    rw [List.map_nil, List.nil_append, ofSymbols, hafter]
  | cons c before ih => rw [List.map_cons, List.cons_append, ofSymbols, ih]

end Component

namespace Template

/-- The components of a template. -/
def components (t : Template) : List Component :=
  (t.symbols.splitOn (.char '/')).map Component.ofSymbols

/-- Every two consecutive placeholders have a slash between them. -/
def Unglued (t : Template) : Prop :=
  ∀ p ∈ t.layout.placed.tail, '/' ∈ p.gap

/-- No slash of the literal text directly follows another one. -/
def NoEmptyComponent (t : Template) : Prop :=
  (∀ p ∈ t.layout.placed, ¬"//".toList <:+: p.gap) ∧ ¬"//".toList <:+: t.layout.trailing

end Template

/-- Literal text is cut into components alike as characters and as symbols. -/
theorem splitOn_map_char (t : Text) :
    (t.map Symbol.char).splitOn (.char '/') = (t.splitOn '/').map (·.map .char) := by
  induction t with
  | nil => rfl
  | cons c t ih =>
    rw [List.map_cons, List.splitOn_cons_eq_if_modifyHead, List.splitOn_cons_eq_if_modifyHead, ih]
    by_cases hc : c = '/'
    · subst hc
      rfl
    · have hsymbol : (Symbol.char c == Symbol.char '/') = false := by simpa using hc
      have hchar : (c == '/') = false := by simpa using hc
      rw [hsymbol, hchar]
      obtain ⟨piece, pieces, hpieces⟩ := List.exists_cons_of_ne_nil (List.splitOn_ne_nil '/' t)
      rw [hpieces]
      rfl

namespace Segment

/-- The components that a segment of a compiled route stands for. -/
def components (s : Segment) : List Component :=
  match s.name with
  | none => ((Regex.unescape s.pattern).splitOn '/').map Component.literal
  | some name => [⟨Regex.unescape s.before, some name, Regex.unescape s.after⟩]

/-- A segment stands for components. -/
theorem components_ne_nil (s : Segment) : s.components ≠ [] := by
  unfold components
  split
  · simp
  · simp

/-- A placeholder's segment stands for a single component. -/
theorem components_escape_of_name {s : Segment} {name : Text} (hname : s.name = some name)
    (after : Text) :
    (escape { s with after }).components = [⟨s.before, some name, after⟩] := by
  have hescape : (escape { s with after }).name = some name := hname
  unfold components
  rw [hescape]
  dsimp only
  rw [escape, Regex.unescape_escape, Regex.unescape_escape]

/-- Pieces of literal text stand for the components between their slashes. -/
theorem flatMap_components_literals {text : Text} (ht : text ≠ []) :
    ((literals text).map escape).flatMap components =
      ((text.map Symbol.char).splitOn (.char '/')).map Component.ofSymbols := by
  have hpieces : literals text = [literal text] := by
    unfold literals
    rw [if_neg (by simpa using ht)]
  have hpattern : (literal text).escape.components =
      (text.splitOn '/').map Component.literal := by
    change ((Regex.unescape (Regex.escape text)).splitOn '/').map Component.literal = _
    rw [Regex.unescape_escape]
  rw [hpieces, List.map_singleton, List.flatMap_singleton, hpattern, splitOn_map_char,
    List.map_map]
  congr 1
  funext t
  exact (Component.ofSymbols_map_char t).symm

/-- Marking borders touches no components. -/
theorem flatMap_components_markBorders (segments : List Segment) :
    ((markBorders segments).map escape).flatMap components =
      (segments.map escape).flatMap components := by
  rw [List.flatMap_def, List.flatMap_def, List.map_map, List.map_map,
    map_markBorders (fun _ _ _ => rfl)]

end Segment

namespace Route

variable {r : Route} {defaults : Dict ParameterDefault} {query : Values}

/-- The symbols of a placeholder and of what follows it. -/
def symbolsFrom (trailing : Text) (before : Text) (p : Placeholder)
    (placed : List Template.Placed) : List Symbol :=
  before.map .char ++ .gap p ::
    (placed.flatMap (fun q => q.gap.map .char ++ [.gap q.placeholder]) ++ trailing.map .char)

/-- The component of a placeholder ends at the first slash behind it. -/
theorem components_append_slash {before head : Text} (p : Placeholder) (hbefore : '/' ∉ before)
    (hhead : '/' ∉ head) (rest : List Symbol) :
    ((before.map Symbol.char ++ .gap p :: (head.map Symbol.char ++ .char '/' :: rest)).splitOn
        (.char '/')).map Component.ofSymbols =
      ⟨before, some p.name, head⟩ :: (rest.splitOn (.char '/')).map Component.ofSymbols := by
  have hnone : Symbol.char '/' ∉ before.map Symbol.char ++ .gap p :: head.map .char := by
    simp [hbefore, hhead]
  have happend : before.map Symbol.char ++ .gap p :: (head.map Symbol.char ++ .char '/' :: rest) =
      (before.map Symbol.char ++ .gap p :: head.map .char) ++ .char '/' :: rest := by simp
  rw [happend, List.splitOn_append_cons_self_of_not_mem hnone, List.map_cons,
    Component.ofSymbols_append_gap]

/-- The segments from a placeholder on stand for the components from it on. -/
theorem flatMap_components_segmentsFrom {trailing : Text} {s : Segment} {p : Placeholder}
    {placed : List Template.Placed} (hname : s.name = some p.name) (hbefore : '/' ∉ s.before)
    (hglue : ∀ q ∈ placed, '/' ∈ q.gap) (hempty : ∀ q ∈ placed, ¬"//".toList <:+: q.gap)
    (htrailing : trailing.getLast? ≠ some '/') :
    ((r.segmentsFrom defaults query trailing s placed).map Segment.escape).flatMap
        Segment.components =
      ((symbolsFrom trailing s.before p placed).splitOn (.char '/')).map Component.ofSymbols := by
  induction placed generalizing s p with
  | nil =>
    rw [segmentsFrom, symbolsFrom, List.flatMap_nil, List.nil_append]
    obtain ⟨hslash, hcut⟩ | ⟨head, rest, rfl, hhead, hcut⟩ := s.splitTrailing_cases trailing
    · have hnone : Symbol.char '/' ∉ s.before.map Symbol.char ++ .gap p :: trailing.map .char := by
        simp [hbefore, hslash]
      rw [hcut, List.splitOn_eq_singleton hnone, List.map_singleton, List.map_singleton,
        Component.ofSymbols_append_gap, List.flatMap_singleton,
        Segment.components_escape_of_name hname]
    · have hrest : rest ≠ [] := by
        rintro rfl
        exact htrailing (by simp)
      rw [hcut, List.map_append, List.map_cons, List.map_cons, components_append_slash p hbefore hhead,
        List.flatMap_cons, Segment.flatMap_components_literals hrest,
        Segment.components_escape_of_name hname, List.singleton_append]
  | cons q rest ih =>
    obtain ⟨gap, q⟩ := q
    obtain ⟨hgap, hglue⟩ := List.forall_mem_cons.mp hglue
    obtain ⟨hslashes, hempty⟩ := List.forall_mem_cons.mp hempty
    have hnext : ∀ before : Text, '/' ∉ before →
        ((r.segmentsFrom defaults query trailing (r.segmentOf defaults query q before) rest).map
            Segment.escape).flatMap Segment.components =
          ((symbolsFrom trailing before q rest).splitOn (.char '/')).map Component.ofSymbols :=
      fun before hbefore => ih (s := r.segmentOf defaults query q before) rfl hbefore hglue hempty
    have hsymbols : ∀ head back : Text, gap = head ++ '/' :: back →
        symbolsFrom trailing s.before p (⟨gap, q⟩ :: rest) =
          s.before.map .char ++ .gap p :: (head.map .char ++ .char '/' ::
            (back.map .char ++ symbolsFrom trailing [] q rest)) := by
      rintro head back rfl
      simp [symbolsFrom]
    obtain ⟨hslash, -⟩ | ⟨head, back, hcut, hhead, hnone, hbetween⟩ |
      ⟨head, middle, tail, hcut, hhead, htail, hbetween⟩ := s.splitBetween_cases gap
    · exact absurd hgap hslash
    · have hrest : back.map Symbol.char ++ symbolsFrom trailing [] q rest =
          symbolsFrom trailing back q rest := by simp [symbolsFrom]
      rw [hsymbols head back hcut, components_append_slash p hbefore hhead, segmentsFrom, hbetween]
      dsimp only
      rw [List.singleton_append, List.map_cons, List.flatMap_cons, hnext back hnone,
        Segment.components_escape_of_name hname, hrest, List.singleton_append]
    · have hmiddle : middle ≠ [] := by
        rintro rfl
        exact hslashes ⟨head, tail, by rw [hcut]; simp⟩
      have hrest : (middle ++ '/' :: tail).map Symbol.char ++ symbolsFrom trailing [] q rest =
          middle.map Symbol.char ++ .char '/' :: symbolsFrom trailing tail q rest := by
        simp [symbolsFrom]
      rw [hsymbols head _ hcut, components_append_slash p hbefore hhead, segmentsFrom, hbetween]
      dsimp only
      rw [List.cons_append, List.map_cons, List.flatMap_cons, List.map_append,
        List.flatMap_append, Segment.flatMap_components_literals hmiddle, hnext tail htail, hrest,
        List.splitOn_append_cons_self, List.map_append, Segment.components_escape_of_name hname,
        List.singleton_append]

/-- The segments of a route stand for the components of its template. -/
theorem flatMap_components_templateSegments {t : Template} (hglue : t.Unglued)
    (hempty : t.NoEmptyComponent) (hhead : t.symbols.head? ≠ some (.char '/'))
    (hlast : t.symbols.getLast? ≠ some (.char '/')) :
    ((r.templateSegments query t).map Segment.escape).flatMap Segment.components =
      t.components := by
  have hsymbols := t.symbols_layout
  have htrailing : t.layout.trailing.getLast? ≠ some '/' :=
    fun h => hlast (Template.getLast?_symbols_of_trailing h)
  obtain ⟨hgaps, -⟩ := hempty
  unfold Template.Unglued at hglue
  unfold templateSegments Template.components
  rw [Segment.flatMap_components_markBorders, ← hsymbols]
  unfold layoutSegments
  split
  · rename_i hplaced
    have hliteral : (Segment.literal t.layout.trailing).escape.components =
        (t.layout.trailing.splitOn '/').map Component.literal := by
      change ((Regex.unescape (Regex.escape t.layout.trailing)).splitOn '/').map
        Component.literal = _
      rw [Regex.unescape_escape]
    rw [hplaced, List.flatMap_nil, List.nil_append, List.map_singleton, List.flatMap_singleton,
      hliteral, splitOn_map_char, List.map_map]
    congr 1
    funext text
    exact (Component.ofSymbols_map_char text).symm
  · rename_i gap p rest hplaced
    rw [hplaced] at hglue hgaps hsymbols ⊢
    obtain ⟨-, hgaps⟩ := List.forall_mem_cons.mp hgaps
    have hnext : ∀ before : Text, '/' ∉ before →
        ((r.segmentsFrom (r.mergedDefaults (⟨gap, p⟩ :: rest)) query t.layout.trailing
            (r.segmentOf (r.mergedDefaults (⟨gap, p⟩ :: rest)) query p before) rest).map
              Segment.escape).flatMap Segment.components =
          ((symbolsFrom t.layout.trailing before p rest).splitOn (.char '/')).map
            Component.ofSymbols :=
      fun before hbefore => flatMap_components_segmentsFrom
        (s := r.segmentOf _ query p before) rfl hbefore hglue hgaps htrailing
    have hfront : ∀ before : Text, before.map Symbol.char ++ symbolsFrom t.layout.trailing [] p rest =
        symbolsFrom t.layout.trailing before p rest := fun before => by simp [symbolsFrom]
    have hcons : (⟨gap, p⟩ :: rest : List Template.Placed).flatMap
          (fun q => q.gap.map Symbol.char ++ [.gap q.placeholder]) ++
            t.layout.trailing.map Symbol.char = symbolsFrom t.layout.trailing gap p rest := by
      simp [symbolsFrom]
    rw [hcons]
    obtain ⟨hslash, hleading⟩ | ⟨front, back, rfl, hback, hleading⟩ := Segment.splitLeading_cases gap
    · rw [hleading]
      dsimp only
      rw [List.nil_append, hnext gap hslash]
    · have hne : front ≠ [] := by
        rintro rfl
        exact hhead (Template.head?_symbols_of_gap hplaced rfl)
      have hcut : symbolsFrom t.layout.trailing (front ++ '/' :: back) p rest =
          front.map Symbol.char ++ .char '/' :: symbolsFrom t.layout.trailing back p rest := by
        simp [symbolsFrom]
      rw [hleading]
      dsimp only
      rw [List.map_append, List.flatMap_append, Segment.flatMap_components_literals hne,
        hnext back hback, hcut, List.splitOn_append_cons_self, List.map_append]

end Route

end PathRouting
