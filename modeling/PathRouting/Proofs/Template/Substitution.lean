import PathRouting.Proofs.Template.Components
import PathRouting.Proofs.Text.Percent

/-!
# Filling the gaps of a template

With a text for every parameter, a template makes a path: its literal text as it is, and the encoded
texts in the gaps. No encoded text holds a slash. So where no placeholders are glued together, the
components of the path are the components of the template with their gaps filled.
-/

namespace PathRouting

/-- What stands for a part of a template in a path. -/
def Part.fill (assign : Text → Text) : Part → Text
  | .literal text => text
  | .placeholder p => Percent.encode (assign p.name)

/-- What stands for a symbol of a template in a path. -/
def Symbol.fill (assign : Text → Text) : Symbol → Text
  | .char c => [c]
  | .gap p => Percent.encode (assign p.name)

/-- What stands for a component of a template in a path. -/
def Component.fill (assign : Text → Text) (c : Component) : Text :=
  c.before ++ c.name.elim [] (fun name => Percent.encode (assign name)) ++ c.after

/-- The path that a template makes of texts for its parameters. -/
def Template.substitute (assign : Text → Text) (t : Template) : Text :=
  t.flatMap (Part.fill assign)

/-- A slash stands between every two gaps, and also before the first one if a gap has been seen since
the last slash. -/
def Symbol.Apart : Bool → List Symbol → Prop
  | _, [] => True
  | seen, .char c :: rest => Apart (seen && c != '/') rest
  | seen, .gap _ :: rest => seen = false ∧ Apart true rest

variable {assign : Text → Text}

/-- A path is made symbol by symbol. -/
theorem Template.flatMap_fill_symbols (t : Template) :
    t.symbols.flatMap (Symbol.fill assign) = t.substitute assign := by
  unfold symbols substitute
  rw [List.flatMap_assoc]
  congr 1
  funext part
  cases part with
  | literal text =>
    change (text.map Symbol.char).flatMap _ = text
    rw [List.flatMap_map]
    exact List.flatMap_singleton' text
  | placeholder p => exact List.flatMap_singleton ..

namespace Symbol

/-- Text with a slash in it sets gaps apart. -/
theorem apart_map_char_append {seen : Bool} {t : Text} {rest : List Symbol} :
    Apart seen (t.map .char ++ rest) ↔ Apart (seen && !decide ('/' ∈ t)) rest := by
  induction t generalizing seen with
  | nil => simp
  | cons c t ih =>
    have hseen : (seen && c != '/' && !decide ('/' ∈ t)) = (seen && !decide ('/' ∈ c :: t)) := by
      by_cases hc : c = '/'
      · simp [hc]
      · have hne : (c != '/') = true := by simpa using hc
        rw [hne, Bool.and_true]
        simp [Ne.symm hc]
    rw [List.map_cons, List.cons_append, Apart, ih, hseen]

end Symbol

/-- The gaps of an unglued template are set apart. -/
theorem Template.Unglued.apart {t : Template} (h : t.Unglued) : Symbol.Apart false t.symbols := by
  have htrailing : ∀ seen, Symbol.Apart seen (t.layout.trailing.map .char) := by
    intro seen
    rw [← List.append_nil (t.layout.trailing.map Symbol.char), Symbol.apart_map_char_append]
    trivial
  have hrest : ∀ placed : List Placed, (∀ p ∈ placed, '/' ∈ p.gap) →
      Symbol.Apart true (placed.flatMap (fun p => p.gap.map .char ++ [.gap p.placeholder]) ++
        t.layout.trailing.map .char) := by
    intro placed hplaced
    induction placed with
    | nil => exact htrailing true
    | cons p placed ih =>
      obtain ⟨hp, hplaced⟩ := List.forall_mem_cons.mp hplaced
      rw [List.flatMap_cons, List.append_assoc, List.append_assoc, Symbol.apart_map_char_append]
      exact ⟨by simp [hp], ih hplaced⟩
  unfold Unglued at h
  rw [← symbols_layout]
  cases hplaced : t.layout.placed with
  | nil => exact htrailing false
  | cons p placed =>
    rw [hplaced] at h
    rw [List.flatMap_cons, List.append_assoc, List.append_assoc, Symbol.apart_map_char_append]
    exact ⟨rfl, hrest placed h⟩

/-- Up to the next slash no gap follows one that has been seen. -/
theorem Symbol.Apart.exists_splitOn {symbols : List Symbol} (h : Apart true symbols) :
    ∃ (text : Text) (pieces : List (List Symbol)),
      symbols.splitOn (.char '/') = text.map .char :: pieces := by
  induction symbols with
  | nil => exact ⟨[], [], rfl⟩
  | cons x symbols ih =>
    cases x with
    | gap p => exact absurd h.1 Bool.noConfusion
    | char c =>
      rw [List.splitOn_cons_eq_if_modifyHead]
      by_cases hc : c = '/'
      · subst hc
        exact ⟨[], _, rfl⟩
      · have hne : (Symbol.char c == Symbol.char '/') = false := by simpa using hc
        have hseen : (true && c != '/') = true := by simpa using hc
        rw [Apart, hseen] at h
        obtain ⟨text, pieces, hpieces⟩ := ih h
        rw [hne, hpieces]
        exact ⟨c :: text, pieces, rfl⟩

/-- Text without a slash in front belongs to the first piece. -/
theorem splitOn_append_of_notMem {t : Text} (ht : '/' ∉ t) (u : Text) :
    (t ++ u).splitOn '/' = (u.splitOn '/').modifyHead (t ++ ·) := by
  obtain ⟨piece, pieces, hpieces⟩ := List.exists_cons_of_ne_nil (List.splitOn_ne_nil '/' u)
  rw [hpieces]
  induction t with
  | nil => exact hpieces
  | cons c t ih =>
    rw [List.mem_cons, not_or] at ht
    have hne : (c == '/') = false := by simpa using Ne.symm ht.1
    rw [List.cons_append, List.splitOn_cons_eq_if_modifyHead, hne, ih ht.2]
    rfl

/-- Symbols whose gaps are set apart make a path with the components that they make up. -/
theorem splitOn_flatMap_fill {seen : Bool} {symbols : List Symbol} (h : Symbol.Apart seen symbols) :
    (symbols.flatMap (Symbol.fill assign)).splitOn '/' =
      (symbols.splitOn (.char '/')).map fun piece => (Component.ofSymbols piece).fill assign := by
  induction symbols generalizing seen with
  | nil => rfl
  | cons x symbols ih =>
    rw [List.flatMap_cons]
    cases x with
    | char c =>
      rw [Symbol.fill, List.singleton_append, List.splitOn_cons_eq_if_modifyHead, ih h,
        List.splitOn_cons_eq_if_modifyHead]
      by_cases hc : c = '/'
      · subst hc
        rfl
      · have hchar : (c == '/') = false := by simpa using hc
        have hsymbol : (Symbol.char c == Symbol.char '/') = false := by simpa using hc
        obtain ⟨piece, pieces, hpieces⟩ :=
          List.exists_cons_of_ne_nil (List.splitOn_ne_nil (Symbol.char '/') symbols)
        rw [hchar, hsymbol, hpieces]
        rfl
    | gap p =>
      have hsymbol : (Symbol.gap p == Symbol.char '/') = false := rfl
      obtain ⟨text, pieces, hpieces⟩ := h.2.exists_splitOn
      have hfill : (Component.ofSymbols (.gap p :: text.map .char)).fill assign =
          Percent.encode (assign p.name) ++ (Component.ofSymbols (text.map .char)).fill assign := by
        have hgap := Component.ofSymbols_append_gap [] text p
        rw [List.map_nil, List.nil_append] at hgap
        rw [hgap, Component.ofSymbols_map_char]
        simp [Component.fill, Component.literal]
      rw [Symbol.fill, splitOn_append_of_notMem (Percent.slash_notMem_encode _), ih h.2,
        List.splitOn_cons_eq_if_modifyHead, hsymbol, hpieces, if_neg Bool.false_ne_true, List.map_cons, List.modifyHead_cons,
        List.modifyHead_cons, List.map_cons, hfill]

/-- The components of the path that an unglued template makes are its own components, filled. -/
theorem Template.splitOn_substitute {t : Template} (h : t.Unglued) :
    (t.substitute assign).splitOn '/' = t.components.map (Component.fill assign) := by
  unfold components
  rw [← flatMap_fill_symbols, splitOn_flatMap_fill h.apart, List.map_map]
  rfl

end PathRouting
