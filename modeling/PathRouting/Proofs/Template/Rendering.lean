import Mathlib.Data.List.Basic
import Mathlib.Tactic.Common
import PathRouting.Proofs.Regex.Reading
import PathRouting.Template.Layout
import PathRouting.Template.Parser

/-!
# Templates as they are written

Reading a template loses nothing: the template is written as the text that it was read from. So
literal text of a template starts or ends with a slash only if the text does.
-/

namespace PathRouting

/-- A character of a template, or a gap. -/
inductive Symbol where
  /-- A character that stands for itself. -/
  | char (c : Char)
  /-- A gap. -/
  | gap (p : Placeholder)
deriving DecidableEq

namespace Template

/-- What has been read of a part, as it is written. -/
def Mode.render : Mode → Text
  | .literal text => doubleBraces text.reverse
  | .name _ text => '\x7b' :: text.reverse
  | .value _ parameter text => '\x7b' :: parameter ++ '=' :: text.reverse
  | .closing _ p => p.render.dropLast

/-- Braces are doubled character by character. -/
theorem doubleBraces_append (t u : Text) :
    doubleBraces (t ++ u) = doubleBraces t ++ doubleBraces u := by
  induction t with
  | nil => rfl
  | cons c t ih =>
    rw [List.cons_append, doubleBraces, doubleBraces, ih]
    split <;> rfl

/-- A text without braces is written as it is. -/
theorem doubleBraces_of_notMem {t : Text} (hopening : '\x7b' ∉ t) (hclosing : '\x7d' ∉ t) :
    doubleBraces t = t := by
  induction t with
  | nil => rfl
  | cons c t ih =>
    rw [List.mem_cons, not_or] at hopening hclosing
    rw [doubleBraces, ih hopening.2 hclosing.2,
      if_neg (not_or.mpr ⟨Ne.symm hopening.1, Ne.symm hclosing.1⟩)]

/-- A literal part is written with its braces doubled. -/
theorem render_literalPart_append (text : Text) (rest : Template) :
    render (literalPart text ++ rest) = doubleBraces text.reverse ++ render rest := by
  cases text with
  | nil => rfl
  | cons c text => rfl

/-- A placeholder is written before what follows. -/
theorem render_placeholder_cons (p : Placeholder) (rest : Template) :
    render (.placeholder p :: rest) = p.render ++ rest.render :=
  rfl

/-- A placeholder ends with a brace. -/
theorem dropLast_render_append (p : Placeholder) : p.render.dropLast ++ ['\x7d'] = p.render := by
  have hlast : ∃ front, p.render = front ++ ['\x7d'] := by
    unfold Placeholder.render
    split
    · exact ⟨'\x7b' :: p.name, rfl⟩
    · exact ⟨'\x7b' :: p.name ++ ['?'], by simp⟩
    · exact ⟨_, rfl⟩
  obtain ⟨front, hfront⟩ := hlast
  rw [hfront, List.dropLast_concat]

/-- A finished name is what has been read. -/
theorem finishName_eq {position : Nat} {text name : Text} (h : finishName position text = .ok name) :
    name = text.reverse := by
  unfold finishName at h
  split at h
  · cases h
  · rename_i c rest hrev
    split at h
    · cases h
    · cases h
      exact hrev.symm

/-- What has been read and what is left are written as the template that is read. -/
theorem render_of_readFrom {position : Nat} {mode : Mode} {t : Text} {template : Template}
    (h : readFrom position mode t = .ok template) : template.render = mode.render ++ t := by
  fun_induction readFrom position mode t generalizing template with
  | case1 position text =>
    cases h
    rw [← List.append_nil (literalPart text), render_literalPart_append]
    rfl
  | case2 position text rest ih =>
    rw [ih h, Mode.render, Mode.render, List.reverse_cons, doubleBraces_append]
    simp [doubleBraces]
  | case3 position text rest ih =>
    rw [ih h, Mode.render, Mode.render, List.reverse_cons, doubleBraces_append]
    simp [doubleBraces]
  | case4 position text rest h1 h2 ih =>
    obtain ⟨behind, hbehind, h⟩ := Regex.bind_eq_ok h
    cases h
    rw [render_literalPart_append, ih hbehind]
    rfl
  | case5 => cases h
  | case6 position text c rest h1 h2 h3 h4 ih =>
    rw [ih h, Mode.render, Mode.render, List.reverse_cons, doubleBraces_append]
    simp [doubleBraces, h3, h4]
  | case7 position start text =>
    obtain ⟨_, _, h⟩ := Regex.bind_eq_ok h
    cases h
  | case8 position start text c rest hc ih => simp [ih h, Mode.render]
  | case9 position start text rest hc ih =>
    obtain ⟨name, hname, h⟩ := Regex.bind_eq_ok h
    obtain rfl := finishName_eq hname
    have hsign : Placeholder.render ⟨text.reverse, .optional⟩ =
        ('\x7b' :: text.reverse ++ ['?']) ++ ['\x7d'] := by simp [Placeholder.render]
    rw [ih _ h, Mode.render, Mode.render, hsign, List.dropLast_concat]
    simp
  | case10 position start text rest hc hne ih =>
    obtain ⟨name, hname, h⟩ := Regex.bind_eq_ok h
    obtain rfl := finishName_eq hname
    rw [ih _ h, Mode.render, Mode.render]
    simp
  | case11 position start text rest hc h1 h2 ih =>
    obtain ⟨name, hname, h⟩ := Regex.bind_eq_ok h
    obtain ⟨behind, hbehind, h⟩ := Regex.bind_eq_ok h
    cases h
    obtain rfl := finishName_eq hname
    rw [render_placeholder_cons, ih hbehind, Placeholder.render, Mode.render, Mode.render]
    simp [doubleBraces]
  | case12 => cases h
  | case13 => cases h
  | case14 position start name text rest p =>
    rename_i ih
    obtain ⟨behind, hbehind, h⟩ := Regex.bind_eq_ok h
    cases h
    rw [render_placeholder_cons, ih hbehind]
    change '\x7b' :: name ++ '=' :: text.reverse ++ ['\x7d'] ++ rest = _
    rw [Mode.render, List.append_assoc]
    rfl
  | case15 => cases h
  | case16 position start name text c rest h1 h2 ih => simp [ih h, Mode.render]
  | case17 => cases h
  | case18 position start p rest ih =>
    obtain ⟨behind, hbehind, h⟩ := Regex.bind_eq_ok h
    cases h
    rw [render_placeholder_cons, ih hbehind, ← dropLast_render_append p]
    simp [Mode.render, doubleBraces]
  | case19 => cases h

/-- A template is written as the text that it was read from. -/
theorem render_of_parse {t : Text} {template : Template} (h : parse t = .ok template) :
    template.render = t :=
  render_of_readFrom h

/-- The characters and gaps of a template. -/
def symbols (t : Template) : List Symbol :=
  t.flatMap fun
    | .literal text => text.map .char
    | .placeholder p => [.gap p]

end Template

/-- A character as it is written in a template, or a gap. -/
def Symbol.render : Symbol → Text
  | .char c => doubleBraces [c]
  | .gap p => p.render

namespace Template

/-- A template is written symbol by symbol. -/
theorem render_eq_flatMap_symbols (t : Template) : t.render = t.symbols.flatMap Symbol.render := by
  have hliteral : ∀ text : Text, doubleBraces text =
      (text.map Symbol.char).flatMap Symbol.render := by
    intro text
    induction text with
    | nil => rfl
    | cons c text ih =>
      rw [List.map_cons, List.flatMap_cons, ← ih]
      exact doubleBraces_append [c] text
  unfold render symbols
  rw [List.flatMap_assoc]
  congr 1
  funext part
  cases part with
  | literal text => exact hliteral text
  | placeholder p => simp [Part.render, Symbol.render]

/-- A template whose first symbol is a slash is written with a slash in front. -/
theorem head?_render {t : Template} (h : t.symbols.head? = some (.char '/')) :
    t.render.head? = some '/' := by
  obtain ⟨rest, hrest⟩ := List.head?_eq_some_iff.mp h
  rw [render_eq_flatMap_symbols, hrest]
  rfl

/-- A template whose last symbol is a slash is written with a slash behind. -/
theorem getLast?_render {t : Template} (h : t.symbols.getLast? = some (.char '/')) :
    t.render.getLast? = some '/' := by
  obtain ⟨front, hfront⟩ := List.getLast?_eq_some_iff.mp h
  have hslash : Symbol.render (.char '/') = ['/'] := rfl
  rw [render_eq_flatMap_symbols, hfront, List.flatMap_append, List.flatMap_singleton, hslash,
    List.getLast?_concat]

/-- The symbols of a layout are those of the template. -/
theorem symbols_layoutAfter (gap : Text) (t : Template) :
    (layoutAfter gap t).placed.flatMap (fun p => p.gap.map .char ++ [.gap p.placeholder]) ++
        (layoutAfter gap t).trailing.map .char = gap.map .char ++ t.symbols := by
  induction t generalizing gap with
  | nil => simp [layoutAfter, symbols]
  | cons part rest ih =>
    cases part with
    | literal text =>
      rw [layoutAfter, ih]
      simp [symbols]
    | placeholder p =>
      have hrest := ih []
      rw [layoutAfter, List.flatMap_cons]
      dsimp only
      rw [List.append_assoc, hrest]
      simp [symbols]

section

variable {t : Template}

/-- The symbols of a template are those of its layout. -/
theorem symbols_layout (t : Template) :
    t.layout.placed.flatMap (fun p => p.gap.map .char ++ [.gap p.placeholder]) ++
      t.layout.trailing.map .char = t.symbols :=
  symbols_layoutAfter [] t

/-- A template starts with a slash if the text before its first placeholder does. -/
theorem head?_symbols_of_gap {p : Placed} {rest : List Placed} (hplaced : t.layout.placed = p :: rest)
    (h : p.gap.head? = some '/') : t.symbols.head? = some (.char '/') := by
  obtain ⟨tail, htail⟩ := List.head?_eq_some_iff.mp h
  rw [← symbols_layout, hplaced, List.flatMap_cons, htail]
  rfl

/-- A template ends with a slash if the text behind its last placeholder does. -/
theorem getLast?_symbols_of_trailing (h : t.layout.trailing.getLast? = some '/') :
    t.symbols.getLast? = some (.char '/') := by
  obtain ⟨front, hfront⟩ := List.getLast?_eq_some_iff.mp h
  rw [← symbols_layout, hfront, List.map_append, List.map_singleton, ← List.append_assoc,
    List.getLast?_concat]

end

end Template

namespace Text

/-- A text without slashes around it does not start with a slash. -/
theorem head?_trim (c : Char) (t : Text) : (trim c t).head? ≠ some c := by
  have hstart : ∀ u : Text, (trimStart c u).head? ≠ some c := by
    intro u hu
    have := List.head?_dropWhile_not (· == c) u
    unfold trimStart at hu
    rw [hu] at this
    simp at this
  have hsuffix := List.dropWhile_suffix (· == c) (l := (trimStart c t).reverse)
  rw [← List.reverse_prefix, List.reverse_reverse] at hsuffix
  obtain ⟨rest, hrest⟩ : trim c t <+: trimStart c t := hsuffix
  intro h
  obtain ⟨tail, htail⟩ := List.head?_eq_some_iff.mp h
  refine hstart t ?_
  rw [← hrest, htail]
  rfl

/-- A text without slashes around it does not end with a slash. -/
theorem getLast?_trim (c : Char) (t : Text) : (trim c t).getLast? ≠ some c := by
  intro h
  have := List.head?_dropWhile_not (· == c) (trimStart c t).reverse
  unfold trim trimEnd at h
  rw [List.getLast?_reverse] at h
  rw [h] at this
  simp at this

end Text

namespace Template

variable {text : Text} {t : Template}

/-- What a text without slashes around it is read as does not start with a slash. -/
theorem head?_symbols_of_parse (h : parse (Text.trim '/' text) = .ok t) :
    t.symbols.head? ≠ some (.char '/') := by
  intro hhead
  have := head?_render hhead
  rw [render_of_parse h] at this
  exact Text.head?_trim '/' text this

/-- What a text without slashes around it is read as does not end with a slash. -/
theorem getLast?_symbols_of_parse (h : parse (Text.trim '/' text) = .ok t) :
    t.symbols.getLast? ≠ some (.char '/') := by
  intro hlast
  have := getLast?_render hlast
  rw [render_of_parse h] at this
  exact Text.getLast?_trim '/' text this

end Template

end PathRouting
