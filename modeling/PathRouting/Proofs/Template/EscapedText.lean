import PathRouting.Proofs.Segment.Escaping
import PathRouting.Proofs.Template.Grammar
import PathRouting.Proofs.Text.Splitting
import PathRouting.Template.Escaping

/-!
# Templates with their text escaped

Escaping the literal text of a template turns each of its symbols into a word of its own: a character,
a character behind a backslash, or a placeholder up to its closing brace. No word is the start of
another one, so the symbols, and with them the text of the template, can be told from the escaped text.
If there are no braces in the literal text, the escaped text is itself read as a template, which is the
escaped one.
-/

namespace PathRouting

/-- A brace is in an escaped text only if it is in the text. -/
theorem Regex.mem_of_mem_escape {c : Char} (hc : c ≠ '\\') {t : Text} (h : c ∈ escape t) : c ∈ t := by
  induction t with
  | nil => exact h
  | cons d t ih =>
    unfold escape at h
    split at h
    · rcases List.mem_cons.mp h with rfl | h
      · exact absurd rfl hc
      rcases List.mem_cons.mp h with rfl | h
      · exact List.mem_cons_self
      · exact List.mem_cons_of_mem d (ih h)
    · rcases List.mem_cons.mp h with rfl | h
      · exact List.mem_cons_self
      · exact List.mem_cons_of_mem d (ih h)

namespace Placeholder.Canonical

variable {p q : Placeholder}

/-- A good placeholder is closed by the first closing brace in its writing. -/
theorem closing_notMem_dropLast (hp : p.Canonical) : '\x7d' ∉ p.render.dropLast := by
  have hname : '\x7d' ∉ p.name := fun hmem =>
    absurd (Template.isNameChar_of_isName hp.name _ hmem) (by decide)
  have hvalue := hp.value
  obtain ⟨name, default⟩ := p
  cases default with
  | none =>
    have hrender : render ⟨name, .none⟩ = ('\x7b' :: name) ++ ['\x7d'] := rfl
    rw [hrender, List.dropLast_concat]
    simpa using hname
  | optional =>
    have hrender : render ⟨name, .optional⟩ = ('\x7b' :: name ++ ['?']) ++ ['\x7d'] := by
      simp [render]
    rw [hrender, List.dropLast_concat]
    simpa using hname
  | value text =>
    have hrender : render ⟨name, .value text⟩ = ('\x7b' :: name ++ '=' :: text) ++ ['\x7d'] := rfl
    rw [hrender, List.dropLast_concat]
    simpa using ⟨hname, (hvalue text rfl).2⟩

/-- A good placeholder can be told from its writing. -/
theorem eq_of_render_eq (hp : p.Canonical) (hq : q.Canonical) (h : p.render = q.render) : p = q := by
  have hread : ∀ r : Placeholder, r.Canonical → Template.parse r.render = .ok [.placeholder r] := by
    intro r hr
    have hall := Template.readAs_render (Template.canonical_nil.placeholder_cons hr) 0
    rwa [Template.render_placeholder_cons, Template.render, List.flatMap_nil, List.append_nil] at hall
  have hsame := (hread p hp).symm.trans (h ▸ hread q hq)
  simpa using hsame

/-- A good placeholder can be told from its writing and any text behind it. -/
theorem render_append_inj (hp : p.Canonical) (hq : q.Canonical) {u v : Text}
    (h : p.render ++ u = q.render ++ v) : p = q ∧ u = v := by
  rw [← Template.dropLast_render_append p, ← Template.dropLast_render_append q, List.append_assoc,
    List.append_assoc, List.singleton_append, List.singleton_append] at h
  have hsplit := congrArg (Text.splitFirst '\x7d') h
  rw [Text.splitFirst_append hp.closing_notMem_dropLast,
    Text.splitFirst_append hq.closing_notMem_dropLast] at hsplit
  obtain ⟨hfront, hback⟩ := Prod.mk.inj (Option.some.inj hsplit)
  refine ⟨hp.eq_of_render_eq hq ?_, hback⟩
  rw [← Template.dropLast_render_append p, hfront, Template.dropLast_render_append]

end Placeholder.Canonical

namespace Symbol

/-- The word of a symbol: an escaped character, or a placeholder as it is written. -/
def escape : Symbol → Text
  | .char c => Regex.escape [c]
  | .gap p => p.render

/-- A symbol is a character or a good placeholder. -/
def Canonical : Symbol → Prop
  | .char _ => True
  | .gap p => p.Canonical

/-- A placeholder is written with an opening brace in front. -/
theorem head?_render (p : Placeholder) : p.render.head? = some '\x7b' := by
  unfold Placeholder.render
  split <;> rfl

/-- No word is empty. -/
theorem escape_ne_nil (s : Symbol) : s.escape ≠ [] := by
  cases s with
  | char c => simp [escape]
  | gap p =>
    intro h
    have hhead := head?_render p
    rw [show p.render = [] from h] at hhead
    cases hhead

/-- The word of a character does not start with a brace. -/
theorem head?_escape_char (c : Char) : (escape (.char c)).head? ≠ some '\x7b' := by
  have hbrace : Regex.isMeta '\x7b' = true := by decide
  simp only [escape, Regex.escape]
  split
  · simp
  · rename_i hmeta
    intro h
    obtain rfl := Option.some.inj h
    exact hmeta hbrace

/-- The word of a character can be told from itself and any text behind it. -/
theorem escape_char_append_inj {c d : Char} {u v : Text}
    (h : escape (.char c) ++ u = escape (.char d) ++ v) : c = d ∧ u = v := by
  -- A character with a meaning never stands without a backslash, and a backslash never alone.
  have hbackslash : Regex.isMeta '\\' = true := by decide
  simp only [escape, Regex.escape] at h
  split at h <;> split at h
  · simpa using h
  · rename_i hd
    obtain ⟨rfl, -⟩ := List.cons.inj h
    exact absurd hbackslash hd
  · rename_i hc _
    obtain ⟨rfl, -⟩ := List.cons.inj h
    exact absurd hbackslash hc
  · simpa using h

/-- The word of a symbol can be told from itself and any text behind it. -/
theorem escape_append_inj {a b : Symbol} (ha : a.Canonical) (hb : b.Canonical) {u v : Text}
    (h : a.escape ++ u = b.escape ++ v) : a = b ∧ u = v := by
  have hheads : a.escape.head? = b.escape.head? := by
    rw [← List.head?_append_of_ne_nil _ a.escape_ne_nil, h,
      List.head?_append_of_ne_nil _ b.escape_ne_nil]
  cases a with
  | char c =>
    cases b with
    | char d =>
      obtain ⟨rfl, hrest⟩ := escape_char_append_inj h
      exact ⟨rfl, hrest⟩
    | gap q => exact absurd (hheads.trans (head?_render q)) (head?_escape_char c)
  | gap p =>
    cases b with
    | char d => exact absurd (hheads.symm.trans (head?_render p)) (head?_escape_char d)
    | gap q =>
      obtain ⟨rfl, hrest⟩ := Placeholder.Canonical.render_append_inj ha hb h
      exact ⟨rfl, hrest⟩

/-- Symbols can be told from their words in a row. -/
theorem flatMap_escape_inj {as bs : List Symbol} (has : ∀ a ∈ as, a.Canonical)
    (hbs : ∀ b ∈ bs, b.Canonical) (h : as.flatMap escape = bs.flatMap escape) : as = bs := by
  induction as generalizing bs with
  | nil =>
    cases bs with
    | nil => rfl
    | cons b bs => exact absurd (List.append_eq_nil_iff.mp h.symm).1 b.escape_ne_nil
  | cons a as ih =>
    cases bs with
    | nil => exact absurd (List.append_eq_nil_iff.mp h).1 a.escape_ne_nil
    | cons b bs =>
      rw [List.forall_mem_cons] at has hbs
      rw [List.flatMap_cons, List.flatMap_cons] at h
      obtain ⟨rfl, hrest⟩ := escape_append_inj has.1 hbs.1 h
      rw [ih has.2 hbs.2 hrest]

end Symbol

namespace Template

/-- A text of a template with its literal text escaped. -/
def escapeText (s : Text) : Except ParseError Text :=
  (parse s).map renderEscaped

/-- Literal text is escaped character by character. -/
theorem escape_eq_flatMap (text : Text) :
    Regex.escape text = (text.map Symbol.char).flatMap Symbol.escape := by
  induction text with
  | nil => rfl
  | cons c text ih =>
    rw [List.map_cons, List.flatMap_cons, ← ih]
    exact Regex.escape_append [c] text

/-- An escaped template is written symbol by symbol. -/
theorem renderEscaped_eq_flatMap_symbols (t : Template) :
    t.renderEscaped = t.symbols.flatMap Symbol.escape := by
  induction t with
  | nil => rfl
  | cons part t ih =>
    have hrest : renderEscaped t = (symbols t).flatMap Symbol.escape := ih
    rcases part with (_ | ⟨c, text⟩) | p
    · exact hrest
    · change Regex.escape (c :: text) ++ renderEscaped t = _
      rw [hrest, escape_eq_flatMap, ← List.flatMap_append]
      rfl
    · change p.render ++ renderEscaped t = _
      rw [hrest]
      rfl

variable {t : Template}

/-- The symbols of a canonical template are good ones. -/
theorem Canonical.symbols (h : t.Canonical) : ∀ s ∈ t.symbols, s.Canonical := by
  intro s hs
  obtain ⟨part, hpart, hs⟩ := List.mem_flatMap.mp hs
  cases part with
  | literal text =>
    obtain ⟨c, -, rfl⟩ := List.mem_map.mp hs
    trivial
  | placeholder p =>
    obtain rfl := List.mem_singleton.mp hs
    exact h.parts _ hpart

/-- Texts that are escaped alike are the same. -/
theorem eq_of_renderEscaped_eq {s s' : Text} {t' : Template} (h : parse s = .ok t)
    (h' : parse s' = .ok t') (hsame : t.renderEscaped = t'.renderEscaped) : s = s' := by
  rw [renderEscaped_eq_flatMap_symbols, renderEscaped_eq_flatMap_symbols] at hsame
  have hsymbols := Symbol.flatMap_escape_inj (canonical_of_parse h).symbols
    (canonical_of_parse h').symbols hsame
  rw [← render_of_parse h, ← render_of_parse h', render_eq_flatMap_symbols,
    render_eq_flatMap_symbols, hsymbols]

/-- A brace in the literal text is doubled in the writing. -/
theorem doubled_infix_render {c : Char} (hc : c = '\x7b' ∨ c = '\x7d') {text : Text}
    (hpart : .literal text ∈ t) (hmem : c ∈ text) : [c, c] <:+: t.render := by
  obtain ⟨front, back, rfl⟩ := List.append_of_mem hpart
  obtain ⟨before, behind, rfl⟩ := List.append_of_mem hmem
  refine ⟨render front ++ doubleBraces before, doubleBraces behind ++ render back, ?_⟩
  simp only [render, List.flatMap_append, List.flatMap_cons, Part.render, doubleBraces_append,
    doubleBraces, if_pos hc, List.append_assoc, List.cons_append, List.nil_append]

/-- There are no braces in the literal text. -/
def Braceless (t : Template) : Prop :=
  ∀ text, .literal text ∈ t → '\x7b' ∉ text ∧ '\x7d' ∉ text

/-- A text without doubled braces has none in its literal text. -/
theorem braceless_of_parse {s : Text} (h : parse s = .ok t)
    (hopening : ¬"\x7b\x7b".toList <:+: s) (hclosing : ¬"\x7d\x7d".toList <:+: s) : t.Braceless := by
  rw [← render_of_parse h] at hopening hclosing
  exact fun text hpart =>
    ⟨fun hmem => hopening (doubled_infix_render (.inl rfl) hpart hmem),
      fun hmem => hclosing (doubled_infix_render (.inr rfl) hpart hmem)⟩

/-- A part with its literal text escaped. -/
def escapePart : Part → Part
  | .literal text => .literal (Regex.escape text)
  | .placeholder p => .placeholder p

/-- Escaping keeps all parts of a canonical template. -/
theorem Canonical.escapeLiterals_eq (h : t.Canonical) : t.escapeLiterals = t.map escapePart := by
  rw [← List.filterMap_eq_map]
  refine List.filterMap_congr fun part hpart => ?_
  have hcanonical := h.parts part hpart
  rcases part with (_ | ⟨c, text⟩) | p
  · exact absurd rfl hcanonical
  · rfl
  · rfl

/-- A canonical template stays so when it is escaped. -/
theorem Canonical.escapeLiterals (h : t.Canonical) : Canonical t.escapeLiterals := by
  rw [h.escapeLiterals_eq]
  refine ⟨fun part hpart => ?_, ?_⟩
  · obtain ⟨part, hmem, rfl⟩ := List.mem_map.mp hpart
    have hcanonical := h.parts part hmem
    cases part with
    | literal text => exact fun hnil => hcanonical (Regex.escape_eq_nil_iff.mp hnil)
    | placeholder p => exact hcanonical
  · rw [List.isChain_map]
    refine h.apart.imp fun part next hparts => ?_
    cases part <;> cases next <;> exact hparts

/-- Without braces in the literal text, an escaped template is written like any other. -/
theorem Braceless.render_escapeLiterals (h : t.Braceless) :
    t.escapeLiterals.render = t.renderEscaped := by
  refine List.flatMap_congr fun part hpart => ?_
  obtain ⟨original, hmem, hescaped⟩ := List.mem_filterMap.mp hpart
  rcases original with (_ | ⟨c, text⟩) | p
  · cases hescaped
  · cases hescaped
    obtain ⟨hopening, hclosing⟩ := h _ hmem
    exact doubleBraces_of_notMem (fun hc => hopening (Regex.mem_of_mem_escape (by decide) hc))
      fun hc => hclosing (Regex.mem_of_mem_escape (by decide) hc)
  · cases hescaped
    rfl

/-- Escaping a template loses nothing. Of two texts that can be read as templates, no two different
ones are escaped alike. A text without doubled braces is escaped to one that can be read, and what it
is read as is the template with its literal text escaped. -/
theorem escapeText_loses_nothing :
    (∀ s s' t t', parse s = .ok t → parse s' = .ok t' → escapeText s = escapeText s' → s = s') ∧
    ∀ s t, parse s = .ok t → ¬"\x7b\x7b".toList <:+: s → ¬"\x7d\x7d".toList <:+: s →
      ∃ e, escapeText s = .ok e ∧ parse e = .ok t.escapeLiterals := by
  constructor
  · intro s s' t t' h h' hsame
    unfold escapeText at hsame
    rw [h, h'] at hsame
    exact eq_of_renderEscaped_eq h h' (Except.ok.inj hsame)
  · intro s t h hopening hclosing
    refine ⟨t.renderEscaped, by rw [escapeText, h]; rfl, ?_⟩
    rw [← (braceless_of_parse h hopening hclosing).render_escapeLiterals]
    exact readAs_render (canonical_of_parse h).escapeLiterals 0

/-- Doubled braces are not escaped like a placeholder behind a backslash, and a value with characters
that have a meaning in expressions stays as it is between escaped texts. -/
theorem escapeText_tells_braces_apart :
    escapeText "\x7b\x7ba\x7d\x7d".toList ≠ escapeText "\\\x7ba\x7d".toList ∧
    ∃ e, escapeText "v1.0/\x7ba=x*(\x7d-\x7bb?\x7d".toList = .ok e ∧
      parse e = .ok [.literal "v1\\.0/".toList, .placeholder ⟨"a".toList, .value "x*(".toList⟩,
        .literal "\\-".toList, .placeholder ⟨"b".toList, .optional⟩] := by
  have hbraces : parse "\x7b\x7ba\x7d\x7d".toList = .ok [.literal "\x7ba\x7d".toList] := by
    decide +kernel
  have hgap : parse "\\\x7ba\x7d".toList =
      .ok [.literal "\\".toList, .placeholder ⟨"a".toList, .none⟩] := by
    decide +kernel
  have hversion : parse "v1.0/\x7ba=x*(\x7d-\x7bb?\x7d".toList =
      .ok [.literal "v1.0/".toList, .placeholder ⟨"a".toList, .value "x*(".toList⟩,
        .literal "-".toList, .placeholder ⟨"b".toList, .optional⟩] := by
    decide +kernel
  obtain ⟨hapart, hread⟩ := escapeText_loses_nothing
  refine ⟨fun hsame => absurd (hapart _ _ _ _ hbraces hgap hsame) (by decide +kernel), ?_⟩
  exact hread _ _ hversion (by decide +kernel) (by decide +kernel)

end Template

end PathRouting
