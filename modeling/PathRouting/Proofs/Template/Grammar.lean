import Mathlib.Data.List.Chain
import PathRouting.Proofs.Template.Rendering

/-!
# The grammar of templates

A template is canonical if reading could have made it: its literal parts hold text and are kept
apart by placeholders, its names are identifiers and the values that it declares hold no braces.
What a text is read as is canonical and written as the text, and every canonical template is what
its own writing is read as. So texts that can be read and canonical templates correspond one to one.
-/

namespace PathRouting

/-- A name starts with a letter or an underscore, behind which digits may stand too. -/
def IsName : Text → Prop
  | [] => False
  | c :: rest => (Text.isLetter c = true ∨ c = '_') ∧
      ∀ d ∈ rest, Text.isLetter d = true ∨ Text.isDigit d = true ∨ d = '_'

/-- A placeholder has a good name, and the value that it declares holds no braces. -/
structure Placeholder.Canonical (p : Placeholder) : Prop where
  /-- The name is a good one. -/
  name : IsName p.name
  /-- The value holds no braces. -/
  value : ∀ text, p.default = .value text → '\x7b' ∉ text ∧ '\x7d' ∉ text

/-- A part is literal text. -/
def Part.IsLiteral : Part → Prop
  | .literal _ => True
  | .placeholder _ => False

/-- A part is some text or a good placeholder. -/
def Part.Canonical : Part → Prop
  | .literal text => text ≠ []
  | .placeholder p => p.Canonical

namespace Template

/-- A template is one that reading could have made. -/
structure Canonical (t : Template) : Prop where
  /-- The parts are good ones. -/
  parts : ∀ p ∈ t, p.Canonical
  /-- No two literal parts are neighbours. -/
  apart : t.IsChain fun p q => ¬(p.IsLiteral ∧ q.IsLiteral)

/-- There are no parts. -/
theorem canonical_nil : Canonical [] :=
  ⟨fun _ hp => absurd hp List.not_mem_nil, .nil⟩

/-- A good placeholder may stand before any parts. -/
theorem Canonical.placeholder_cons {p : Placeholder} {rest : Template} (hp : p.Canonical)
    (hrest : Canonical rest) : Canonical (.placeholder p :: rest) where
  parts := List.forall_mem_cons.mpr ⟨hp, hrest.parts⟩
  apart := hrest.apart.cons fun _ _ h => h.1

/-- Literal text may stand before a placeholder. -/
theorem Canonical.literalPart_append {p : Placeholder} {rest : Template} (text : Text)
    (h : Canonical (.placeholder p :: rest)) :
    Canonical (literalPart text ++ .placeholder p :: rest) := by
  unfold literalPart
  split
  · exact h
  · rename_i htext
    refine ⟨List.forall_mem_cons.mpr ⟨?_, h.parts⟩, h.apart.cons ?_⟩
    · change text.reverse ≠ []
      simpa using htext
    · rintro _ ⟨⟩ hboth
      exact hboth.2

/-- Literal text alone is a template. -/
theorem canonical_literalPart (text : Text) : Canonical (literalPart text) := by
  unfold literalPart
  split
  · exact canonical_nil
  · rename_i htext
    refine ⟨fun p hp => ?_, .singleton _⟩
    obtain rfl := List.mem_singleton.mp hp
    change text.reverse ≠ []
    simpa using htext

/-- What has been read so far of a placeholder may lead to good ones only. -/
def Mode.Sound : Mode → Prop
  | .literal _ => True
  | .name _ text => ∀ c ∈ text, isNameChar c = true
  | .value _ parameter text => IsName parameter ∧ '\x7b' ∉ text ∧ '\x7d' ∉ text
  | .closing _ p => p.Canonical

/-- A finished name is a good one. -/
theorem isName_of_finishName {position : Nat} {text name : Text}
    (htext : ∀ c ∈ text, isNameChar c = true) (h : finishName position text = .ok name) :
    IsName name := by
  have hchar : ∀ c ∈ text, Text.isLetter c = true ∨ Text.isDigit c = true ∨ c = '_' := by
    intro c hc
    simpa [isNameChar, or_assoc] using htext c hc
  unfold finishName at h
  split at h
  · cases h
  · rename_i c rest hrev
    split at h
    · cases h
    · rename_i hdigit
      cases h
      have hmem : ∀ d ∈ c :: rest, d ∈ text := by
        intro d hd
        rwa [← List.mem_reverse, hrev]
      refine ⟨?_, fun d hd => hchar d (hmem d (List.mem_cons_of_mem c hd))⟩
      rcases hchar c (hmem c List.mem_cons_self) with hc | hc | hc
      · exact .inl hc
      · exact absurd hc hdigit
      · exact .inr hc

/-- What is read is canonical, and it starts with the placeholder that is being read, if one is. -/
theorem canonical_of_readFrom {position : Nat} {mode : Mode} {t : Text} {template : Template}
    (hmode : mode.Sound) (h : readFrom position mode t = .ok template) :
    template.Canonical ∧
      ((∀ text, mode ≠ .literal text) → ∃ p rest, template = .placeholder p :: rest) := by
  fun_induction readFrom position mode t generalizing template with
  | case1 position text =>
    cases h
    exact ⟨canonical_literalPart text, fun hne => absurd rfl (hne text)⟩
  | case2 position text rest ih => exact ⟨(ih trivial h).1, fun hne => absurd rfl (hne text)⟩
  | case3 position text rest ih => exact ⟨(ih trivial h).1, fun hne => absurd rfl (hne text)⟩
  | case4 position text rest h1 h2 ih =>
    obtain ⟨behind, hbehind, h⟩ := Regex.bind_eq_ok h
    cases h
    obtain ⟨hcanonical, hstart⟩ := ih (by simp [Mode.Sound]) hbehind
    obtain ⟨p, rest', rfl⟩ := hstart fun _ => by simp
    exact ⟨hcanonical.literalPart_append text, fun hne => absurd rfl (hne text)⟩
  | case5 => cases h
  | case6 position text c rest h1 h2 h3 h4 ih =>
    exact ⟨(ih trivial h).1, fun hne => absurd rfl (hne text)⟩
  | case7 position start text =>
    obtain ⟨_, _, h⟩ := Regex.bind_eq_ok h
    cases h
  | case8 position start text c rest hc ih =>
    obtain ⟨hcanonical, hstart⟩ := ih (List.forall_mem_cons.mpr ⟨hc, hmode⟩) h
    exact ⟨hcanonical, fun _ => hstart fun _ => by simp⟩
  | case9 position start text rest hc ih =>
    obtain ⟨name, hname, h⟩ := Regex.bind_eq_ok h
    have hp : Placeholder.Canonical ⟨name, .optional⟩ :=
      ⟨isName_of_finishName hmode hname, fun _ hvalue => by cases hvalue⟩
    obtain ⟨hcanonical, hstart⟩ := ih name hp h
    exact ⟨hcanonical, fun _ => hstart fun _ => by simp⟩
  | case10 position start text rest hc hne ih =>
    obtain ⟨name, hname, h⟩ := Regex.bind_eq_ok h
    obtain ⟨hcanonical, hstart⟩ :=
      ih name ⟨isName_of_finishName hmode hname, List.not_mem_nil, List.not_mem_nil⟩ h
    exact ⟨hcanonical, fun _ => hstart fun _ => by simp⟩
  | case11 position start text rest hc h1 h2 ih =>
    obtain ⟨name, hname, h⟩ := Regex.bind_eq_ok h
    obtain ⟨behind, hbehind, h⟩ := Regex.bind_eq_ok h
    cases h
    have hp : Placeholder.Canonical ⟨name, .none⟩ :=
      ⟨isName_of_finishName hmode hname, fun _ hvalue => by cases hvalue⟩
    exact ⟨(ih trivial hbehind).1.placeholder_cons hp, fun _ => ⟨_, _, rfl⟩⟩
  | case12 => cases h
  | case13 => cases h
  | case14 position start name text rest p =>
    rename_i ih
    obtain ⟨behind, hbehind, h⟩ := Regex.bind_eq_ok h
    cases h
    obtain ⟨hname, hopening, hclosing⟩ := hmode
    have hp : p.Canonical := by
      refine ⟨hname, fun value hvalue => ?_⟩
      cases hvalue
      rw [List.mem_reverse, List.mem_reverse]
      exact ⟨hopening, hclosing⟩
    exact ⟨(ih trivial hbehind).1.placeholder_cons hp, fun _ => ⟨_, _, rfl⟩⟩
  | case15 => cases h
  | case16 position start name text c rest h1 h2 ih =>
    obtain ⟨hname, hopening, hclosing⟩ := hmode
    obtain ⟨hcanonical, hstart⟩ := ih ⟨hname,
      List.not_mem_cons_of_ne_of_not_mem (Ne.symm h2) hopening,
      List.not_mem_cons_of_ne_of_not_mem (Ne.symm h1) hclosing⟩ h
    exact ⟨hcanonical, fun _ => hstart fun _ => by simp⟩
  | case17 => cases h
  | case18 position start p rest ih =>
    obtain ⟨behind, hbehind, h⟩ := Regex.bind_eq_ok h
    cases h
    exact ⟨(ih trivial hbehind).1.placeholder_cons hmode, fun _ => ⟨_, _, rfl⟩⟩
  | case19 => cases h

/-- What a text is read as is canonical. -/
theorem canonical_of_parse {text : Text} {template : Template} (h : parse text = .ok template) :
    template.Canonical :=
  (canonical_of_readFrom (show Mode.Sound (.literal []) from trivial) h).1

/-- From every position a text is read as the same template. -/
def ReadAs (mode : Mode) (t : Text) (template : Template) : Prop :=
  ∀ position, readFrom position mode t = .ok template

section

variable {template : Template}

/-- Literal text is read character by character, two braces as one. -/
theorem readAs_doubleBraces {before text rest : Text}
    (h : ReadAs (.literal (text.reverse ++ before)) rest template) :
    ReadAs (.literal before) (doubleBraces text ++ rest) template := by
  induction text generalizing before with
  | nil => exact h
  | cons c text ih =>
    have hrest : ReadAs (.literal (c :: before)) (doubleBraces text ++ rest) template := by
      refine ih ?_
      rw [List.reverse_cons, List.append_assoc] at h
      exact h
    intro position
    unfold doubleBraces
    split
    · rename_i hbrace
      rcases hbrace with rfl | rfl
      · exact hrest (position + 2)
      · exact hrest (position + 2)
    · rename_i hbrace
      rw [not_or] at hbrace
      rw [List.cons_append, readFrom]
      · rw [if_neg hbrace.1, if_neg hbrace.2]
        exact hrest _
      · exact fun _ hopening _ => hbrace.1 hopening
      · exact fun _ hclosing _ => hbrace.2 hclosing

/-- The characters of a name are read one by one. -/
theorem readAs_name (before : Text) {name rest : Text} (hname : ∀ c ∈ name, isNameChar c = true)
    (h : ∀ start, ReadAs (.name start (name.reverse ++ before)) rest template) (start : Nat) :
    ReadAs (.name start before) (name ++ rest) template := by
  induction name generalizing before with
  | nil => exact h start
  | cons c name ih =>
    obtain ⟨hc, hname⟩ := List.forall_mem_cons.mp hname
    have hrest : ReadAs (.name start (c :: before)) (name ++ rest) template := by
      refine ih _ hname fun start => ?_
      have hstart := h start
      rw [List.reverse_cons, List.append_assoc] at hstart
      exact hstart
    intro position
    rw [List.cons_append, readFrom, if_pos hc]
    exact hrest _

/-- The characters of a value are read one by one. -/
theorem readAs_value (before : Text) {name value rest : Text} {start : Nat}
    (hvalue : '\x7b' ∉ value ∧ '\x7d' ∉ value)
    (h : ReadAs (.value start name (value.reverse ++ before)) rest template) :
    ReadAs (.value start name before) (value ++ rest) template := by
  induction value generalizing before with
  | nil => exact h
  | cons c value ih =>
    simp only [List.mem_cons, not_or] at hvalue
    obtain ⟨⟨hopening, hvalue₁⟩, hclosing, hvalue₂⟩ := hvalue
    have hrest : ReadAs (.value start name (c :: before)) (value ++ rest) template := by
      refine ih _ ⟨hvalue₁, hvalue₂⟩ ?_
      rw [List.reverse_cons, List.append_assoc] at h
      exact h
    intro position
    rw [List.cons_append, readFrom, if_neg (Ne.symm hclosing), if_neg (Ne.symm hopening)]
    exact hrest _

/-- A letter is no digit. -/
theorem not_isDigit_of_isLetter {c : Char} (h : Text.isLetter c = true) :
    ¬Text.isDigit c = true := by
  intro hdigit
  simp only [Text.isLetter, Text.isDigit, Bool.or_eq_true, Bool.and_eq_true, decide_eq_true_eq,
    Char.le_def, UInt32.le_iff_toNat_le] at h hdigit
  have ha : 'a'.val.toNat = 97 := rfl
  have hA : 'A'.val.toNat = 65 := rfl
  have hnine : '9'.val.toNat = 57 := rfl
  omega

/-- A good name can be finished. -/
theorem finishName_reverse {name : Text} (hname : IsName name) (position : Nat) :
    finishName position name.reverse = .ok name := by
  cases name with
  | nil => exact hname.elim
  | cons c rest =>
    have hdigit : Text.isDigit c ≠ true := by
      rcases hname.1 with hc | rfl
      · exact not_isDigit_of_isLetter hc
      · decide
    unfold finishName
    rw [List.reverse_reverse]
    dsimp only
    rw [if_neg hdigit]

/-- The characters of a good name may be in a name. -/
theorem isNameChar_of_isName {name : Text} (hname : IsName name) :
    ∀ c ∈ name, isNameChar c = true := by
  cases name with
  | nil => exact hname.elim
  | cons c rest =>
    intro d hd
    rcases List.mem_cons.mp hd with rfl | hd
    · rcases hname.1 with hc | hc <;> simp [isNameChar, hc]
    · rcases hname.2 d hd with hc | hc | hc <;> simp [isNameChar, hc]

/-- A good placeholder is read as it is written. -/
theorem readAs_placeholder {p : Placeholder} (hp : p.Canonical) {rest : Text}
    (h : ReadAs (.literal []) rest template) (before : Text) :
    ReadAs (.literal before) (p.render ++ rest) (literalPart before ++ .placeholder p :: template) := by
  obtain ⟨name, default⟩ := p
  have hchars := isNameChar_of_isName hp.name
  obtain ⟨c, name', rfl⟩ : ∃ c name', name = c :: name' := by
    cases name with
    | nil => exact hp.name.elim
    | cons c name' => exact ⟨c, name', rfl⟩
  have hc : c ≠ '\x7b' := by
    rintro rfl
    have := hchars '\x7b' List.mem_cons_self
    revert this
    decide
  -- After the opening brace it is enough to read the name and what comes behind it.
  have hopen : ∀ behind : Text,
      (∀ start, ReadAs (.name start (c :: name').reverse) behind
        (.placeholder ⟨c :: name', default⟩ :: template)) →
      ReadAs (.literal before) ('\x7b' :: (c :: name') ++ behind)
        (literalPart before ++ .placeholder ⟨c :: name', default⟩ :: template) := by
    intro behind hbehind position
    have hread := readAs_name [] hchars
      (fun start => by rw [List.append_nil]; exact hbehind start) position (position + 1)
    rw [List.cons_append, readFrom]
    · rw [if_pos rfl, hread]
      rfl
    · exact fun _ _ hopening => hc (List.cons.inj hopening).1
    · exact fun _ hclosing _ => absurd hclosing (by decide)
  cases default with
  | none =>
    have htext : Placeholder.render ⟨c :: name', .none⟩ ++ rest =
        '\x7b' :: (c :: name') ++ ('\x7d' :: rest) := by simp [Placeholder.render]
    rw [htext]
    refine hopen _ fun start position => ?_
    rw [readFrom, if_neg (by decide), if_neg (by decide), if_neg (by decide), if_pos rfl,
      finishName_reverse hp.name, h (position + 1)]
    rfl
  | optional =>
    have htext : Placeholder.render ⟨c :: name', .optional⟩ ++ rest =
        '\x7b' :: (c :: name') ++ ('?' :: '\x7d' :: rest) := by simp [Placeholder.render]
    rw [htext]
    refine hopen _ fun start position => ?_
    rw [readFrom, if_neg (by decide), if_pos rfl, finishName_reverse hp.name]
    change readFrom (position + 1) (.closing start ⟨c :: name', .optional⟩) ('\x7d' :: rest) = _
    rw [readFrom, if_pos rfl, h (position + 1 + 1)]
    rfl
  | value text =>
    have htext : Placeholder.render ⟨c :: name', .value text⟩ ++ rest =
        '\x7b' :: (c :: name') ++ ('=' :: (text ++ '\x7d' :: rest)) := by
      simp [Placeholder.render]
    rw [htext]
    refine hopen _ fun start position => ?_
    rw [readFrom, if_neg (by decide), if_neg (by decide), if_pos rfl, finishName_reverse hp.name]
    refine readAs_value [] (hp.value text rfl) (fun position => ?_) (position + 1)
    rw [List.append_nil, readFrom, if_pos rfl, List.reverse_reverse, h (position + 1)]
    rfl

/-- Literal text alone is read as it is written. -/
theorem readAs_literalPart (text : Text) :
    ReadAs (.literal []) (doubleBraces text) (literalPart text.reverse) := by
  have hread : ReadAs (.literal (text.reverse ++ [])) [] (literalPart text.reverse) := by
    intro position
    rw [readFrom, List.append_nil]
  have hall := readAs_doubleBraces hread
  rwa [List.append_nil] at hall

/-- Every canonical template is what its writing is read as. -/
theorem readAs_render {t : Template} (h : t.Canonical) : ReadAs (.literal []) t.render t := by
  match t, h with
  | [], _ => exact readAs_literalPart []
  | .placeholder p :: rest, h =>
    have hrest : Canonical rest := ⟨fun q hq => h.parts q (List.mem_cons_of_mem _ hq), h.apart.tail⟩
    exact readAs_placeholder (h.parts _ List.mem_cons_self) (readAs_render hrest) []
  | [.literal text], h =>
    have hne : text ≠ [] := h.parts _ List.mem_cons_self
    have hpart : literalPart text.reverse = [.literal text] := by
      unfold literalPart
      rw [if_neg (by simpa using hne), List.reverse_reverse]
    have hread := readAs_literalPart text
    rw [hpart] at hread
    change ReadAs _ (doubleBraces text ++ []) _
    rwa [List.append_nil]
  | .literal text :: .literal other :: rest, h =>
    exact absurd ⟨trivial, trivial⟩ h.apart.rel
  | .literal text :: .placeholder p :: rest, h =>
    have hne : text ≠ [] := h.parts _ List.mem_cons_self
    have hpart : literalPart text.reverse = [.literal text] := by
      unfold literalPart
      rw [if_neg (by simpa using hne), List.reverse_reverse]
    have hrest : Canonical rest := ⟨fun q hq => h.parts q (by simp [hq]), h.apart.tail.tail⟩
    have hread := readAs_placeholder (h.parts (.placeholder p) (by simp)) (readAs_render hrest)
      text.reverse
    rw [hpart] at hread
    exact readAs_doubleBraces (by rwa [List.append_nil])

end

/-- A text is read as a template if and only if the template is canonical and written as the
text. -/
theorem parse_eq_ok_iff (s : Text) (t : Template) :
    parse s = .ok t ↔ t.Canonical ∧ s = t.render := by
  constructor
  · intro h
    exact ⟨(canonical_of_readFrom (show Mode.Sound (.literal []) from trivial) h).1,
      (render_of_parse h).symm⟩
  · rintro ⟨hcanonical, rfl⟩
    exact readAs_render hcanonical 0

end Template

end PathRouting
