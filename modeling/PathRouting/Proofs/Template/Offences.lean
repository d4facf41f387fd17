import PathRouting.Proofs.Template.Descent
import PathRouting.Proofs.Template.Grammar

/-!
# Where reading a template stops

A text that is no template is one up to a brace, and the error is about this brace: about the brace
itself if it closes, and otherwise about the placeholder that it opens. The positions in errors are
borders between characters, and the characters that errors name stand there.
-/

namespace PathRouting

namespace Text

/-- The bytes of a text are counted character by character. -/
theorem utf8Length_cons (c : Char) (t : Text) :
    utf8Length (c :: t) = c.utf8Size + utf8Length t := by
  have hfold : ∀ (t : Text) (start : Nat),
      t.foldl (fun length c => length + c.utf8Size) start = start + utf8Length t := by
    intro t
    induction t with
    | nil => exact fun start => rfl
    | cons c t ih =>
      intro start
      unfold utf8Length
      rw [List.foldl_cons, List.foldl_cons, ih, ih, Nat.zero_add, Nat.add_assoc]
  unfold utf8Length
  rw [List.foldl_cons, hfold, Nat.zero_add]
  rfl

/-- The bytes of two texts are those of the first and those of the second. -/
theorem utf8Length_append (t u : Text) : utf8Length (t ++ u) = utf8Length t + utf8Length u := by
  induction t with
  | nil => exact (Nat.zero_add _).symm
  | cons c t ih => rw [List.cons_append, utf8Length_cons, utf8Length_cons, ih, Nat.add_assoc]

/-- A text with a character more has the bytes of this character more. -/
theorem utf8Length_concat (t : Text) (c : Char) :
    utf8Length (t ++ [c]) = utf8Length t + c.utf8Size := by
  rw [utf8Length_append, utf8Length_cons]
  rfl

end Text

open Text

namespace Template

/-- A placeholder is opened by the first character of a text. -/
def Opens (r : Text) : Prop :=
  ∃ rest, r = '\x7b' :: rest ∧ rest.head? ≠ some '\x7b'

section Accepted

variable {u text : Text}

/-- Behind a text, reading goes on as it does behind some literal text. -/
def Resumes (u text : Text) : Prop :=
  ∀ rest template, ReadAs (.literal text) rest template →
    ∃ whole, ReadAs (.literal []) (u ++ rest) whole

/-- Reading goes on behind one more character of literal text. -/
theorem Resumes.char (h : Resumes u text) (c : Char) :
    Resumes (u ++ doubleBraces [c]) (c :: text) := by
  intro rest template hrest
  rw [List.append_assoc]
  exact h _ template (readAs_doubleBraces hrest)

/-- Reading goes on behind a placeholder. -/
theorem Resumes.placeholder (h : Resumes u text) {p : Placeholder} (hp : p.Canonical) :
    Resumes (u ++ p.render) [] := by
  intro rest template hrest
  rw [List.append_assoc]
  exact h _ _ (readAs_placeholder hp hrest text)

end Accepted

/-- What has been read of the placeholder that is being read. -/
def Mode.opened : Mode → Text
  | .literal _ => []
  | mode => mode.render

/-- A question mark behind a name. -/
theorem opened_optional (start : Nat) (text : Text) :
    (Mode.closing start ⟨text.reverse, .optional⟩).opened =
      (Mode.name start text).opened ++ ['?'] := by
  have hrender : Placeholder.render ⟨text.reverse, .optional⟩ =
      ('\x7b' :: text.reverse ++ ['?']) ++ ['\x7d'] := by simp [Placeholder.render]
  change (Placeholder.render _).dropLast = _
  rw [hrender, List.dropLast_concat]
  rfl

/-- Reading goes on behind a text with the literal text of the mode, or with the placeholder of the
mode, which starts behind the text. -/
def Mode.Continues (u : Text) : Mode → Prop
  | .literal text => Resumes u text
  | .name start _ => start = utf8Length u ∧ ∃ text, Resumes u text
  | .value start _ _ => start = utf8Length u ∧ ∃ text, Resumes u text
  | .closing start _ => start = utf8Length u ∧ ∃ text, Resumes u text

/-- Reading has come to a position behind a text and an unfinished placeholder. -/
structure Mode.Reached (u : Text) (position : Nat) (mode : Mode) (t : Text) : Prop where
  /-- The text is a template, which reading can go on from. -/
  continues : mode.Continues u
  /-- What has been read of the placeholder is fine. -/
  sound : mode.Sound
  /-- The position is that behind the text and the placeholder. -/
  position_eq : position = utf8Length (u ++ mode.opened)
  /-- There is a placeholder if it has been opened. -/
  opens : mode.opened ≠ [] → Opens (mode.opened ++ t)

section Reached

variable {u t : Text} {position : Nat} {mode : Mode}

/-- One more character of literal text is read. -/
theorem Mode.Reached.char {text rest : Text} (h : Mode.Reached u position (.literal text) t)
    (c : Char) : Mode.Reached (u ++ doubleBraces [c])
      (position + utf8Length (doubleBraces [c])) (.literal (c :: text)) rest where
  continues := h.continues.char c
  sound := trivial
  position_eq := by
    rw [h.position_eq, Mode.opened, Mode.opened, List.append_nil, List.append_nil,
      utf8Length_append]
  opens hne := absurd rfl hne

/-- One more character of a placeholder is read. -/
theorem Mode.Reached.step {c : Char} {mode' : Mode} (h : mode.Reached u position (c :: t))
    (hopened : mode'.opened = mode.opened ++ [c]) (hne : mode.opened ≠ [])
    (hcontinues : mode'.Continues u) (hsound : mode'.Sound) :
    mode'.Reached u (position + c.utf8Size) t where
  continues := hcontinues
  sound := hsound
  position_eq := by
    rw [hopened, ← List.append_assoc, utf8Length_concat, ← h.position_eq]
  opens _ := by
    rw [hopened, List.append_assoc]
    exact h.opens hne

/-- A placeholder is read to its end. -/
theorem Mode.Reached.close {p : Placeholder} {text : Text}
    (h : mode.Reached u position ('\x7d' :: t)) (hrender : mode.opened ++ ['\x7d'] = p.render)
    (hp : p.Canonical) (hresumes : Resumes u text) :
    Mode.Reached (u ++ p.render) (position + 1) (.literal []) t where
  continues := hresumes.placeholder hp
  sound := trivial
  position_eq := by
    change _ = utf8Length (u ++ p.render ++ [])
    rw [List.append_nil, ← hrender, ← List.append_assoc, utf8Length_concat, ← h.position_eq]
    rfl
  opens hne := absurd rfl hne

/-- The question mark behind a name is read. -/
theorem Mode.Reached.optional {start : Nat} {text name : Text}
    (h : Mode.Reached u position (.name start text) ('?' :: t))
    (hname : finishName position text = .ok name) :
    Mode.Reached u (position + 1) (.closing start ⟨name, .optional⟩) t := by
  have hsound : Mode.Sound (.closing start ⟨name, .optional⟩) :=
    ⟨isName_of_finishName h.sound hname, fun _ hvalue => by cases hvalue⟩
  obtain rfl := finishName_eq hname
  exact h.step (opened_optional start text) (List.cons_ne_nil _ _) h.continues hsound

end Reached

end Template

end PathRouting
