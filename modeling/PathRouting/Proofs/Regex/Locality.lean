import PathRouting.Proofs.Regex.Reading

/-!
# What reading leaves alone

An expression that is put in a group is followed by a closing parenthesis. Whatever is read of the
expression by itself is read in the same way before the parenthesis, which is left alone, unless
the expression ends in a comment: then the comment swallows the parenthesis too. There are comments
only in verbose mode.
-/

namespace PathRouting.Regex

/-- Reading a part of a text succeeds in the same way if the text goes on with a closing
parenthesis, or else the part reaches to the end of the text and swallows a parenthesis there, which
happens in verbose mode only. -/
def Local {α : Type} (v : Bool) (g : Text → Except Error (α × Text)) : Prop :=
  ∀ t a left, g t = .ok (a, left) →
    (∀ rest, g (t ++ ')' :: rest) = .ok (a, left ++ ')' :: rest)) ∨
      (v = true ∧ left = [] ∧ g (t ++ [')']) = .ok (a, []))

section

variable {α β : Type} {v : Bool} {g : Text → Except Error (α × Text)}

/-- If something is left of the text, the parenthesis is left alone. -/
theorem Local.append (hg : Local v g) {t left : Text} {a : α} (h : g t = .ok (a, left))
    (hleft : left ≠ []) (rest : Text) :
    g (t ++ ')' :: rest) = .ok (a, left ++ ')' :: rest) := by
  rcases hg t a left h with hall | ⟨-, hnil, -⟩
  · exact hall rest
  · exact absurd hnil hleft

/-- Two readers in a row. -/
theorem Local.bind (hg : Local v g) {k : α → Text → Except Error (β × Text)}
    (hk : ∀ a, Local v (k a)) (hnil : ∀ a b left, k a [] = .ok (b, left) → left = []) :
    Local v fun t => g t >>= fun p => k p.1 p.2 := by
  intro t b left h
  obtain ⟨⟨a, mid⟩, hmid, h⟩ := bind_eq_ok h
  dsimp only at h ⊢
  rcases hg t a mid hmid with hall | ⟨hverbose, rfl, hend⟩
  · rcases hk a mid b left h with hrest | ⟨hverbose, hleft, hrest⟩
    · left
      intro rest
      rw [hall rest]
      exact hrest rest
    · right
      refine ⟨hverbose, hleft, ?_⟩
      rw [hall []]
      exact hrest
  · right
    obtain rfl := hnil a b left h
    refine ⟨hverbose, rfl, ?_⟩
    rw [hend]
    exact h

/-- What is made of the result plays no part. -/
theorem Local.map (hg : Local v g) (f : α → Except Error β) :
    Local v fun t => g t >>= fun p => f p.1 >>= fun b => .ok (b, p.2) := by
  refine hg.bind (k := fun a left => f a >>= fun b => .ok (b, left)) (fun a t b left h => ?_) ?_
  · obtain ⟨b', hb, h⟩ := bind_eq_ok h
    cases h
    left
    intro rest
    rw [hb]
    rfl
  · intro a b left h
    obtain ⟨b', -, h⟩ := bind_eq_ok h
    cases h
    rfl

end

/-- Reading a part of a text cannot reach past a parenthesis behind the text. -/
theorem Local.of_append {α : Type} {v : Bool} {g : Text → Except Error (α × Text)}
    (h : ∀ t a left, g t = .ok (a, left) →
      ∀ rest, g (t ++ ')' :: rest) = .ok (a, left ++ ')' :: rest)) : Local v g :=
  fun t a left ht => .inl (h t a left ht)

/-- What is left behind blanks is left alone. -/
theorem skipBlanksFrom_append {comment : Bool} {t : Text} (h : skipBlanksFrom comment t ≠ [])
    (tail : Text) : skipBlanksFrom comment (t ++ tail) = skipBlanksFrom comment t ++ tail := by
  induction t generalizing comment with
  | nil => exact absurd rfl h
  | cons c t ih =>
    rw [List.cons_append]
    unfold skipBlanksFrom at h ⊢
    split
    · rename_i hcomment
      rw [if_pos hcomment] at h
      exact ih h
    · rename_i hcomment
      rw [if_neg hcomment] at h
      split
      · rename_i hspace
        rw [if_pos hspace] at h
        exact ih h
      · rename_i hspace
        rw [if_neg hspace] at h
        split
        · rename_i hsign
          rw [if_pos hsign] at h
          exact ih h
        · rfl

/-- White space starts with that of ASCII, behind which the next line comes. -/
theorem exists_append_eq_whiteSpace :
    ∃ beyond, [⟨0x9, 0xD, 1⟩, ⟨0x20, 0x20, 1⟩, ⟨0x85, 0x85, 1⟩] ++ beyond = whiteSpace := by
  have htake : whiteSpace.take 3 = [⟨0x9, 0xD, 1⟩, ⟨0x20, 0x20, 1⟩, ⟨0x85, 0x85, 1⟩] := by
    decide +kernel
  exact ⟨whiteSpace.drop 3, by rw [← htake, List.take_append_drop]⟩

/-- No visible code point of ASCII is among the white space, whatever comes beyond the next line. -/
theorem contains_eq_false_of_visible (beyond : Unicode.CodeSet) {n : Nat} (hlow : 0x20 < n)
    (hhigh : n < 0x85) : Unicode.CodeSet.contains
      ([⟨0x9, 0xD, 1⟩, ⟨0x20, 0x20, 1⟩, ⟨0x85, 0x85, 1⟩] ++ beyond) n = false := by
  simp only [List.cons_append, Unicode.CodeSet.contains, Unicode.Stride.contains]
  rw [if_neg (by omega), if_neg (by omega), if_pos hhigh]
  simp only [Bool.or_false, Bool.or_eq_false_iff, Bool.and_eq_false_iff, decide_eq_false_iff_not]
  omega

/-- A visible character of ASCII is no white space. -/
theorem not_isSpace_of_visible {c : Char} (hlow : 0x20 < c.toNat) (hhigh : c.toNat < 0x85) :
    ¬isSpace c = true := by
  obtain ⟨beyond, hbeyond⟩ := exists_append_eq_whiteSpace
  unfold isSpace
  rw [← hbeyond, contains_eq_false_of_visible beyond hlow hhigh]
  exact Bool.false_ne_true

/-- A parenthesis is no blank. -/
theorem skipBlanksFrom_close_cons (rest : Text) :
    skipBlanksFrom false (')' :: rest) = ')' :: rest := by
  rw [skipBlanksFrom, if_neg Bool.false_ne_true,
    if_neg (not_isSpace_of_visible (by decide) (by decide)), if_neg (by decide)]

/-- A parenthesis behind blanks is left alone, or else it is part of a comment. -/
theorem skipBlanksFrom_close {comment : Bool} {t : Text} (h : skipBlanksFrom comment t = []) :
    (∀ rest, skipBlanksFrom comment (t ++ ')' :: rest) = ')' :: rest) ∨
      skipBlanksFrom comment (t ++ [')']) = [] := by
  induction t generalizing comment with
  | nil =>
    cases comment with
    | true => exact .inr rfl
    | false => exact .inl skipBlanksFrom_close_cons
  | cons c t ih =>
    unfold skipBlanksFrom at h ⊢
    rw [List.cons_append]
    dsimp only
    split
    · rename_i hcomment
      rw [if_pos hcomment] at h
      simpa only [List.cons_append, if_pos hcomment] using ih h
    · rename_i hcomment
      rw [if_neg hcomment] at h
      split
      · rename_i hspace
        rw [if_pos hspace] at h
        simpa only [List.cons_append, if_neg hcomment, if_pos hspace] using ih h
      · rename_i hspace
        rw [if_neg hspace] at h
        split
        · rename_i hsign
          rw [if_pos hsign] at h
          simpa only [List.cons_append, if_neg hcomment, if_neg hspace, if_pos hsign] using ih h
        · rename_i hsign
          rw [if_neg hsign] at h
          cases h

/-- What is left behind blanks is left alone. -/
theorem skipBlanks_append {v : Bool} {t : Text} (h : skipBlanks v t ≠ []) (tail : Text) :
    skipBlanks v (t ++ tail) = skipBlanks v t ++ tail := by
  cases v with
  | true => exact skipBlanksFrom_append h tail
  | false => rfl

/-- A parenthesis behind blanks is left alone, or else it is part of a comment. -/
theorem skipBlanks_close {v : Bool} {t : Text} (h : skipBlanks v t = []) :
    (∀ rest, skipBlanks v (t ++ ')' :: rest) = ')' :: rest) ∨
      (v = true ∧ skipBlanks v (t ++ [')']) = []) := by
  cases v with
  | true => exact (skipBlanksFrom_close h).imp_right fun hend => ⟨rfl, hend⟩
  | false =>
    obtain rfl : t = [] := h
    exact .inl fun rest => rfl

/-- Blanks are passed over up to a parenthesis, or else it is part of a comment. -/
theorem skipBlanks_local (v : Bool) (t : Text) :
    (∀ rest, skipBlanks v (t ++ ')' :: rest) = skipBlanks v t ++ ')' :: rest) ∨
      (v = true ∧ skipBlanks v t = [] ∧ skipBlanks v (t ++ [')']) = []) := by
  by_cases ht : skipBlanks v t = []
  · rcases skipBlanks_close ht with hall | ⟨hverbose, hend⟩
    · left
      intro rest
      rw [hall rest, ht]
      rfl
    · exact .inr ⟨hverbose, ht, hend⟩
  · exact .inl fun rest => skipBlanks_append ht _

/-- Blanks before what is read play no part. -/
theorem Local.skip {α : Type} {v : Bool} {g : Text → Except Error (α × Text)} (hg : Local v g)
    (hnil : ∀ a left, g [] = .ok (a, left) → left = []) :
    Local v fun t => g (skipBlanks v t) := by
  intro t a left h
  dsimp only at h ⊢
  by_cases ht : skipBlanks v t = []
  · rw [ht] at h
    obtain rfl := hnil a left h
    rcases skipBlanks_close ht with hall | ⟨hverbose, hend⟩
    · rcases hg [] a [] h with hrest | ⟨hverbose, -, hrest⟩
      · left
        intro rest
        rw [hall rest]
        exact hrest rest
      · right
        refine ⟨hverbose, rfl, ?_⟩
        rw [hall []]
        exact hrest
    · right
      rw [hend]
      exact ⟨hverbose, rfl, h⟩
  · rcases hg _ a left h with hall | ⟨hverbose, hleft, hend⟩
    · left
      intro rest
      rw [skipBlanks_append ht]
      exact hall rest
    · right
      rw [skipBlanks_append ht]
      exact ⟨hverbose, hleft, hend⟩

/-- What is left behind collected characters is left alone. -/
theorem collectFrom_append {v : Bool} {p : Char → Bool} {comment : Bool} {t taken left : Text}
    (h : collectFrom v p comment t = (taken, left)) (hleft : left ≠ []) (tail : Text) :
    collectFrom v p comment (t ++ tail) = (taken, left ++ tail) := by
  induction t generalizing comment taken with
  | nil =>
    cases h
    exact absurd rfl hleft
  | cons c t ih =>
    rw [List.cons_append]
    unfold collectFrom at h ⊢
    split
    · rename_i hcomment
      rw [if_pos hcomment] at h
      exact ih h
    · rename_i hcomment
      rw [if_neg hcomment] at h
      split
      · rename_i hspace
        rw [if_pos hspace] at h
        exact ih h
      · rename_i hspace
        rw [if_neg hspace] at h
        split
        · rename_i hsign
          rw [if_pos hsign] at h
          exact ih h
        · rename_i hsign
          rw [if_neg hsign] at h
          split
          · rename_i hp
            rw [if_pos hp] at h
            cases hrest : collectFrom v p false t with
            | mk taken' left' =>
              rw [hrest] at h
              cases h
              rw [ih hrest]
          · rename_i hp
            rw [if_neg hp] at h
            cases h
            rfl

/-- What is left behind collected characters is left alone. -/
theorem collect_append {v : Bool} {p : Char → Bool} {t taken left : Text}
    (h : collect v p t = (taken, left)) (hleft : left ≠ []) (tail : Text) :
    collect v p (t ++ tail) = (taken, left ++ tail) :=
  collectFrom_append h hleft tail

/-- What is left behind dropped characters is left alone. -/
theorem dropWhile_append {p : Char → Bool} {t : Text} (h : t.dropWhile p ≠ []) (tail : Text) :
    (t ++ tail).dropWhile p = t.dropWhile p ++ tail := by
  rw [List.dropWhile_append, if_neg (by simpa using h)]

/-- The characters that are taken are the same if something is left behind them. -/
theorem takeWhile_append {p : Char → Bool} {t : Text} (h : t.dropWhile p ≠ []) (tail : Text) :
    (t ++ tail).takeWhile p = t.takeWhile p := by
  rw [List.takeWhile_append, if_neg]
  intro hlen
  refine h ?_
  have hsplit := congrArg List.length (List.takeWhile_append_dropWhile (p := p) (l := t))
  rw [List.length_append] at hsplit
  exact List.eq_nil_of_length_eq_zero (by omega)

/-- A text starts with the character that a longer text starts with. -/
theorem exists_eq_cons_of_append {t tail rest : Text} {c : Char} (ht : t ≠ [])
    (h : t ++ tail = c :: rest) : ∃ rest', t = c :: rest' := by
  cases t with
  | nil => exact absurd rfl ht
  | cons d t => exact ⟨t, by rw [(List.cons.inj h).1]⟩

/-- What a text does not start with, a longer text does not start with. -/
theorem append_ne_cons {t : Text} {c : Char} (ht : t ≠ []) (h : ∀ rest, t = c :: rest → False)
    (tail rest : Text) (heq : t ++ tail = c :: rest) : False := by
  obtain ⟨rest', hrest'⟩ := exists_eq_cons_of_append ht heq
  exact h rest' hrest'

/-- A text starts with the two characters that it starts with before a parenthesis, unless the
second one is the parenthesis. -/
theorem exists_eq_cons_cons_of_append {t tail rest : Text} {c d : Char} (ht : t ≠ [])
    (hd : d ≠ ')') (h : t ++ ')' :: tail = c :: d :: rest) : ∃ rest', t = c :: d :: rest' := by
  obtain ⟨u, rfl⟩ := exists_eq_cons_of_append ht h
  have hu := (List.cons.inj h).2
  cases u with
  | nil => exact absurd (List.cons.inj hu).1.symm hd
  | cons e u => exact ⟨u, by rw [(List.cons.inj hu).1]⟩

/-- Before a parenthesis a text does not start with two characters that it does not start with by
itself, unless the second one is the parenthesis. -/
theorem append_ne_cons_cons {t : Text} {c d : Char} (ht : t ≠ []) (hd : d ≠ ')')
    (h : ∀ rest, t = c :: d :: rest → False) (tail rest : Text)
    (heq : t ++ ')' :: tail = c :: d :: rest) : False := by
  obtain ⟨rest', hrest'⟩ := exists_eq_cons_cons_of_append ht hd heq
  exact h rest' hrest'

end PathRouting.Regex
