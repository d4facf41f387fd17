import Mathlib.Data.List.TakeWhile
import PathRouting.Proofs.Regex.LocalEscapes

/-!
# Bracketed classes before a parenthesis

A bracketed class is read in the same way if the text goes on with a closing parenthesis: the class
is closed before the text ends, so nothing in it can reach the parenthesis.
-/

namespace PathRouting.Regex

/-- A member of a class is read up to a parenthesis. -/
theorem local_classMember (f : Flags) : Local f.verbose (classMember f) := by
  intro t a left h
  unfold classMember at h
  split at h
  · cases h
  · rename_i rest
    exact local_primitive f rest a left h
  · rename_i c rest hc
    cases h
    left
    intro tail
    unfold classMember
    split
    · rename_i heq
      cases heq
    · rename_i heq
      cases heq
      exact absurd rfl hc
    · rename_i heq
      cases heq
      rfl

/-- White space is skipped, also inside of a comment. -/
theorem skipBlanksFrom_eq_nil {comment : Bool} {t : Text} (h : t.dropWhile isSpace = []) :
    skipBlanksFrom comment t = [] := by
  rw [List.dropWhile_eq_nil_iff] at h
  induction t generalizing comment with
  | nil => rfl
  | cons c t ih =>
    have hrest : ∀ comment, skipBlanksFrom comment t = [] :=
      fun comment => ih fun d hd => h d (List.mem_cons_of_mem c hd)
    unfold skipBlanksFrom
    rw [if_pos (h c List.mem_cons_self), hrest, hrest, ite_self]

/-- White space at the start of a text is skipped. -/
theorem skipBlanksFrom_dropWhile (t : Text) :
    skipBlanksFrom false (t.dropWhile isSpace) = skipBlanksFrom false t := by
  induction t with
  | nil => rfl
  | cons c t ih =>
    by_cases hc : isSpace c = true
    · rw [List.dropWhile_cons_of_pos hc, ih, skipBlanksFrom, if_neg Bool.false_ne_true, if_pos hc]
    · rw [List.dropWhile_cons_of_neg hc]

/-- What is seen past blanks and the sign of a comment. -/
def pastBlanks (t : Text) : Text :=
  match t.dropWhile isSpace with
  | '#' :: rest => rest.dropWhile isSpace
  | rest => rest

/-- Behind a sign that starts the text, only blanks are passed. -/
theorem pastBlanks_sign {t rest : Text} (h : t.dropWhile isSpace = '#' :: rest) :
    pastBlanks t = rest.dropWhile isSpace := by
  unfold pastBlanks
  rw [h]
  rfl

/-- Without a sign, only the blanks in front are passed. -/
theorem pastBlanks_of_ne {t rest : Text} {c : Char} (h : t.dropWhile isSpace = c :: rest)
    (hc : c ≠ '#') : pastBlanks t = c :: rest := by
  unfold pastBlanks
  rw [h]
  split
  · rename_i heq
    exact absurd (List.cons.inj heq).1 hc
  · rfl

/-- What is seen goes on with what a longer text goes on with. -/
theorem pastBlanks_append {t : Text} (h : pastBlanks t ≠ []) (tail : Text) :
    pastBlanks (t ++ tail) = pastBlanks t ++ tail := by
  cases hu : t.dropWhile isSpace with
  | nil =>
    unfold pastBlanks at h
    rw [hu] at h
    exact absurd rfl h
  | cons c u =>
    have happend : (t ++ tail).dropWhile isSpace = c :: (u ++ tail) := by
      rw [dropWhile_append (by simp [hu]), hu, List.cons_append]
    by_cases hc : c = '#'
    · subst hc
      rw [pastBlanks_sign hu] at h ⊢
      rw [pastBlanks_sign happend, dropWhile_append h]
    · rw [pastBlanks_of_ne hu hc, pastBlanks_of_ne happend hc, List.cons_append]

/-- If nothing is seen, the text is all blanks. -/
theorem skipBlanks_of_pastBlanks {t : Text} (h : pastBlanks t = []) : skipBlanks true t = [] := by
  have hskip : skipBlanks true t = skipBlanksFrom false (t.dropWhile isSpace) :=
    (skipBlanksFrom_dropWhile t).symm
  rw [hskip]
  cases hu : t.dropWhile isSpace with
  | nil => rfl
  | cons c u =>
    by_cases hc : c = '#'
    · subst hc
      rw [pastBlanks_sign hu] at h
      rw [skipBlanksFrom, if_neg Bool.false_ne_true,
        if_neg (not_isSpace_of_visible (by decide) (by decide)), if_pos rfl]
      exact skipBlanksFrom_eq_nil h
    · rw [pastBlanks_of_ne hu hc] at h
      cases h

/-- A visible character that starts the text is seen, unless it is the sign of a comment. -/
theorem pastBlanks_ne_nil_of_visible {t : Text} {c : Char} (hc : t.head? = some c)
    (hlow : 0x20 < c.toNat) (hhigh : c.toNat < 0x85) (hsign : c ≠ '#') : pastBlanks t ≠ [] := by
  obtain ⟨t, rfl⟩ := List.head?_eq_some_iff.mp hc
  rw [pastBlanks_of_ne (List.dropWhile_cons_of_neg (not_isSpace_of_visible hlow hhigh)) hsign]
  exact List.cons_ne_nil c t

/-- Past blanks and the sign of a comment, the same character is seen in a longer text. -/
theorem peekPastBlanks_append {v : Bool} {t : Text} (h : peekPastBlanks v t = some ']' ∨
    peekPastBlanks v t = some '-' ∨ skipBlanks v t ≠ []) (tail : Text) :
    peekPastBlanks v (t ++ tail) = peekPastBlanks v t := by
  cases v with
  | false =>
    cases t with
    | nil => simp [peekPastBlanks, skipBlanks] at h
    | cons c t =>
      unfold peekPastBlanks
      rw [if_neg Bool.false_ne_true, if_neg Bool.false_ne_true]
      rfl
  | true =>
    have hpeek : ∀ t, peekPastBlanks true t = ((pastBlanks t).head? <|> t.head?) := fun _ => rfl
    rw [hpeek] at h
    rw [hpeek, hpeek]
    by_cases hnil : pastBlanks t = []
    · rw [hnil, skipBlanks_of_pastBlanks hnil] at h
      rcases h with h | h | h
      · exact absurd hnil (pastBlanks_ne_nil_of_visible h (by decide) (by decide) (by decide))
      · exact absurd hnil (pastBlanks_ne_nil_of_visible h (by decide) (by decide) (by decide))
      · exact absurd rfl h
    · rw [pastBlanks_append hnil]
      obtain ⟨c, rest, hseen⟩ := List.exists_cons_of_ne_nil hnil
      rw [hseen]
      rfl

/-- The range from one member to another one. -/
def rangeTo (f : Flags) (first last : Primitive) : Except Error CharSet := do
  let low ← first.char? f
  let high ← last.char? f
  if high < low then .error .classRange else return .range low high

/-- A hyphen before another member makes a range to it. -/
theorem rangeFrom_hyphen {f : Flags} {rest : Text}
    (h : ¬(peekPastBlanks f.verbose rest == some ']' || peekPastBlanks f.verbose rest == some '-') =
      true) (first : Primitive) : rangeFrom f first ('-' :: rest) =
        classMember f (skipBlanks f.verbose rest) >>= fun p =>
          rangeTo f first p.1 >>= fun s => .ok (s, p.2) := by
  refine (if_neg h).trans ?_
  unfold rangeTo
  cases classMember f (skipBlanks f.verbose rest) with
  | error e => rfl
  | ok p =>
    dsimp only [bind, Except.bind]
    cases first.char? f with
    | error e => rfl
    | ok low =>
      cases p.1.char? f with
      | error e => rfl
      | ok high =>
        dsimp only
        split
        · rfl
        · rfl

/-- What makes a range of its first member is read up to a parenthesis. -/
theorem local_rangeFrom (f : Flags) (first : Primitive) : Local f.verbose (rangeFrom f first) := by
  intro t s left h
  have hstart := h
  unfold rangeFrom at h
  split at h
  · rename_i rest
    dsimp only at h
    split at h
    · rename_i hpeek
      obtain ⟨s', hs, h⟩ := bind_eq_ok h
      cases h
      left
      intro tail
      have hsame := peekPastBlanks_append (v := f.verbose) (t := rest)
        (by simp only [Bool.or_eq_true, beq_iff_eq] at hpeek; tauto) (')' :: tail)
      simp only [List.cons_append, rangeFrom, hsame, if_pos hpeek, hs]
      rfl
    · rename_i hpeek
      have hne : skipBlanks f.verbose rest ≠ [] := by
        intro hnil
        rw [hnil] at h
        cases h
      have happend : ∀ tail, rangeFrom f first ('-' :: rest ++ tail) =
          classMember f (skipBlanks f.verbose rest ++ tail) >>= fun p =>
            rangeTo f first p.1 >>= fun s => .ok (s, p.2) := by
        intro tail
        rw [List.cons_append, rangeFrom_hyphen (by rwa [peekPastBlanks_append (.inr (.inr hne))]),
          skipBlanks_append hne]
      rw [rangeFrom_hyphen hpeek] at hstart
      simp only [happend]
      exact ((local_classMember f).map (rangeTo f first)) _ s left hstart
  · rename_i hhyphen
    obtain ⟨s', hs, h⟩ := bind_eq_ok h
    cases h
    left
    intro tail
    unfold rangeFrom
    split
    · rename_i heq
      cases t with
      | nil => cases heq
      | cons c t =>
        cases heq
        exact absurd rfl (hhyphen t)
    · rw [hs]
      rfl

/-- A member or a range of a class is read up to a parenthesis. -/
theorem local_classItem (f : Flags) : Local f.verbose (classItem f) := by
  refine (local_classMember f).bind (k := fun first left => rangeFrom f first
    (skipBlanks f.verbose left)) (fun first => (local_rangeFrom f first).skip ?_) ?_
  · intro s left h
    obtain ⟨s', -, h⟩ := bind_eq_ok h
    cases h
    rfl
  · intro first s left h
    have hnil : skipBlanks f.verbose [] = [] := by cases f.verbose <;> rfl
    rw [hnil] at h
    obtain ⟨s', -, h⟩ := bind_eq_ok h
    cases h
    rfl

/-- The first items of a class are the same if something is left behind them. -/
theorem firstItems_append {v negated : Bool} {t left : Text} {b : Bracket}
    (h : firstItems v negated t = (b, left)) (hleft : left ≠ []) (tail : Text) :
    firstItems v negated (t ++ tail) = (b, left ++ tail) := by
  unfold firstItems at h ⊢
  split at h
  · rename_i rest hcollect
    cases h
    rw [collect_append hcollect (List.cons_ne_nil _ _)]
    simp only [List.cons_append, skipBlanks_append hleft]
  · rename_i hyphens mid hbracket hcollect
    cases h
    rw [collect_append hcollect hleft]
    split
    · rename_i heq
      cases left with
      | nil => exact absurd rfl hleft
      | cons c left =>
        cases heq
        exact absurd rfl (hbracket _ rfl)
    · rename_i heq
      cases heq
      rfl

/-- The start of a class is the same if something is left behind it. -/
theorem openBracket_append {v : Bool} {t left : Text} {b : Bracket}
    (h : openBracket v t = (b, left)) (hleft : left ≠ []) (tail : Text) :
    openBracket v (t ++ tail) = (b, left ++ tail) := by
  have hnil : ∀ negated, firstItems v negated [] = (b, left) → False := by
    intro negated h
    cases h
    exact hleft rfl
  unfold openBracket at h ⊢
  have hne : skipBlanks v t ≠ [] := by
    intro ht
    rw [ht] at h
    exact hnil false h
  rw [skipBlanks_append hne]
  generalize skipBlanks v t = u at h hne ⊢
  split at h
  · rename_i rest
    have hrest : skipBlanks v rest ≠ [] := by
      intro hrest
      rw [hrest] at h
      exact hnil true h
    simp only [List.cons_append, skipBlanks_append hrest]
    exact firstItems_append h hleft tail
  · rename_i hsign
    cases u with
    | nil => exact absurd rfl hne
    | cons c u =>
      split
      · rename_i heq
        cases heq
        exact absurd rfl (hsign u)
      · exact firstItems_append h hleft tail

/-- A named class has no parenthesis in its name. -/
theorem notMem_of_asciiClassNamed? {name : Text} {s : CharSet}
    (h : asciiClassNamed? (String.ofList name) = some s) : ')' ∉ name := by
  unfold asciiClassNamed? at h
  split at h
  on_goal 15 => cases h
  all_goals
    rename_i heq
    have hname := congrArg String.toList heq
    rw [String.toList_ofList] at hname
    rw [hname]
    decide

/-- The name of a class is read before anything that follows. -/
theorem asciiClassFrom?_append {negated : Bool} {t left : Text} {named : Bool × CharSet}
    (h : asciiClassFrom? negated t = some (named, left)) (tail : Text) :
    asciiClassFrom? negated (t ++ tail) = some (named, left ++ tail) := by
  unfold asciiClassFrom? at h ⊢
  split at h
  · rename_i left' hdrop
    have hne : t.dropWhile (· != ':') ≠ [] := by simp [hdrop]
    obtain ⟨set, hset, heq⟩ := Option.map_eq_some_iff.mp h
    cases heq
    simp only [dropWhile_append hne, takeWhile_append hne, hdrop, List.cons_append, hset,
      Option.map_some]
  · cases h

/-- A text that starts with no name of a class starts with none before a parenthesis. -/
theorem asciiClassFrom?_close {negated : Bool} {t : Text} (h : asciiClassFrom? negated t = none)
    (tail : Text) : asciiClassFrom? negated (t ++ ')' :: tail) = none := by
  unfold asciiClassFrom? at h ⊢
  split
  · rename_i left hdrop
    rw [Option.map_eq_none_iff]
    by_cases hne : t.dropWhile (· != ':') = []
    · rw [List.takeWhile_append_of_pos (List.dropWhile_eq_nil_iff.mp hne),
        List.takeWhile_cons_of_pos (by decide), ← Option.not_isSome_iff_eq_none]
      intro hsome
      obtain ⟨set, hset⟩ := Option.isSome_iff_exists.mp hsome
      exact notMem_of_asciiClassNamed? hset (by simp)
    · rw [takeWhile_append hne]
      rw [dropWhile_append hne] at hdrop
      split at h
      · exact Option.map_eq_none_iff.mp h
      · rename_i hnone
        cases hu : t.dropWhile (· != ':') with
        | nil => exact absurd hu hne
        | cons c u =>
          rw [hu] at hdrop
          cases u with
          | nil => cases hdrop
          | cons d u =>
            cases hdrop
            exact absurd hu (hnone u)
  · rfl

/-- Without a sign of negation the name of a class starts behind the colon. -/
theorem asciiClass?_plain {c : Char} (hc : c ≠ '^') (t : Text) :
    asciiClass? (':' :: c :: t) = asciiClassFrom? false (c :: t) := by
  unfold asciiClass?
  split
  · rename_i heq
    cases heq
    exact absurd rfl hc
  · rename_i heq
    cases heq
    rfl
  · rename_i hnone
    exact absurd rfl (hnone _)

/-- A named class starts with a colon. -/
theorem asciiClass?_other {c : Char} (hc : c ≠ ':') (t : Text) : asciiClass? (c :: t) = none := by
  unfold asciiClass?
  split
  · rename_i heq
    cases heq
    exact absurd rfl hc
  · rename_i heq
    cases heq
    exact absurd rfl hc
  · rfl

/-- A named class is read before anything that follows. -/
theorem asciiClass?_append {t left : Text} {named : Bool × CharSet}
    (h : asciiClass? t = some (named, left)) (tail : Text) :
    asciiClass? (t ++ tail) = some (named, left ++ tail) := by
  unfold asciiClass? at h
  split at h
  · exact asciiClassFrom?_append h tail
  · rename_i rest hsign
    cases rest with
    | nil => cases h
    | cons c rest =>
      have hc : c ≠ '^' := fun heq => hsign rest (by rw [heq])
      exact (asciiClass?_plain hc (rest ++ tail)).trans (asciiClassFrom?_append h tail)
  · cases h

/-- A text that starts with no named class starts with none before a parenthesis. -/
theorem asciiClass?_close {t : Text} (h : asciiClass? t = none) (tail : Text) :
    asciiClass? (t ++ ')' :: tail) = none := by
  cases t with
  | nil => rfl
  | cons c t =>
    by_cases hc : c = ':'
    · subst hc
      cases t with
      | nil => exact asciiClassFrom?_close (t := []) rfl tail
      | cons d t =>
        by_cases hd : d = '^'
        · subst hd
          exact asciiClassFrom?_close (t := t) h tail
        · rw [asciiClass?_plain hd] at h
          exact (asciiClass?_plain hd (t ++ ')' :: tail)).trans (asciiClassFrom?_close h tail)
    · exact asciiClass?_other hc _

/-- A class that has been read is read in the same way with more fuel. -/
theorem classFrom_mono {f : Flags} {fuel : Nat} {outer : List Bracket} {b : Bracket} {t : Text}
    {result : Nested × Text} (h : classFrom f fuel outer b t = .ok result) (more : Nat) :
    classFrom f (fuel + more) outer b t = .ok result := by
  induction fuel generalizing outer b t with
  | zero => cases h
  | succ fuel ih =>
    rw [Nat.add_right_comm]
    unfold classFrom at h ⊢
    obtain ⟨⟨step, left⟩, hstep, h⟩ := bind_eq_ok h
    rw [hstep]
    cases step with
    | done n => exact h
    | more outer b => exact ih h

/-- A part of a class is read in the same way before a parenthesis, unless nothing is left of the
text while a bracket is open. -/
theorem classPart_append {f : Flags} {outer : List Bracket} {b : Bracket} {t left : Text}
    {step : ClassStep} (h : classPart f outer b t = .ok (step, left))
    (hleft : left ≠ [] ∨ ∃ n, step = .done n) (tail : Text) :
    classPart f outer b (t ++ ')' :: tail) = .ok (step, left ++ ')' :: tail) := by
  unfold classPart at h
  split at h
  · cases h
  · rename_i rest
    split at h
    · rename_i negated set left' hnamed
      obtain ⟨set', hset, h⟩ := bind_eq_ok h
      cases h
      simp only [List.cons_append, classPart, asciiClass?_append hnamed, hset]
      rfl
    · rename_i hnamed
      cases h
      have hne : (openBracket f.verbose rest).2 ≠ [] := by
        rcases hleft with hleft | ⟨n, hdone⟩
        · exact hleft
        · cases hdone
      simp only [List.cons_append, classPart, asciiClass?_close hnamed,
        openBracket_append (Prod.eta _).symm hne]
      rfl
  · rename_i rest
    obtain ⟨set, hset, h⟩ := bind_eq_ok h
    simp only [List.cons_append, classPart, hset]
    split at h
    · cases h
      rfl
    · cases h
      rfl
  · cases h
    rfl
  · cases h
    rfl
  · cases h
    rfl
  · rename_i hnil hopen hclose hand hhyphen htilde
    obtain ⟨⟨set, left'⟩, hitem, h⟩ := bind_eq_ok h
    cases h
    have hne : left ≠ [] := by
      rcases hleft with hleft | ⟨n, hdone⟩
      · exact hleft
      · cases hdone
    rw [classPart.eq_7 f outer b _ (List.append_ne_nil_of_left_ne_nil hnil _)
      (append_ne_cons hnil hopen _) (append_ne_cons hnil hclose _)
      (append_ne_cons_cons hnil (by decide) hand _)
      (append_ne_cons_cons hnil (by decide) hhyphen _)
      (append_ne_cons_cons hnil (by decide) htilde _), (local_classItem f).append hitem hne]
    rfl

/-- Classes are read up to a parenthesis, which is left alone. -/
theorem classFrom_append {f : Flags} {fuel : Nat} {outer : List Bracket} {b : Bracket}
    {t left : Text} {n : Nested} (h : classFrom f fuel outer b t = .ok (n, left)) (tail : Text) :
    classFrom f fuel outer b (t ++ ')' :: tail) = .ok (n, left ++ ')' :: tail) := by
  have hskip : skipBlanks f.verbose [] = [] := by cases f.verbose <;> rfl
  have hnil : ∀ fuel outer b, classFrom f fuel outer b [] = .ok (n, left) → False := by
    intro fuel outer b h
    cases fuel with
    | zero => cases h
    | succ fuel =>
      rw [classFrom, hskip] at h
      cases h
  induction fuel generalizing outer b t with
  | zero => cases h
  | succ fuel ih =>
    have hne : skipBlanks f.verbose t ≠ [] := by
      intro ht
      rw [classFrom, ht] at h
      cases h
    unfold classFrom at h ⊢
    rw [skipBlanks_append hne]
    obtain ⟨⟨step, mid⟩, hstep, h⟩ := bind_eq_ok h
    cases step with
    | done n =>
      cases h
      rw [classPart_append hstep (.inr ⟨n, rfl⟩)]
      rfl
    | more outer b =>
      have hmid : mid ≠ [] := by
        rintro rfl
        exact hnil _ _ _ h
      rw [classPart_append hstep (.inl hmid)]
      exact ih h

/-- A bracketed class is read up to a parenthesis. -/
theorem bracketedClass_append {f : Flags} {t left : Text} {n : Nested}
    (h : bracketedClass f t = .ok (n, left)) (tail : Text) :
    bracketedClass f (t ++ ')' :: tail) = .ok (n, left ++ ')' :: tail) := by
  unfold bracketedClass at h ⊢
  dsimp only at h ⊢
  have hne : (openBracket f.verbose t).2 ≠ [] := by
    intro hnil
    have hskip : skipBlanks f.verbose [] = [] := by cases f.verbose <;> rfl
    rw [hnil, classFrom, hskip] at h
    cases h
  rw [openBracket_append (Prod.eta _).symm hne, List.length_append, Nat.add_right_comm]
  exact classFrom_mono (classFrom_append h tail) _

end PathRouting.Regex
