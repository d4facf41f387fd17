import PathRouting.Proofs.Regex.Token

/-!
# Reading makes progress

What reading a part of an expression leaves is an end of the text, and each part takes at least one
character. So the fuel that reading is given, which goes by the length of the text, is always
enough: an expression that can be read with any amount of fuel is read. The names of groups that
have been read are kept.
-/

namespace PathRouting.Regex

/-- What reading leaves is an end of the text. -/
def LeavesEnd {α : Type} (g : Text → Except Error (α × Text)) : Prop :=
  ∀ {t : Text} {a : α} {left : Text}, g t = .ok (a, left) → left <:+ t

/-- What is left behind blanks is an end of the text. -/
theorem skipBlanksFrom_suffix (comment : Bool) (t : Text) : skipBlanksFrom comment t <:+ t := by
  induction t generalizing comment with
  | nil => exact List.suffix_refl []
  | cons c t ih =>
    unfold skipBlanksFrom
    split
    · exact (ih _).trans (List.suffix_cons c t)
    · split
      · exact (ih _).trans (List.suffix_cons c t)
      · split
        · exact (ih _).trans (List.suffix_cons c t)
        · exact List.suffix_refl _

/-- What is left behind blanks is an end of the text. -/
theorem skipBlanks_suffix (v : Bool) (t : Text) : skipBlanks v t <:+ t := by
  unfold skipBlanks
  split
  · exact skipBlanksFrom_suffix false t
  · exact List.suffix_refl t

/-- What is left behind collected characters is an end of the text. -/
theorem collectFrom_suffix (v : Bool) (p : Char → Bool) (comment : Bool) (t : Text) :
    (collectFrom v p comment t).2 <:+ t := by
  induction t generalizing comment with
  | nil => exact List.suffix_refl []
  | cons c t ih =>
    unfold collectFrom
    split
    · exact (ih _).trans (List.suffix_cons c t)
    · split
      · exact (ih _).trans (List.suffix_cons c t)
      · split
        · exact (ih _).trans (List.suffix_cons c t)
        · split
          · exact (ih false).trans (List.suffix_cons c t)
          · exact List.suffix_refl _

/-- What is left behind collected characters is an end of the text. -/
theorem suffix_of_collect_eq {v : Bool} {p : Char → Bool} {t taken left : Text}
    (h : collect v p t = (taken, left)) : left <:+ t := by
  have hsuffix := collectFrom_suffix v p false t
  change (collect v p t).2 <:+ t at hsuffix
  rwa [h] at hsuffix

/-- What is left behind the first character of an end of a text is an end of the text. -/
theorem suffix_of_cons_suffix {c : Char} {left t : Text} (h : c :: left <:+ t) : left <:+ t :=
  (List.suffix_cons c left).trans h

/-- What is left behind hexadecimal digits is an end of the text. -/
theorem suffix_of_hexDigits {v : Bool} {count : Nat} {t left : Text} {digits : List Nat}
    (h : hexDigits v count t = some (digits, left)) : left <:+ t := by
  induction count generalizing t digits with
  | zero =>
    cases h
    exact List.suffix_refl _
  | succ count ih =>
    cases t with
    | nil => cases h
    | cons c t =>
      unfold hexDigits at h
      dsimp only at h
      split at h
      · cases h
      · obtain ⟨⟨others, left'⟩, hothers, heq⟩ := Option.map_eq_some_iff.mp h
        cases heq
        exact ((ih hothers).trans (skipBlanks_suffix v t)).trans (List.suffix_cons c t)

/-- What is left behind a code point is an end of the text. -/
theorem leavesEnd_hexEscape (v : Bool) (width : Nat) : LeavesEnd (hexEscape v width) := by
  intro t a left h
  have hskip := skipBlanks_suffix v t
  unfold hexEscape at h
  split at h
  · rename_i rest hopen
    rw [hopen] at hskip
    split at h
    · rename_i hcollect
      obtain ⟨c, -, h⟩ := bind_eq_ok h
      cases h
      exact (skipBlanks_suffix v _).trans
        ((suffix_of_cons_suffix (suffix_of_collect_eq hcollect)).trans (suffix_of_cons_suffix hskip))
    · cases h
  · split at h
    · cases h
    · rename_i hdigits
      obtain ⟨c, -, h⟩ := bind_eq_ok h
      cases h
      exact (suffix_of_hexDigits hdigits).trans hskip

/-- What is left behind a property is an end of the text. -/
theorem leavesEnd_propertyEscape (f : Flags) (negated : Bool) :
    LeavesEnd (propertyEscape f negated) := by
  intro t a left h
  have hskip := skipBlanks_suffix f.verbose t
  unfold propertyEscape at h
  dsimp only [bind, Except.bind] at h
  split at h
  · cases h
  · rename_i hopen
    rw [hopen] at hskip
    split at h
    · rename_i hcollect
      have hleft := (suffix_of_cons_suffix (suffix_of_collect_eq hcollect)).trans
        (suffix_of_cons_suffix hskip)
      split at h
      · cases h
      · split at h
        · cases h
        · cases h
          exact hleft
    · cases h
  · rename_i hopen
    rw [hopen] at hskip
    split at h
    · cases h
    · have hleft := (skipBlanks_suffix f.verbose _).trans (suffix_of_cons_suffix hskip)
      split at h
      · cases h
      · split at h
        · cases h
        · cases h
          exact hleft

/-- What is left behind the name of a word bound is an end of the text. -/
theorem leavesEnd_wordBoundEscape (f : Flags) : LeavesEnd (wordBoundEscape f) := by
  intro t a left h
  unfold wordBoundEscape at h
  split at h
  · rename_i rest
    have hskip := skipBlanks_suffix f.verbose rest
    split at h
    · cases h
    · rename_i hname
      rw [hname] at hskip
      dsimp only at h
      split at h
      · split at h
        · rename_i hcollect
          split at h
          · cases h
            exact (suffix_of_cons_suffix ((suffix_of_collect_eq hcollect).trans hskip)).trans
              (List.suffix_cons _ rest)
          · cases h
        · cases h
      · cases h
        exact List.suffix_refl _
  · cases h
    exact List.suffix_refl _

/-- What is left behind an escape sequence is an end of the text. -/
theorem leavesEnd_primitive (f : Flags) : LeavesEnd (primitive f) := by
  intro t a left h
  unfold primitive at h
  split at h
  · cases h
  · rename_i c rest
    have hcons : ∀ {left : Text}, left <:+ rest → left <:+ c :: rest :=
      fun hleft => hleft.trans (List.suffix_cons c rest)
    have hsame : rest <:+ c :: rest := List.suffix_cons c rest
    have hperl : ∀ {letter : Char}, (perlSet f letter).map (fun s => (.set s, rest)) =
        .ok (a, left) → left <:+ c :: rest := by
      intro letter h
      cases hset : perlSet f letter with
      | error e =>
        rw [hset] at h
        cases h
      | ok s =>
        rw [hset] at h
        cases h
        exact hsame
    split at h
    any_goals
      cases h
      exact hsame
    any_goals exact hcons (leavesEnd_hexEscape _ _ h)
    any_goals exact hcons (leavesEnd_propertyEscape _ _ h)
    any_goals exact hcons (leavesEnd_wordBoundEscape _ h)
    any_goals exact hperl h
    split at h
    · cases h
    · split at h
      · cases h
        exact hsame
      · cases h

/-- What is left behind a member of a class is an end of the text. -/
theorem leavesEnd_classMember (f : Flags) : LeavesEnd (classMember f) := by
  intro t a left h
  unfold classMember at h
  split at h
  · cases h
  · exact (leavesEnd_primitive f h).trans (List.suffix_cons _ _)
  · cases h
    exact List.suffix_cons _ _

/-- What is left behind a range is an end of the text. -/
theorem leavesEnd_rangeFrom (f : Flags) (first : Primitive) : LeavesEnd (rangeFrom f first) := by
  intro t a left h
  unfold rangeFrom at h
  split at h
  · rename_i rest
    dsimp only at h
    split at h
    · obtain ⟨set, -, h⟩ := bind_eq_ok h
      cases h
      exact List.suffix_refl _
    · obtain ⟨⟨last, left'⟩, hlast, h⟩ := bind_eq_ok h
      obtain ⟨low, -, h⟩ := bind_eq_ok h
      obtain ⟨high, -, h⟩ := bind_eq_ok h
      split at h
      · cases h
      · cases h
        exact ((leavesEnd_classMember f hlast).trans (skipBlanks_suffix _ rest)).trans
          (List.suffix_cons _ rest)
  · obtain ⟨set, -, h⟩ := bind_eq_ok h
    cases h
    exact List.suffix_refl _

/-- What is left behind an item of a class is an end of the text. -/
theorem leavesEnd_classItem (f : Flags) : LeavesEnd (classItem f) := by
  intro t a left h
  obtain ⟨⟨first, left'⟩, hfirst, h⟩ := bind_eq_ok h
  exact ((leavesEnd_rangeFrom f first h).trans (skipBlanks_suffix _ left')).trans
    (leavesEnd_classMember f hfirst)

/-- What is left behind the first items of a class is an end of the text. -/
theorem firstItems_suffix (v negated : Bool) (t : Text) : (firstItems v negated t).2 <:+ t := by
  unfold firstItems
  split
  · rename_i hcollect
    exact (skipBlanks_suffix v _).trans (suffix_of_cons_suffix (suffix_of_collect_eq hcollect))
  · rename_i hcollect
    exact suffix_of_collect_eq hcollect

/-- What is left behind the start of a class is an end of the text. -/
theorem openBracket_suffix (v : Bool) (t : Text) : (openBracket v t).2 <:+ t := by
  have hskip := skipBlanks_suffix v t
  unfold openBracket
  split
  · rename_i hsign
    rw [hsign] at hskip
    exact ((firstItems_suffix v true _).trans (skipBlanks_suffix v _)).trans
      (suffix_of_cons_suffix hskip)
  · exact (firstItems_suffix v false _).trans hskip

/-- What is left behind a named class is an end of the text. -/
theorem suffix_of_asciiClassFrom? {negated : Bool} {t left : Text} {found : Bool × CharSet}
    (h : asciiClassFrom? negated t = some (found, left)) : left <:+ t := by
  have hdrop := List.dropWhile_suffix (l := t) (· != ':')
  unfold asciiClassFrom? at h
  split at h
  · rename_i hcolon
    rw [hcolon] at hdrop
    obtain ⟨set, -, heq⟩ := Option.map_eq_some_iff.mp h
    cases heq
    exact suffix_of_cons_suffix (suffix_of_cons_suffix hdrop)
  · cases h

/-- What is left behind a named class is an end of the text. -/
theorem suffix_of_asciiClass? {t left : Text} {found : Bool × CharSet}
    (h : asciiClass? t = some (found, left)) : left <:+ t := by
  unfold asciiClass? at h
  split at h
  · exact (suffix_of_asciiClassFrom? h).trans
      ((List.suffix_cons _ _).trans (List.suffix_cons _ _))
  · exact (suffix_of_asciiClassFrom? h).trans (List.suffix_cons _ _)
  · cases h

/-- What is left behind a part of a class is an end of the text. -/
theorem leavesEnd_classPart (f : Flags) (outer : List Bracket) (b : Bracket) :
    LeavesEnd (classPart f outer b) := by
  intro t a left h
  unfold classPart at h
  split at h
  · cases h
  · rename_i rest
    split at h
    · rename_i hclass
      obtain ⟨set, -, h⟩ := bind_eq_ok h
      cases h
      exact (suffix_of_asciiClass? hclass).trans (List.suffix_cons _ rest)
    · cases h
      exact (openBracket_suffix _ rest).trans (List.suffix_cons _ rest)
  · rename_i rest
    obtain ⟨set, -, h⟩ := bind_eq_ok h
    dsimp only at h
    split at h
    · cases h
      exact List.suffix_cons _ _
    · cases h
      exact List.suffix_cons _ _
  any_goals
    cases h
    exact (List.suffix_cons _ _).trans (List.suffix_cons _ _)
  obtain ⟨⟨set, left'⟩, hitem, h⟩ := bind_eq_ok h
  cases h
  exact leavesEnd_classItem f hitem

/-- What is left behind a class is an end of the text. -/
theorem leavesEnd_classFrom (f : Flags) (fuel : Nat) (outer : List Bracket) (b : Bracket) :
    LeavesEnd (classFrom f fuel outer b) := by
  induction fuel generalizing outer b with
  | zero =>
    intro t a left h
    cases h
  | succ fuel ih =>
    intro t a left h
    obtain ⟨⟨step, left'⟩, hpart, h⟩ := bind_eq_ok h
    have hleft := (leavesEnd_classPart f outer b hpart).trans (skipBlanks_suffix f.verbose t)
    split at h
    · rename_i heq
      cases heq
      cases h
      exact hleft
    · rename_i heq
      cases heq
      exact (ih _ _ h).trans hleft

/-- What is left behind a bracketed class is an end of the text. -/
theorem leavesEnd_bracketedClass (f : Flags) : LeavesEnd (bracketedClass f) := by
  intro t a left h
  exact (leavesEnd_classFrom f _ _ _ h).trans (openBracket_suffix f.verbose t)

/-- What is left behind the name of a group is an end of the text. -/
theorem leavesEnd_groupName : LeavesEnd groupName := by
  intro t a left h
  have hdrop := List.dropWhile_suffix (l := t) (· != '>')
  unfold groupName at h
  split at h
  · rename_i hrest
    rw [hrest] at hdrop
    split at h
    · cases h
      exact suffix_of_cons_suffix hdrop
    · cases h
  · cases h

/-- What is left behind a list of flags is an end of the text. -/
theorem leavesEnd_flagList (f : Flags) : LeavesEnd (Token.flagList f) := by
  intro t a left h
  unfold Token.flagList at h
  dsimp only at h
  split at h
  · cases h
  · rename_i hrest
    have hleft := suffix_of_cons_suffix (hrest ▸ List.dropWhile_suffix _)
    split at h
    · cases h
    · split at h
      · cases h
        exact hleft
      · split at h
        · cases h
        · cases h
          exact hleft

/-- What is left behind the start of a group is an end of the text. -/
theorem leavesEnd_groupStart (f : Flags) : LeavesEnd (Token.groupStart f) := by
  intro t a left h
  have hskip := skipBlanks_suffix f.verbose t
  unfold Token.groupStart Token.groupHead at h
  split at h
  · cases h
  · cases h
  · cases h
  · cases h
  · rename_i hopen
    rw [hopen] at hskip
    obtain ⟨⟨name, left'⟩, hname, h⟩ := bind_eq_ok h
    cases h
    exact (leavesEnd_groupName hname).trans
      (suffix_of_cons_suffix (suffix_of_cons_suffix (suffix_of_cons_suffix hskip)))
  · rename_i hopen
    rw [hopen] at hskip
    obtain ⟨⟨name, left'⟩, hname, h⟩ := bind_eq_ok h
    cases h
    exact (leavesEnd_groupName hname).trans (suffix_of_cons_suffix (suffix_of_cons_suffix hskip))
  · rename_i hopen
    rw [hopen] at hskip
    exact (leavesEnd_flagList f h).trans (suffix_of_cons_suffix hskip)
  · cases h
    exact hskip

/-- What is left behind a decimal number is an end of the text. -/
theorem suffix_of_decimal {v : Bool} {t left : Text} {n : Option Nat}
    (h : decimal v t = (n, left)) : left <:+ t := by
  unfold decimal at h
  dsimp only at h
  cases h
  exact ((List.dropWhile_suffix _).trans (collectFrom_suffix _ _ _ _)).trans
    (List.dropWhile_suffix _)

/-- What is left behind the counts of a repetition is an end of the text. -/
theorem leavesEnd_counts (v : Bool) : LeavesEnd (counts v) := by
  intro t a left h
  have hleast : (decimal v (skipBlanks v t)).2 <:+ t :=
    (suffix_of_decimal rfl).trans (skipBlanks_suffix v t)
  unfold counts at h
  dsimp only at h
  split at h
  · cases h
  · split at h
    · rename_i hleft
      rw [hleft] at hleast
      cases h
      exact suffix_of_cons_suffix hleast
    · rename_i comma hleft
      rw [hleft] at hleast
      have hskip := (skipBlanks_suffix v comma).trans (suffix_of_cons_suffix hleast)
      split at h
      · rename_i hclose
        rw [hclose] at hskip
        cases h
        exact suffix_of_cons_suffix hskip
      · split at h
        · rename_i hmost
          cases h
          exact suffix_of_cons_suffix ((suffix_of_decimal hmost).trans hskip)
        · cases h
    · cases h

/-- What is left behind a sign of repetition is an end of the text. -/
theorem leavesEnd_sign (min : Nat) (max : Option Nat) : LeavesEnd (Token.sign min max) := by
  intro t a left h
  unfold Token.sign at h
  split at h
  · cases h
    exact List.suffix_cons _ _
  · cases h
    exact List.suffix_refl _

/-- What is left behind a repetition with counts is an end of the text. -/
theorem leavesEnd_counted (f : Flags) : LeavesEnd (Token.counted f) := by
  intro t a left h
  obtain ⟨⟨⟨min, max⟩, left'⟩, hcounts, h⟩ := bind_eq_ok h
  dsimp only at h
  split at h
  · cases h
  · exact ((leavesEnd_sign min max h).trans (skipBlanks_suffix _ left')).trans
      (leavesEnd_counts _ hcounts)

/-- What is left behind a token is an end of the text. -/
theorem leavesEnd_token (f : Flags) (c : Char) : LeavesEnd (Token.read f c) := by
  intro t a left h
  unfold Token.read at h
  split at h
  · exact leavesEnd_groupStart f h
  · cases h
    exact List.suffix_refl _
  · cases h
    exact List.suffix_refl _
  · obtain ⟨⟨nested, left'⟩, hclass, h⟩ := bind_eq_ok h
    cases h
    exact leavesEnd_bracketedClass f hclass
  · exact leavesEnd_sign _ _ h
  · exact leavesEnd_sign _ _ h
  · exact leavesEnd_sign _ _ h
  · exact leavesEnd_counted f h
  · obtain ⟨⟨p, left'⟩, hprim, h⟩ := bind_eq_ok h
    cases h
    exact leavesEnd_primitive f hprim
  · obtain ⟨set, -, h⟩ := bind_eq_ok h
    cases h
    exact List.suffix_refl _
  all_goals
    cases h
    exact List.suffix_refl _

/-- What is left behind a part of an expression is an end of the text. -/
theorem leavesEnd_readPart (r : Reading) (c : Char) : LeavesEnd (readPart r c) := by
  intro t a left h
  obtain ⟨token, htoken, -⟩ := readPart_eq_ok.mp h
  exact leavesEnd_token r.flags c htoken

namespace Reading

variable {r r' : Reading}

/-- Adding a piece keeps the names. -/
theorem names_of_add {e : Expr} {height : Nat} (h : r.add e height = .ok r') :
    r'.names = r.names := by
  unfold add at h
  split at h
  · cases h
  · cases h
    rfl

/-- Closing a group keeps the names. -/
theorem names_of_closeGroup (h : r.closeGroup = .ok r') : r'.names = r.names := by
  unfold closeGroup at h
  split at h
  · cases h
  · dsimp only at h
    have hnames := names_of_add h
    exact hnames

/-- Repeating the last piece keeps the names. -/
theorem names_of_repeatLast {min : Nat} {max : Option Nat} {greedy : Bool}
    (h : r.repeatLast min max greedy = .ok r') : r'.names = r.names := by
  unfold repeatLast at h
  split at h
  · cases h
  · split at h
    · cases h
    · dsimp only at h
      have hnames := names_of_add h
      exact hnames

/-- Opening a group adds a name at most. -/
theorem names_subset_openCapture {name : Option Text} (h : r.openCapture name = .ok r') :
    r.names ⊆ r'.names := by
  unfold openCapture at h
  dsimp only at h
  split at h
  · cases h
    exact List.Subset.refl _
  · split at h
    · cases h
    · cases h
      exact List.subset_cons_self _ _

/-- Adding what an escape sequence stands for keeps the names. -/
theorem names_of_addPrimitive {p : Primitive} (h : r.addPrimitive p = .ok r') :
    r'.names = r.names := by
  cases p with
  | char c isByte =>
    obtain ⟨c', -, h⟩ := bind_eq_ok h
    cases h
    rfl
  | set s =>
    cases h
    rfl
  | look l =>
    cases h
    rfl

/-- Adding a token loses no name. -/
theorem names_subset_take {token : Token} (h : r.take token = .ok r') : r.names ⊆ r'.names := by
  have hsame : r'.names = r.names → r.names ⊆ r'.names := fun heq => heq ▸ List.Subset.refl _
  cases token with
  | capture name => exact names_subset_openCapture h
  | flagged flags =>
    cases h
    exact List.Subset.refl _
  | switch flags =>
    cases h
    exact List.Subset.refl _
  | close => exact hsame (names_of_closeGroup h)
  | bar =>
    cases h
    exact List.Subset.refl _
  | bracketed nested => exact hsame (names_of_add h)
  | primitive p => exact hsame (names_of_addPrimitive h)
  | repetition min max greedy => exact hsame (names_of_repeatLast h)

end Reading

/-- Reading a part loses no name. -/
theorem names_subset_readPart {r r' : Reading} {c : Char} {t left : Text}
    (h : readPart r c t = .ok (r', left)) : r.names ⊆ r'.names := by
  obtain ⟨token, -, htake⟩ := readPart_eq_ok.mp h
  exact Reading.names_subset_take htake

/-- Reading to the end loses no name. -/
theorem names_subset_readParts {fuel : Nat} {r final : Reading} {t : Text}
    (h : readParts fuel r t = .ok final) : r.names ⊆ final.names := by
  induction fuel generalizing r t with
  | zero => cases h
  | succ fuel ih =>
    unfold readParts at h
    split at h
    · cases h
      exact List.Subset.refl _
    · obtain ⟨⟨r', left⟩, hpart, h⟩ := bind_eq_ok h
      exact List.Subset.trans (names_subset_readPart hpart) (ih h)

/-- An expression that can be read is read with fuel that goes by the length of its text. -/
theorem readParts_enough {fuel : Nat} {r final : Reading} {t : Text}
    (h : readParts fuel r t = .ok final) {n : Nat} (hn : t.length < n) :
    readParts n r t = .ok final := by
  induction fuel generalizing r t n with
  | zero => cases h
  | succ fuel ih =>
    obtain ⟨n, rfl⟩ := Nat.exists_eq_succ_of_ne_zero (Nat.ne_of_gt (Nat.zero_lt_of_lt hn))
    unfold readParts at h ⊢
    have hskip := (skipBlanks_suffix r.flags.verbose t).length_le
    split
    · rename_i hnil
      rw [hnil] at h
      exact h
    · rename_i c rest hcons
      rw [hcons] at h hskip
      obtain ⟨⟨r', left⟩, hpart, h⟩ := bind_eq_ok h
      rw [hpart]
      refine ih h ?_
      have hleft := (leavesEnd_readPart r c hpart).length_le
      rw [List.length_cons] at hskip
      omega

/-- An expression is read if its text can be read to the end with all groups closed and nothing of
it is too high. -/
theorem Reads.parse_eq {f : Flags} {t : Text} {final : Reading} (h : Reads (.start f) t final [])
    (houter : final.outer = []) (hheight : final.level.whole.2 ≤ nestingLimit) :
    parse f t = .ok ⟨final.level.whole.1, final.names.reverse⟩ := by
  obtain ⟨n, h⟩ := h
  have hend : readParts 1 final [] = .ok final := by
    unfold readParts
    cases final.flags.verbose <;> rfl
  have hread := readParts_enough ((h 1).trans hend) (Nat.lt_succ_self t.length)
  unfold parse
  rw [hread]
  dsimp only [bind, Except.bind]
  rw [houter]
  exact if_neg (Nat.not_lt.mpr hheight)

end PathRouting.Regex
