import PathRouting.Proofs.Regex.Inside
import PathRouting.Proofs.Regex.LocalParts
import PathRouting.Proofs.Regex.Numbering
import PathRouting.Proofs.Regex.Progress

/-!
# Expressions in parentheses

An expression that is put in parentheses is read as it is read by itself. The one thing that stands
against it is a comment at its end, which swallows the closing parenthesis. There are no comments
in an expression that never turns the verbose mode on.
-/

namespace PathRouting.Regex

/-- An expression can be put in parentheses: it does not end in a comment. -/
def Enclosable (f : Flags) (t : Text) : Prop :=
  ∃ parsed, parse f ("(?:".toList ++ t ++ [')']) = .ok parsed

instance (f : Flags) (t : Text) : Decidable (Enclosable f t) :=
  decidable_of_iff ((parse f ("(?:".toList ++ t ++ [')'])).toOption.isSome = true) <| by
    unfold Enclosable
    cases parse f ("(?:".toList ++ t ++ [')']) <;> simp [Except.toOption]

/-- Whether the verbose mode is off in the states that reading a text goes through. -/
def staysPlain : Nat → Reading → Text → Bool
  | 0, _, _ => true
  | fuel + 1, r, t =>
    !r.flags.verbose && match skipBlanks r.flags.verbose t with
      | [] => true
      | c :: rest =>
        match readPart r c rest with
        | .ok (r', left) => staysPlain fuel r' left
        | .error _ => true

/-- An expression never turns the verbose mode on. -/
def VerboseFree (f : Flags) (t : Text) : Prop :=
  staysPlain (t.length + 1) (.start f) t = true

instance (f : Flags) (t : Text) : Decidable (VerboseFree f t) :=
  inferInstanceAs (Decidable (_ = _))

section

variable {r r' : Reading} {t t' rest : Text}

/-- Where the verbose mode stays off, it is off. -/
theorem verbose_of_staysPlain {fuel : Nat} (h : staysPlain (fuel + 1) r t = true) :
    r.flags.verbose = false := by
  rw [staysPlain, Bool.and_eq_true, Bool.not_eq_true'] at h
  exact h.1

/-- Where the verbose mode stays off, it stays off behind the next part. -/
theorem staysPlain_readPart {fuel : Nat} (h : staysPlain (fuel + 1) r t = true) {c : Char}
    (hskip : skipBlanks r.flags.verbose t = c :: rest) {left : Text}
    (hpart : readPart r c rest = .ok (r', left)) : staysPlain fuel r' left = true := by
  rw [staysPlain, Bool.and_eq_true, hskip] at h
  dsimp only at h
  rw [hpart] at h
  exact h.2

/-- Blanks make no difference to what is read. -/
theorem Reads.of_skipBlanks_eq
    (h : skipBlanks r.flags.verbose t = skipBlanks r.flags.verbose t') : Reads r t r t' := by
  refine ⟨0, fun fuel => ?_⟩
  cases fuel with
  | zero => rfl
  | succ fuel =>
    unfold readParts
    rw [h]

/-- A parenthesis is no blank. -/
theorem skipBlanks_close_cons (v : Bool) (rest : Text) :
    skipBlanks v (')' :: rest) = ')' :: rest := by
  cases v with
  | false => rfl
  | true =>
    unfold skipBlanks
    rw [if_pos rfl, skipBlanksFrom_close_cons]

/-- A group without a number is opened. -/
theorem reads_openPlain (hv : r.flags.verbose = false) (rest : Text) :
    Reads r ("(?:".toList ++ rest) (r.openGroup r.flags none) rest := by
  refine .char hv ?_
  change groupStart r ('?' :: ':' :: rest) = _
  unfold groupStart
  rw [hv]
  rfl

/-- Where reading goes on, a group that ends is not too high. -/
theorem Accepts.height_lt {frame : Frame} {outer : List Frame} (houter : r.outer = frame :: outer)
    (hacc : Accepts r (')' :: rest)) : r.level.whole.2 < nestingLimit := by
  obtain ⟨r', left, hpart⟩ := hacc.readPart_ok (skipBlanks_close_cons _ rest)
  obtain ⟨r'', hclose, -⟩ := bind_eq_ok (show (do return (← r.closeGroup, rest)) = _ from hpart)
  unfold Reading.closeGroup at hclose
  rw [houter] at hclose
  unfold Reading.add at hclose
  dsimp only at hclose
  split at hclose
  · cases hclose
  · omega

/-- The innermost group is closed, whatever the flags inside of it are. -/
theorem reads_closeAny {frame : Frame} {outer : List Frame} (houter : r.outer = frame :: outer)
    (hheight : r.level.whole.2 < nestingLimit) (rest : Text) :
    Reads r (')' :: rest)
      ({ r with flags := frame.flags, level := frame.level, outer := outer }.push
        [.of (match frame.index with
          | some index => .group index r.level.whole.1
          | none => r.level.whole.1) (r.level.whole.2 + 1)]) rest := by
  refine .part (skipBlanks_close_cons _ rest) ?_
  change (do return (← r.closeGroup, rest)) = _
  unfold Reading.closeGroup
  rw [houter]
  dsimp only
  rw [Reading.add_eq hheight]
  rfl

end

/-- An expression that is read to its end by itself is read so before the parenthesis that closes
the group around it, if this is so where nothing else stands around or the verbose mode stays off,
and if its names are new or reading is known to meet no error. -/
theorem reads_inside {fuel : Nat} {r final : Reading} {t : Text} (k : Nat)
    (base₀ base : Reading) (tail : Text) (h : readParts fuel r t = .ok final)
    (hopen : base₀.outer ≠ []) (hnames : base₀.names = [])
    (halone : (∃ fuel' closed, readParts fuel' (r.inside 0 base₀) (t ++ [')']) = .ok closed ∧
      closed.outer = []) ∨ staysPlain fuel r t = true)
    (hsafe : Accepts (r.inside k base) (t ++ ')' :: tail) ∨ NamesApart final.names base.names) :
    Reads (r.inside k base) (t ++ ')' :: tail) (final.inside k base) (')' :: tail) := by
  -- Once the parenthesis is swallowed, the group around it is never closed.
  have hswallowed : ∀ (r' : Reading) (fuel' : Nat) (closed : Reading),
      readParts fuel' (r'.inside 0 base₀) [] = .ok closed → closed.outer ≠ [] := by
    intro r' fuel' closed hclosed
    rw [eq_of_readParts_nil hclosed]
    exact List.append_ne_nil_of_right_ne_nil _ hopen
  induction fuel generalizing r t with
  | zero => cases h
  | succ fuel ih =>
    rw [readParts] at h
    have hflags : ∀ j b, (r.inside j b).flags = r.flags := fun _ _ => rfl
    cases hskip : skipBlanks r.flags.verbose t with
    | nil =>
      rw [hskip] at h
      cases h
      rcases skipBlanks_close hskip with hall | ⟨hverbose, hcomment⟩
      · refine .of_skipBlanks_eq ?_
        rw [hflags, hall, skipBlanks_close_cons]
      · obtain ⟨fuel', closed, hclosed, hend⟩ | hplain := halone
        · have hreads : Reads (final.inside 0 base₀) (t ++ [')']) (final.inside 0 base₀) [] := by
            refine .of_skipBlanks_eq ?_
            rw [hflags, hcomment]
            cases final.flags.verbose <;> rfl
          exact absurd hend (hswallowed final fuel' closed (hreads.readParts_eq hclosed))
        · rw [verbose_of_staysPlain hplain] at hverbose
          cases hverbose
    | cons c rest =>
      rw [hskip] at h
      obtain ⟨⟨r', left⟩, hpart, h⟩ := bind_eq_ok h
      dsimp only at h
      have hskip' : ∀ j b u, skipBlanks (r.inside j b).flags.verbose (t ++ u) = c :: (rest ++ u) := by
        intro j b u
        have hne : skipBlanks r.flags.verbose t ≠ [] := by
          rw [hskip]
          exact List.cons_ne_nil c rest
        rw [hflags, skipBlanks_append hne, hskip, List.cons_append]
      have hstep : ∀ {u left' : Text}, readPart r c (rest ++ u) = .ok (r', left') →
          Reads (r.inside 0 base₀) (t ++ u) (r'.inside 0 base₀) left' := by
        intro u left' hu
        rcases readPart_inside 0 base₀ hu with hok | ⟨-, hapart⟩
        · exact .part (hskip' 0 base₀ u) hok
        · refine absurd (fun n _ m hm => ?_) hapart
          rw [hnames] at hm
          exact absurd hm List.not_mem_nil
      rcases local_readPart r c rest r' left hpart with hall | ⟨hverbose, -, hcomment⟩
      · have hfirst : Reads (r.inside k base) (t ++ ')' :: tail) (r'.inside k base)
            (left ++ ')' :: tail) := by
          rcases readPart_inside k base (hall tail) with hok | ⟨herror, hapart⟩
          · exact .part (hskip' k base _) hok
          · rcases hsafe with hacc | hnew
            · obtain ⟨_, _, hok⟩ := hacc.readPart_ok (hskip' k base _)
              rw [herror] at hok
              cases hok
            · exact absurd (fun n hn => hnew n (names_subset_readParts h hn)) hapart
        refine hfirst.trans (ih h (halone.imp ?_ ?_) (hsafe.imp_left hfirst.accepts))
        · rintro ⟨fuel', closed, hclosed, hend⟩
          exact ⟨fuel', closed, (hstep (hall [])).readParts_eq hclosed, hend⟩
        · exact fun hplain => staysPlain_readPart hplain hskip hpart
      · obtain ⟨fuel', closed, hclosed, hend⟩ | hplain := halone
        · exact absurd hend (hswallowed r' fuel' closed ((hstep hcomment).readParts_eq hclosed))
        · rw [verbose_of_staysPlain hplain] at hverbose
          cases hverbose

/-- The height of the text of an expression. -/
def textHeight (f : Flags) (t : Text) : Nat :=
  match readParts (t.length + 1) (.start f) t with
  | .ok final => final.level.whole.2
  | .error _ => 0

/-- The height of a text is that of what is read of it. -/
theorem textHeight_eq {f : Flags} {t : Text} {fuel : Nat} {final : Reading}
    (h : readParts fuel (.start f) t = .ok final) : textHeight f t = final.level.whole.2 := by
  unfold textHeight
  rw [readParts_enough h (Nat.lt_succ_self t.length)]

/-- An expression that can be put in parentheses, or that never turns the verbose mode on, is read
there as it is read by itself, if its names are new and there is room for its height, or if reading
is known to meet no error. -/
theorem reads_enclosed {f : Flags} (hv : f.verbose = false) {t : Text} {parsed : Parsed}
    (hparse : parse f t = .ok parsed) (henc : Enclosable f t ∨ VerboseFree f t) {r : Reading}
    (hf : r.flags = f) {k : Nat} (hindex : r.nextIndex = k + 1) {tail : Text}
    (hsafe : Accepts r ("(?:".toList ++ (t ++ ')' :: tail)) ∨
      (NamesApart parsed.names r.names ∧ textHeight f t < nestingLimit)) :
    textHeight f t < nestingLimit ∧ ∃ next,
      Reads r ("(?:".toList ++ (t ++ ')' :: tail))
        { r.push [.of (parsed.expr.shift k) (textHeight f t + 1)] with
          names := (shiftNames k parsed.names).reverse ++ r.names, nextIndex := next + k } tail ∧
      0 < next ∧ ∀ g ∈ parsed.expr.groups, 0 < g ∧ g < next := by
  obtain ⟨fuel, final, hfinal, houter, -, rfl⟩ := parse_eq_ok hparse
  have hread := readParts_enough hfinal (Nat.lt_succ_self t.length)
  have hopen : Reads r ("(?:".toList ++ (t ++ ')' :: tail)) (r.openGroup r.flags none)
      (t ++ ')' :: tail) := reads_openPlain (by rw [hf]; exact hv) _
  have hopen₀ : Reads (.start f) ("(?:".toList ++ (t ++ [')']))
      ((Reading.start f).openGroup f none) (t ++ [')']) := reads_openPlain hv _
  have hbase : (Reading.start f).inside k (r.openGroup r.flags none) = r.openGroup r.flags none :=
    Reading.inside_start hf rfl hindex
  have hbase₀ : (Reading.start f).inside 0 ((Reading.start f).openGroup f none) =
      (Reading.start f).openGroup f none := Reading.inside_start rfl rfl rfl
  have halone : Enclosable f t → ∃ fuel' closed, readParts fuel' ((Reading.start f).inside 0
      ((Reading.start f).openGroup f none)) (t ++ [')']) = .ok closed ∧ closed.outer = [] := by
    rintro ⟨alone, halone⟩
    obtain ⟨fuel', closed, hclosed, hend, -⟩ := parse_eq_ok halone
    rw [List.append_assoc] at hclosed
    exact ⟨fuel', closed, by rw [hbase₀]; exact hopen₀.readParts_eq hclosed, hend⟩
  have hinside := reads_inside k ((Reading.start f).openGroup f none) (r.openGroup r.flags none) tail
    hread (List.cons_ne_nil _ _) rfl (henc.imp_left halone)
    (by
      rw [hbase]
      exact hsafe.imp hopen.accepts fun hroom n hn => hroom.1 n (List.mem_reverse.mpr hn))
  rw [hbase] at hinside
  have hframe : (final.inside k (r.openGroup r.flags none)).outer =
      ⟨r.level, r.flags, none⟩ :: r.outer := by
    unfold Reading.inside
    rw [houter]
    rfl
  have htext := textHeight_eq hfinal
  have hwhole : (final.inside k (r.openGroup r.flags none)).level.whole =
      (final.level.whole.1.shift k, final.level.whole.2) := Level.whole_shift k final.level
  have hheight : (final.inside k (r.openGroup r.flags none)).level.whole.2 < nestingLimit := by
    rcases hsafe with hacc | ⟨-, hroom⟩
    · exact ((hopen.trans hinside).accepts hacc).height_lt hframe
    · rw [hwhole]
      rwa [htext] at hroom
  have hclose := reads_closeAny hframe hheight tail
  have hnumbered := (Reading.Numbered.start f).readParts hfinal
  refine ⟨by rwa [hwhole, ← htext] at hheight, final.nextIndex, ?_, hnumbered.pos,
    fun g hg => hnumbered.level g (Level.mem_groups_of_mem_whole hg)⟩
  have hnames : (shiftNames k final.names.reverse).reverse = shiftNames k final.names := by
    unfold shiftNames
    rw [List.map_reverse, List.reverse_reverse]
  have hstate := (hopen.trans hinside).trans hclose
  rw [hwhole] at hstate
  dsimp only at hstate ⊢
  rw [hnames, htext]
  exact hstate

/-- An expression that never turns the verbose mode on can be put in parentheses if there is room
for its height. -/
theorem enclosable_of_verboseFree {f : Flags} (hv : f.verbose = false) {t : Text} {parsed : Parsed}
    (hparse : parse f t = .ok parsed) (hfree : VerboseFree f t)
    (hheight : textHeight f t < nestingLimit) : Enclosable f t := by
  have hsafe : Accepts (.start f) ("(?:".toList ++ (t ++ [')'])) ∨
      (NamesApart parsed.names (Reading.start f).names ∧ textHeight f t < nestingLimit) :=
    .inr ⟨fun _ _ m hm => absurd hm List.not_mem_nil, hheight⟩
  obtain ⟨-, next, hreads, -⟩ :=
    reads_enclosed hv hparse (.inr hfree) (r := .start f) rfl (k := 0) rfl hsafe
  unfold Enclosable
  rw [List.append_assoc]
  exact ⟨_, hreads.parse_eq rfl hheight⟩

/-- An expression that never turns the verbose mode on can be put in parentheses if reading goes on
with it in parentheses. -/
theorem Accepts.enclosable {f : Flags} (hv : f.verbose = false) {t : Text} {parsed : Parsed}
    (hparse : parse f t = .ok parsed) (hfree : VerboseFree f t) {r : Reading} (hf : r.flags = f)
    {k : Nat} (hindex : r.nextIndex = k + 1) {tail : Text}
    (hacc : Accepts r ("(?:".toList ++ (t ++ ')' :: tail))) : Enclosable f t :=
  enclosable_of_verboseFree hv hparse hfree
    (reads_enclosed hv hparse (.inr hfree) hf hindex (.inl hacc)).1

end PathRouting.Regex
