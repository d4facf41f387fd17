import PathRouting.Proofs.Regex.Renumbering
import PathRouting.Proofs.Regex.Token

/-!
# Reading an expression inside of another one

Inside of a group an expression is read as it is read by itself. Only the numbers of its groups are
higher, the groups around it stay open, and its names must not be taken yet. What it matches there
it matches by itself at the same place.
-/

namespace PathRouting.Regex

namespace Expr

/-- Raising numbers by nothing changes nothing. -/
@[simp] theorem shift_zero (e : Expr) : e.shift 0 = e := by
  induction e with
  | empty => rfl
  | set s => rfl
  | look l => rfl
  | seq a b iha ihb => rw [shift, iha, ihb]
  | alt a b iha ihb => rw [shift, iha, ihb]
  | loop min max greedy e ih => rw [shift, ih]
  | group index e ih => rw [shift, ih, Nat.add_zero]

end Expr

variable (k : Nat)

/-- A piece whose groups have higher numbers. -/
def Piece.shift (p : Piece) : Piece :=
  { p with expr := p.expr.shift k }

/-- A level whose groups have higher numbers. -/
def Level.shift (l : Level) : Level :=
  ⟨l.branches.map fun b => (b.1.shift k, b.2), l.pieces.map (Piece.shift k)⟩

/-- What is laid aside, with higher numbers of groups. -/
def Frame.shift (f : Frame) : Frame :=
  { f with level := f.level.shift k, index := f.index.map (· + k) }

/-- Named groups with higher numbers. -/
def shiftNames (names : List (Text × Nat)) : List (Text × Nat) :=
  names.map fun n => (n.1, n.2 + k)

/-- A state of reading an expression inside of the groups that are open in another state, of which
`k` groups have a number. -/
def Reading.inside (r : Reading) (k : Nat) (base : Reading) : Reading where
  flags := r.flags
  level := r.level.shift k
  outer := r.outer.map (Frame.shift k) ++ base.outer
  names := shiftNames k r.names ++ base.names
  nextIndex := r.nextIndex + k

/-- No name stands in both of two lists. -/
def NamesApart (names others : List (Text × Nat)) : Prop :=
  ∀ n ∈ names, ∀ m ∈ others, n.1 ≠ m.1

namespace Level

/-- The current branch with higher numbers. -/
@[simp] theorem branch_shift (l : Level) :
    (l.shift k).branch = (l.branch.1.shift k, l.branch.2) := by
  obtain ⟨branches, pieces⟩ := l
  match pieces with
  | [] => rfl
  | [p] => rfl
  | p :: q :: pieces =>
    unfold branch shift
    simp only [List.map_cons]
    rw [Expr.shift_concat]
    simp [Piece.shift, Function.comp_def]

/-- A level after a bar with higher numbers. -/
theorem nextBranch_shift (l : Level) : (l.shift k).nextBranch = l.nextBranch.shift k := by
  unfold nextBranch
  rw [branch_shift]
  rfl

/-- All of a level with higher numbers. -/
@[simp] theorem whole_shift (l : Level) :
    (l.shift k).whole = (l.whole.1.shift k, l.whole.2) := by
  have hbranch := branch_shift k l
  cases hbranches : l.branches with
  | nil =>
    have hnil : (l.shift k).branches = [] := by simp [shift, hbranches]
    unfold whole
    rw [hnil, hbranches]
    exact hbranch
  | cons b bs =>
    have hcons : (l.shift k).branches = (b.1.shift k, b.2) :: bs.map fun b => (b.1.shift k, b.2) := by
      simp [shift, hbranches]
    unfold whole
    rw [hcons, hbranches]
    dsimp only
    rw [hbranch, Expr.shift_oneOf]
    simp [Function.comp_def]

end Level

namespace Reading

variable {k} {r r' base : Reading}

/-- Reading a whole expression starts inside of the group that has been opened last. -/
theorem inside_start {f : Flags} (hflags : base.flags = f) (hlevel : base.level = .start)
    (hindex : base.nextIndex = k + 1) : (start f).inside k base = base := by
  obtain ⟨flags, level, outer, names, nextIndex⟩ := base
  subst hflags hlevel hindex
  simp [inside, start, Level.shift, Level.start, shiftNames, Nat.add_comm]

/-- Pieces are added inside of other groups too. -/
theorem add_inside (k : Nat) (base : Reading) {e : Expr} {height : Nat}
    (h : r.add e height = .ok r') :
    (r.inside k base).add (e.shift k) height = .ok (r'.inside k base) := by
  unfold add at h ⊢
  split at h
  · cases h
  · rename_i hheight
    cases h
    rw [if_neg hheight]
    rfl

/-- What an escape sequence stands for is added inside of other groups too. -/
theorem addPrimitive_inside {p : Primitive} (h : r.addPrimitive p = .ok r') :
    (r.inside k base).addPrimitive p = .ok (r'.inside k base) := by
  cases p with
  | char c isByte =>
    obtain ⟨c', hc, h⟩ := bind_eq_ok h
    cases h
    change ((r.flags.literal c isByte) >>= _) = _
    rw [hc]
    rfl
  | set s =>
    cases h
    rfl
  | look l =>
    cases h
    rfl

/-- A group is closed inside of other groups too. -/
theorem closeGroup_inside (h : r.closeGroup = .ok r') :
    (r.inside k base).closeGroup = .ok (r'.inside k base) := by
  unfold closeGroup at h ⊢
  split at h
  · cases h
  · rename_i frame outer houter
    have houter' : (r.inside k base).outer =
        frame.shift k :: (outer.map (Frame.shift k) ++ base.outer) := by
      unfold inside
      rw [houter]
      rfl
    have hwhole : (r.inside k base).level.whole = _ := r.level.whole_shift k
    rw [houter', hwhole]
    dsimp only at h ⊢
    have hadd := add_inside k base h
    cases hindex : frame.index with
    | none =>
      rw [hindex] at hadd
      simp only [Frame.shift, hindex, Option.map_none]
      exact hadd
    | some index =>
      rw [hindex] at hadd
      simp only [Frame.shift, hindex, Option.map_some]
      exact hadd

/-- The last piece is repeated inside of other groups too. -/
theorem repeatLast_inside {min : Nat} {max : Option Nat} {greedy : Bool}
    (h : r.repeatLast min max greedy = .ok r') :
    (r.inside k base).repeatLast min max greedy = .ok (r'.inside k base) := by
  unfold repeatLast at h ⊢
  split at h
  · cases h
  · rename_i p pieces hpieces
    have hpieces' : (r.inside k base).level.pieces = p.shift k :: pieces.map (Piece.shift k) := by
      unfold inside Level.shift
      rw [hpieces]
      rfl
    rw [hpieces']
    dsimp only
    split at h
    · cases h
    · rename_i hrep
      rw [if_neg (show ¬(!(p.shift k).repeatable) = true from hrep)]
      have hadd := add_inside k base h
      rw [Expr.shift_repeated] at hadd
      exact hadd

/-- A group that remembers is opened inside of other groups too, unless its name is taken. -/
theorem openCapture_inside (k : Nat) (base : Reading) {name : Option Text}
    (h : r.openCapture name = .ok r') :
    (r.inside k base).openCapture name = .ok (r'.inside k base) ∨
      ((r.inside k base).openCapture name = .error .groupNameRepeated ∧
        ¬NamesApart r'.names base.names) := by
  cases name with
  | none =>
    cases h
    left
    simp [openCapture, openGroup, inside, Level.shift, Level.start, Frame.shift,
      Nat.add_right_comm]
  | some name =>
    unfold openCapture at h
    dsimp only at h
    split at h
    · cases h
    · rename_i hnew
      cases h
      have hshift : (shiftNames k r.names).any (·.1 == name) = r.names.any (·.1 == name) := by
        unfold shiftNames
        rw [List.any_map]
        rfl
      have hany : (r.inside k base).names.any (·.1 == name) = base.names.any (·.1 == name) := by
        change (shiftNames k r.names ++ base.names).any _ = _
        rw [List.any_append, hshift, Bool.eq_false_iff.mpr hnew, Bool.false_or]
      unfold openCapture
      dsimp only
      rw [hany]
      cases hbase : base.names.any (·.1 == name) with
      | true =>
        right
        refine ⟨rfl, fun hapart => ?_⟩
        obtain ⟨m, hm, heq⟩ := List.any_eq_true.mp hbase
        exact hapart (name, r.nextIndex) List.mem_cons_self m hm (beq_iff_eq.mp heq).symm
      | false =>
        left
        simp [openGroup, inside, Level.shift, Level.start, Frame.shift, shiftNames,
          Nat.add_right_comm]

/-- Each token is added inside of other groups too, unless its name is taken. -/
theorem take_inside (k : Nat) (base : Reading) {token : Token} (h : r.take token = .ok r') :
    (r.inside k base).take token = .ok (r'.inside k base) ∨
      ((r.inside k base).take token = .error .groupNameRepeated ∧
        ¬NamesApart r'.names base.names) := by
  cases token with
  | capture name => exact openCapture_inside k base h
  | flagged flags =>
    cases h
    exact .inl rfl
  | switch flags =>
    cases h
    exact .inl rfl
  | close => exact .inl (closeGroup_inside h)
  | bar =>
    cases h
    left
    simp only [take, inside, Level.nextBranch_shift]
  | bracketed nested => exact .inl (add_inside k base h)
  | primitive p => exact .inl (addPrimitive_inside h)
  | repetition min max greedy => exact .inl (repeatLast_inside h)

end Reading

/-- Each part of an expression is read inside of other groups too, unless a name is taken. -/
theorem readPart_inside (k : Nat) (base : Reading) {r r' : Reading} {c : Char} {t left : Text}
    (h : readPart r c t = .ok (r', left)) :
    readPart (r.inside k base) c t = .ok (r'.inside k base, left) ∨
      (readPart (r.inside k base) c t = .error .groupNameRepeated ∧
        ¬NamesApart r'.names base.names) := by
  obtain ⟨token, htoken, htake⟩ := readPart_eq_ok.mp h
  have hinside : Token.read (r.inside k base).flags c t = .ok (token, left) := htoken
  rcases Reading.take_inside k base htake with hok | ⟨herror, hapart⟩
  · exact .inl (readPart_eq_ok.mpr ⟨token, hinside, hok⟩)
  · exact .inr ⟨readPart_eq_error hinside herror, hapart⟩

/-- An expression by itself matches what stands between two places of a text. -/
def MatchesAt (f : Flags) (expression t : Text) (start stop : Nat) : Prop :=
  ∃ parsed, parse f expression = .ok parsed ∧
    ∃ saved, parsed.expr.Run t.toArray ⟨start, []⟩ ⟨stop, saved⟩

/-- An expression by itself matches a whole text. -/
def MatchesWhole (f : Flags) (expression t : Text) : Prop :=
  MatchesAt f expression t 0 t.length

/-- An expression has no conditions on places. -/
def LookFree (f : Flags) (expression : Text) : Prop :=
  ∃ parsed, parse f expression = .ok parsed ∧ parsed.expr.lookFree = true

instance (f : Flags) (expression : Text) : Decidable (LookFree f expression) :=
  decidable_of_iff ((parse f expression).toOption.any (·.expr.lookFree) = true) <| by
    unfold LookFree
    cases parse f expression <;> simp [Except.toOption]

/-- What an expression matches with higher numbers of groups it matches by itself. -/
theorem MatchesAt.of_shift {f : Flags} {expression : Text} {parsed : Parsed}
    (hparse : parse f expression = .ok parsed) {k : Nat} {t : Text} {x y : Spot}
    (h : (parsed.expr.shift k).Run t.toArray x y) : MatchesAt f expression t x.place y.place := by
  have hinput : ∀ i, 0 ≤ i → i < y.place → t.toArray[i]? = t.toArray[i - 0]? := fun _ _ _ => rfl
  obtain ⟨saved, hrun⟩ := h.transfer hinput (.inr fun _ _ hl => hl) (Nat.zero_le _) le_rfl []
  exact ⟨parsed, hparse, saved, hrun⟩

/-- An expression without conditions on places matches a part of a text as a text of its own. -/
theorem MatchesAt.whole {f : Flags} {expression before value after : Text}
    (hlook : LookFree f expression)
    (h : MatchesAt f expression (before ++ value ++ after) before.length
      (before.length + value.length)) : MatchesWhole f expression value := by
  obtain ⟨parsed, hparse, hfree⟩ := hlook
  obtain ⟨parsed', hparse', saved, hrun⟩ := h
  rw [hparse, Except.ok.injEq] at hparse'
  subst hparse'
  have hinput : ∀ i, before.length ≤ i → i < before.length + value.length →
      (before ++ value ++ after).toArray[i]? = value.toArray[i - before.length]? := by
    intro i hi hlt
    rw [List.getElem?_toArray, List.getElem?_toArray, List.append_assoc,
      List.getElem?_append_right hi, List.getElem?_append_left (by omega)]
  rw [← Expr.shift_zero parsed.expr] at hrun
  obtain ⟨saved', hown⟩ := hrun.transfer hinput (.inl hfree) le_rfl le_rfl []
  refine ⟨parsed, hparse, saved', ?_⟩
  simpa using hown

end PathRouting.Regex
