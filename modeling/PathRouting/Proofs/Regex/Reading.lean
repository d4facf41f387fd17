import Mathlib.Data.List.Basic
import Mathlib.Tactic.Common
import PathRouting.Regex.Parser

/-!
# Reading an expression part by part

Reading goes from one state and text to another. This module says what reading makes of the parts
that are built from fixed text: escaped literals, named groups, classes and signs of repetition.
-/

namespace PathRouting.Regex

/-- Two steps succeed only if the first one does and the second one goes on from its result. -/
theorem bind_eq_ok {ε α β : Type} {x : Except ε α} {f : α → Except ε β} {b : β}
    (h : (x >>= f) = .ok b) : ∃ a, x = .ok a ∧ f a = .ok b := by
  cases x with
  | error e => cases h
  | ok a => exact ⟨a, rfl, h⟩

/-- Reading goes on from one state and text to another. -/
def Reads (r : Reading) (t : Text) (r' : Reading) (left : Text) : Prop :=
  ∃ n, ∀ fuel, readParts (fuel + n) r t = readParts fuel r' left

/-- Reading a text from a state meets no error. -/
def Accepts (r : Reading) (t : Text) : Prop :=
  ∃ fuel final, readParts fuel r t = .ok final

/-- Adds pieces to the innermost open group, the first one first. -/
def Reading.push (r : Reading) (pieces : List Piece) : Reading :=
  { r with level := { r.level with pieces := pieces.reverse ++ r.level.pieces } }

/-- The expressions that match a text up to case. -/
def literalExprs (t : Text) : List Expr :=
  t.map fun c => .set (.ignoreCase (.single c))

/-- A piece of an expression that may be repeated. -/
def Piece.of (e : Expr) (height : Nat) : Piece :=
  ⟨e, height, true⟩

namespace Reading

/-- Adding no pieces changes nothing. -/
@[simp] theorem push_nil (r : Reading) : r.push [] = r :=
  rfl

/-- Pieces may be added in two goes. -/
@[simp] theorem push_append (r : Reading) (ps qs : List Piece) :
    r.push (ps ++ qs) = (r.push ps).push qs := by
  simp [push]

/-- Adding pieces keeps the flags. -/
@[simp] theorem push_flags (r : Reading) (ps : List Piece) : (r.push ps).flags = r.flags :=
  rfl

/-- Adding pieces keeps the names. -/
@[simp] theorem push_names (r : Reading) (ps : List Piece) : (r.push ps).names = r.names :=
  rfl

/-- Adding pieces keeps the number of the next group. -/
@[simp] theorem push_nextIndex (r : Reading) (ps : List Piece) :
    (r.push ps).nextIndex = r.nextIndex :=
  rfl

/-- Adding pieces keeps the groups around. -/
@[simp] theorem push_outer (r : Reading) (ps : List Piece) : (r.push ps).outer = r.outer :=
  rfl

/-- A piece that is not too high is added. -/
theorem add_eq {r : Reading} {e : Expr} {height : Nat} (h : height ≤ nestingLimit) :
    r.add e height = .ok (r.push [.of e height]) := by
  unfold add
  rw [if_neg (by omega)]
  rfl

end Reading

section

variable {r r' r'' : Reading} {t t' t'' rest left : Text}

/-- Reading need not go on. -/
theorem Reads.refl (r : Reading) (t : Text) : Reads r t r t :=
  ⟨0, fun _ => rfl⟩

/-- Reading goes on. -/
theorem Reads.trans (h : Reads r t r' t') (h' : Reads r' t' r'' t'') : Reads r t r'' t'' := by
  obtain ⟨n, h⟩ := h
  obtain ⟨m, h'⟩ := h'
  refine ⟨m + n, fun fuel => ?_⟩
  rw [← Nat.add_assoc, h, h']

/-- Reading reads a part. -/
theorem Reads.part {c : Char} (hskip : skipBlanks r.flags.verbose t = c :: rest)
    (h : readPart r c rest = .ok (r', left)) : Reads r t r' left := by
  refine ⟨1, fun fuel => ?_⟩
  rw [readParts, hskip]
  dsimp only
  rw [h]
  rfl

/-- Without the verbose flag reading reads the part that starts with the next character. -/
theorem Reads.char {c : Char} (hv : r.flags.verbose = false)
    (h : readPart r c rest = .ok (r', left)) : Reads r (c :: rest) r' left := by
  refine .part ?_ h
  rw [hv]
  rfl

/-- Reading that has come to an end comes to the same end with more fuel. -/
theorem readParts_mono {fuel : Nat} {final : Reading} (h : readParts fuel r t = .ok final)
    (more : Nat) : readParts (fuel + more) r t = .ok final := by
  induction fuel generalizing r t with
  | zero => cases h
  | succ fuel ih =>
    rw [Nat.add_right_comm]
    unfold readParts at h ⊢
    split
    · rename_i hskip
      rw [hskip] at h
      exact h
    · rename_i c rest hskip
      rw [hskip] at h
      obtain ⟨⟨r', left⟩, hpart, h⟩ := bind_eq_ok h
      rw [hpart]
      exact ih h

/-- Reading comes to the same end from any state and text that it goes through. -/
theorem Reads.readParts_eq (h : Reads r t r' t') {fuel : Nat} {final : Reading}
    (hfinal : readParts fuel r t = .ok final) : readParts fuel r' t' = .ok final := by
  obtain ⟨n, h⟩ := h
  rw [← h]
  exact readParts_mono hfinal n

/-- At the end of the text reading is at its end. -/
theorem eq_of_readParts_nil {fuel : Nat} {final : Reading} (h : readParts fuel r [] = .ok final) :
    final = r := by
  cases fuel with
  | zero => cases h
  | succ fuel =>
    have hskip : skipBlanks r.flags.verbose [] = [] := by cases r.flags.verbose <;> rfl
    rw [readParts, hskip] at h
    cases h
    rfl

/-- A text that is read as an expression is read to its end, and all of its groups are closed. -/
theorem parse_eq_ok {f : Flags} {parsed : Parsed} (h : parse f t = .ok parsed) :
    ∃ fuel final, readParts fuel (.start f) t = .ok final ∧ final.outer = [] ∧
      final.level.whole.2 ≤ nestingLimit ∧
        parsed = ⟨final.level.whole.1, final.names.reverse⟩ := by
  obtain ⟨final, hfinal, h⟩ := bind_eq_ok h
  split at h
  · cases h
  · rename_i houter
    dsimp only at h
    split at h
    · cases h
    · rename_i hheight
      cases h
      exact ⟨_, final, hfinal, houter, Nat.le_of_not_lt hheight, rfl⟩

/-- If reading meets no error, it meets none later on. -/
theorem Reads.accepts (h : Reads r t r' t') (hacc : Accepts r t) : Accepts r' t' := by
  obtain ⟨fuel, final, hfinal⟩ := hacc
  exact ⟨fuel, final, h.readParts_eq hfinal⟩

/-- If reading meets no error, the next part is read without one. -/
theorem Accepts.readPart_ok {c : Char} (hacc : Accepts r t)
    (hskip : skipBlanks r.flags.verbose t = c :: rest) :
    ∃ r' left, readPart r c rest = .ok (r', left) := by
  obtain ⟨fuel, final, hfinal⟩ := hacc
  cases fuel with
  | zero => cases hfinal
  | succ fuel =>
    rw [readParts, hskip] at hfinal
    obtain ⟨part, hpart, -⟩ := bind_eq_ok hfinal
    exact ⟨part.1, part.2, hpart⟩

/-- A character without a meaning of its own stands for itself. -/
theorem readPart_literal {c : Char} (hc : isMeta c = false) (r : Reading) (rest : Text) :
    readPart r c rest = .ok (r.push [.of (.set (r.flags.close (.single c))) 0], rest) := by
  unfold readPart
  split
  all_goals first
    | rfl
    | exact absurd hc (by decide)

/-- A backslash before a character with a meaning takes the meaning away. -/
theorem readPart_escaped {c : Char} (hc : isMeta c = true) (r : Reading) (rest : Text) :
    readPart r '\\' (c :: rest) =
      .ok (r.push [.of (.set (r.flags.close (.single c))) 0], rest) := by
  have hprim : primitive r.flags (c :: rest) = .ok (.char c false, rest) := by
    simp only [isMeta, List.mem_cons, List.not_mem_nil, or_false, decide_eq_true_eq] at hc
    rcases hc with rfl | rfl | rfl | rfl | rfl | rfl | rfl | rfl | rfl | rfl | rfl | rfl | rfl |
      rfl | rfl | rfl | rfl | rfl <;> rfl
  change (primitive r.flags (c :: rest) >>= _) = _
  rw [hprim]
  rfl

/-- The pieces that a literal text is read as. -/
def literalPieces (f : Flags) (t : Text) : List Piece :=
  t.map fun c => .of (.set (f.close (.single c))) 0

/-- An escaped text is read character by character. -/
theorem reads_escape (hv : r.flags.verbose = false) (t rest : Text) :
    Reads r (escape t ++ rest) (r.push (literalPieces r.flags t)) rest := by
  induction t generalizing r with
  | nil => exact .refl r rest
  | cons c t ih =>
    have hrest := ih (r := r.push [.of (.set (r.flags.close (.single c))) 0]) hv
    have hpush : r.push (literalPieces r.flags (c :: t)) =
        (r.push [.of (.set (r.flags.close (.single c))) 0]).push (literalPieces r.flags t) := by
      rw [← Reading.push_append]
      rfl
    rw [hpush]
    unfold escape
    cases hc : isMeta c with
    | true =>
      exact .trans (.char hv (readPart_escaped hc r _)) hrest
    | false =>
      exact .trans (.char hv (readPart_literal hc r _)) hrest

/-- The name of a group may hold letters, digits and underscores, and starts with no digit. -/
def IsGroupName (name : Text) : Prop :=
  (∀ c ∈ name, Text.isLetter c = true ∨ Text.isDigit c = true ∨ c = '_') ∧
    ∃ c rest, name = c :: rest ∧ Text.isDigit c = false

/-- The name of a group is read up to its angle bracket. -/
theorem groupName_eq {name : Text} (h : IsGroupName name) (rest : Text) :
    groupName (name ++ '>' :: rest) = .ok (name, rest) := by
  obtain ⟨hall, c, name, rfl, hfirst⟩ := h
  have hne : ∀ d ∈ c :: name, (d != '>') = true := by
    intro d hd
    rw [bne_iff_ne]
    rintro rfl
    have := hall _ hd
    revert this
    decide
  unfold groupName
  rw [List.takeWhile_append_of_pos hne, List.dropWhile_append_of_pos hne]
  have hgood : (isNameChar true c && name.all (isNameChar false)) = true := by
    rw [Bool.and_eq_true, List.all_eq_true]
    constructor
    · rcases hall c List.mem_cons_self with hc | hc | rfl
      · simp [isNameChar, isAlphabetic, hc]
      · rw [hfirst] at hc
        cases hc
      · rfl
    · intro d hd
      rcases hall d (List.mem_cons_of_mem c hd) with hd | hd | rfl
      · simp [isNameChar, isAlphanumeric, isAlphabetic, hd]
      · simp [isNameChar, isAlphanumeric, hd]
      · rfl
  simp [hgood]

/-- The state in which the inside of a named group is read. -/
def Reading.opened (r : Reading) (name : Text) : Reading :=
  { r.openGroup r.flags (some r.nextIndex) with
    nextIndex := r.nextIndex + 1, names := (name, r.nextIndex) :: r.names }

/-- The name of a group is read, and then the group is opened. -/
theorem readPart_open {name : Text} (hv : r.flags.verbose = false) (hname : IsGroupName name)
    (rest : Text) : readPart r '(' ('?' :: 'P' :: '<' :: (name ++ '>' :: rest)) =
      (do return (← r.openCapture (some name), rest)) := by
  change groupStart r _ = _
  unfold groupStart
  rw [hv]
  change (groupName (name ++ '>' :: rest) >>= _) = _
  rw [groupName_eq hname]
  rfl

/-- A group with a new name is opened. -/
theorem reads_open {name : Text} (hv : r.flags.verbose = false) (hname : IsGroupName name)
    (hfresh : name ∉ r.names.map Prod.fst) (rest : Text) :
    Reads r ("(?P<".toList ++ name ++ '>' :: rest) (r.opened name) rest := by
  have hopen : r.openCapture (some name) = .ok (r.opened name) := by
    unfold Reading.openCapture
    dsimp only
    rw [if_neg]
    · rfl
    · intro hany
      obtain ⟨entry, hentry, heq⟩ := List.any_eq_true.mp hany
      exact hfresh (List.mem_map.mpr ⟨entry, hentry, beq_iff_eq.mp heq⟩)
  have hstart := readPart_open hv hname rest
  rw [hopen] at hstart
  exact .char hv hstart

/-- Where reading goes on with a group, the name of the group is new. -/
theorem Accepts.notMem_names {name : Text} (hv : r.flags.verbose = false) (hname : IsGroupName name)
    (hacc : Accepts r ("(?P<".toList ++ name ++ '>' :: rest)) : name ∉ r.names.map Prod.fst := by
  have hskip : skipBlanks r.flags.verbose ("(?P<".toList ++ name ++ '>' :: rest) =
      '(' :: '?' :: 'P' :: '<' :: (name ++ '>' :: rest) := by
    rw [hv]
    rfl
  obtain ⟨r', left, hpart⟩ := hacc.readPart_ok hskip
  rw [readPart_open hv hname] at hpart
  unfold Reading.openCapture at hpart
  dsimp only at hpart
  split at hpart
  · cases hpart
  · rename_i hany
    intro hmem
    obtain ⟨entry, hentry, heq⟩ := List.mem_map.mp hmem
    exact hany (List.any_eq_true.mpr ⟨entry, hentry, beq_iff_eq.mpr heq⟩)

/-- The innermost group is closed. -/
theorem reads_close {frame : Frame} {outer : List Frame} (hv : r.flags.verbose = false)
    (houter : r.outer = frame :: outer) (hheight : r.level.whole.2 < nestingLimit) (rest : Text) :
    Reads r (')' :: rest)
      ({ r with flags := frame.flags, level := frame.level, outer := outer }.push
        [.of (match frame.index with
          | some index => .group index r.level.whole.1
          | none => r.level.whole.1) (r.level.whole.2 + 1)]) rest := by
  refine .char hv ?_
  change (do return (← r.closeGroup, rest)) = _
  unfold Reading.closeGroup
  rw [houter]
  dsimp only
  rw [Reading.add_eq hheight]
  rfl

/-- A sign of repetition repeats the piece before it. -/
theorem reads_sign {c : Char} {min : Nat} {max : Option Nat} {e : Expr} {height : Nat}
    (hv : r.flags.verbose = false) (hg : r.flags.swapGreed = false)
    (hc : ∀ r rest, readPart r c rest = signRepetition r min max rest)
    (hheight : height < nestingLimit) (hrest : rest.head? ≠ some '?') :
    Reads (r.push [.of e height]) (c :: rest)
      (r.push [.of (.repeated min max true e) (height + 1)]) rest := by
  refine .char hv ?_
  rw [hc]
  have hsign : signRepetition (r.push [.of e height]) min max rest = do
      return (← (r.push [.of e height]).repeatLast min max true, rest) := by
    unfold signRepetition
    split
    · exact absurd rfl hrest
    · rfl
  rw [hsign]
  change (do return (← r.add (.repeated min max (true != r.flags.swapGreed) e) (height + 1),
    rest)) = _
  rw [hg, Reading.add_eq hheight]
  rfl

end

end PathRouting.Regex
