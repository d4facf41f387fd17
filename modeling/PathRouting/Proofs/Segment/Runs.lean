import PathRouting.Proofs.Segment.Constrained
import PathRouting.Proofs.Segment.CutEnds

/-!
# What a match of the expressions of a segment takes

Whatever constraints there are, a match of the expressions of a segment takes a share of the text:
the text of the segment before and behind the value, a value without a slash or one that its
constraint matches where it stands, and a separator. The group of the parameter remembers where the
value is, and groups of the constraint have other numbers.
-/

namespace PathRouting

open Regex

/-- A row of expressions is matched in two goes. -/
theorem Regex.runAll_append {input : Array Char} {es ds : List Expr} {x y : Spot} :
    RunAll input (es ++ ds) x y ↔ ∃ z, RunAll input es x z ∧ RunAll input ds z y := by
  induction es generalizing x with
  | nil =>
    constructor
    · exact fun h => ⟨x, rfl, h⟩
    · rintro ⟨_, rfl, h⟩
      exact h
  | cons e es ih =>
    constructor
    · rintro ⟨z, hz, h⟩
      obtain ⟨w, hw, h⟩ := ih.mp h
      exact ⟨w, ⟨z, hz, hw⟩, h⟩
    · rintro ⟨w, ⟨z, hz, hw⟩, h⟩
      exact ⟨z, hz, ih.mpr ⟨w, hw, h⟩⟩

namespace Regex.Spot

/-- A text stands between two spots. -/
structure Passes (input : Array Char) (x : Spot) (t : Text) (y : Spot) : Prop where
  /-- What is left at the first spot is the text and what is left at the second one. -/
  left : x.left input = t ++ y.left input
  /-- The spots are as far apart as the text is long. -/
  place : y.place = x.place + t.length

variable {input : Array Char} {x y z : Spot} {t u : Text}

/-- No text stands between a spot and itself. -/
theorem Passes.refl (x : Spot) : x.Passes input [] x :=
  ⟨rfl, rfl⟩

/-- Texts stand behind each other. -/
theorem Passes.trans (h : x.Passes input t y) (h' : y.Passes input u z) :
    x.Passes input (t ++ u) z where
  left := by rw [h.left, h'.left, List.append_assoc]
  place := by rw [h'.place, h.place, List.length_append, Nat.add_assoc]

/-- The text ends before the end of the input, if it starts before it. -/
theorem Passes.place_le_size (h : x.Passes input t y) (hx : x.place ≤ input.size) :
    y.place ≤ input.size := by
  have hlen := congrArg List.length h.left
  rw [List.length_append, x.length_left, y.length_left] at hlen
  have hplace := h.place
  omega

/-- What is remembered plays no part. -/
theorem Passes.congr {x' y' : Spot} (h : x.Passes input t y) (hx : x'.place = x.place)
    (hy : y'.place = y.place) : x'.Passes input t y' where
  left := by
    have hleft := h.left
    unfold Spot.left at hleft ⊢
    rw [hx, hy, hleft]
  place := by rw [hx, hy, h.place]

/-- Some text stands between the start and the end of a match. -/
theorem exists_passes {e : Expr} (h : e.Run input x y) (hx : x.place ≤ input.size) :
    ∃ t, x.Passes input t y := by
  have hle := h.place_le
  have hsize := h.place_le_size hx
  refine ⟨(x.left input).take (y.place - x.place), ?_, ?_⟩
  · have hrest : y.left input = (x.left input).drop (y.place - x.place) := by
      unfold left
      rw [List.drop_drop, Nat.add_sub_cancel' hle]
    rw [hrest, List.take_append_drop]
  · rw [List.length_take, x.length_left]
    omega

/-- A set takes a character that is in it. -/
theorem passes_set {s : CharSet} (h : (Expr.set s).Run input x y) :
    ∃ c, s.contains c = true ∧ x.Passes input [c] y ∧ y.saved = x.saved := by
  obtain ⟨c, hc, hcont, rfl⟩ := h
  rw [← x.head?_left, List.head?_eq_some_iff] at hc
  obtain ⟨rest, hrest⟩ := hc
  refine ⟨c, hcont, ⟨?_, rfl⟩, rfl⟩
  have hnext : x.advance.left input = (x.left input).drop 1 := x.left_skip 1
  rw [hnext, hrest]
  rfl

/-- At the end of the text nothing is left. -/
theorem left_eq_nil_of_textEnd (h : (Expr.look .textEnd).Run input x y) :
    y = x ∧ x.left input = [] := by
  obtain ⟨hl, rfl⟩ := h
  refine ⟨rfl, ?_⟩
  unfold Look.holdsAt Look.holds at hl
  rwa [← Spot.head?_left, Option.isNone_iff_eq_none, List.head?_eq_none_iff] at hl

end Regex.Spot

section

variable {input : Array Char} {x y : Spot}

/-- Literal text takes a text that is equal up to case. -/
theorem passes_literalExprs {literal : Text} (h : RunAll input (literalExprs literal) x y) :
    ∃ taken, SameFolding taken literal ∧ x.Passes input taken y ∧ y.saved = x.saved := by
  induction literal generalizing x with
  | nil =>
    obtain rfl := h
    exact ⟨[], rfl, .refl y, rfl⟩
  | cons c literal ih =>
    obtain ⟨z, hz, h⟩ := h
    obtain ⟨d, hd, hpass, hsaved⟩ := Spot.passes_set hz
    obtain ⟨taken, hsame, hrest, hsaved'⟩ := ih h
    rw [contains_ignoreCase_single, decide_eq_true_eq] at hd
    exact ⟨d :: taken, sameFolding_cons_iff.mpr ⟨d, taken, rfl, hd.symm, hsame⟩,
      hpass.trans hrest, hsaved'.trans hsaved⟩

/-- Rounds of characters other than a slash take a text without slashes. -/
theorem passes_noSlash {n : Nat} (h : Rounds ((Expr.set (.compl slashSet)).Run input) n x y) :
    ∃ taken : Text, taken.length = n ∧ '/' ∉ taken ∧ x.Passes input taken y ∧
      y.saved = x.saved := by
  induction n generalizing x with
  | zero =>
    obtain rfl := h
    exact ⟨[], rfl, List.not_mem_nil, .refl y, rfl⟩
  | succ n ih =>
    obtain ⟨z, hz, h⟩ := h
    obtain ⟨c, hc, hpass, hsaved⟩ := Spot.passes_set hz
    obtain ⟨taken, rfl, hslash, hrest, hsaved'⟩ := ih h
    rw [CharSet.contains, contains_slashSet] at hc
    have hne : '/' ≠ c := by
      rintro rfl
      cases hc
    exact ⟨c :: taken, rfl, List.not_mem_cons_of_ne_of_not_mem hne hslash, hpass.trans hrest,
      hsaved'.trans hsaved⟩

/-- A separator takes a slash or nothing, as the segment has it. -/
theorem passes_separatorExprs {s : Segment} (h : RunAll input s.separatorExprs x y) :
    ∃ slash, s.Separates slash (y.left input) ∧
      x.Passes input (if slash then ['/'] else []) y ∧ y.saved = x.saved := by
  have hslash : ∀ {z : Spot}, (Expr.set slashSet).Run input x z →
      x.Passes input ['/'] z ∧ z.saved = x.saved := by
    intro z hz
    obtain ⟨c, hc, hpass, hsaved⟩ := Spot.passes_set hz
    rw [contains_slashSet, decide_eq_true_eq] at hc
    subst hc
    exact ⟨hpass, hsaved⟩
  unfold Segment.separatorExprs at h
  unfold Segment.Separates
  cases hglued : s.isGlued with
  | true =>
    rw [hglued] at h
    obtain rfl := h
    exact ⟨false, rfl, .refl y, rfl⟩
  | false =>
    rw [hglued] at h
    cases hrest : s.optionalRest && !s.isOptional with
    | true =>
      rw [hrest] at h
      obtain ⟨hrest, hopt⟩ := (Bool.and_eq_true _ _).mp hrest
      rw [Bool.not_eq_true'] at hopt
      obtain ⟨z, hz, rfl⟩ := h
      rcases hz with hz | hz
      · obtain ⟨hpass, hsaved⟩ := hslash hz
        exact ⟨true, by simp [hrest, hopt], hpass, hsaved⟩
      · obtain ⟨rfl, hleft⟩ := Spot.left_eq_nil_of_textEnd hz
        exact ⟨false, by simp [hrest, hopt, hleft], .refl _, rfl⟩
    | false =>
      rw [hrest] at h
      cases hmissing : s.isOptional || s.isLast || s.optionalRest with
      | true =>
        rw [hmissing] at h
        have hany : ∀ slash, if (!s.isOptional && !s.isLast && !s.optionalRest) = true then slash = true
            else if (!s.isOptional && s.optionalRest) = true then slash = true ∨ y.left input = []
            else True := by
          intro slash
          cases ho : s.isOptional <;> cases hl : s.isLast <;> cases hr : s.optionalRest <;>
            simp_all
        obtain ⟨z, ⟨n, -, hmax, hrounds⟩, rfl⟩ := h
        have hn : n ≤ 1 := hmax 1 rfl
        match n, hn with
        | 0, _ =>
          obtain rfl := hrounds
          exact ⟨false, hany false, .refl _, rfl⟩
        | 1, _ =>
          obtain ⟨w, hw, rfl⟩ := hrounds
          obtain ⟨hpass, hsaved⟩ := hslash hw
          exact ⟨true, hany true, hpass, hsaved⟩
      | false =>
        rw [hmissing] at h
        obtain ⟨z, hz, rfl⟩ := h
        obtain ⟨hpass, hsaved⟩ := hslash hz
        refine ⟨true, ?_, hpass, hsaved⟩
        cases ho : s.isOptional <;> cases hl : s.isLast <;> cases hr : s.optionalRest <;> simp_all

end

namespace Segment

/-- A value without a constraint holds no slash, and is not empty if it is required. -/
def BoundValue (constraint? : Text → Option Text) (s : Segment) (value : Text) : Prop :=
  (∀ name, s.name = some name → constraint? name = none) → s.PlainValue value

/-- The value of a segment stands at a place where its constraint matches it, or is missing. -/
def Bound (constraint? : Text → Option Text) (s : Segment) (t : Text) (start : Nat) (value : Text) :
    Prop :=
  ∀ name constraint, s.name = some name → constraint? name = some constraint →
    (value = [] ∧ s.isOptional = true) ∨
      MatchesAt pathFlags constraint t start (start + value.length)

/-- Places have been remembered: those of a value under the number of the group of its parameter,
and others under numbers of groups from that one on and below another one. -/
structure Remembers (s : Segment) (k next start : Nat) (value : Text) (new : List (Nat × Nat)) :
    Prop where
  /-- The numbers are those of groups that have been read with the segment. -/
  range : ∀ entry ∈ new, k ≤ entry.1 / 2 ∧ entry.1 / 2 < next
  /-- The value starts where its group does. -/
  starts : s.name ≠ none → new.find? (·.1 == 2 * k) = some (2 * k, start)
  /-- The value ends where its group does. -/
  stops : s.name ≠ none → new.find? (·.1 == 2 * k + 1) = some (2 * k + 1, start + value.length)

/-- A group remembers where it matched before anything else is remembered under its number. -/
theorem remembers_group {s : Segment} {k next : Nat} {e : Expr} {input : Array Char}
    {x y : Spot} (hk : k < next) (he : ∀ g ∈ e.groups, k < g ∧ g < next)
    (h : (Expr.group k e).Run input x y) {value : Text} (hpass : x.Passes input value y) :
    ∃ new, y.saved = new ++ x.saved ∧ s.Remembers k next x.place value new := by
  obtain ⟨z, hz, rfl⟩ := h
  obtain ⟨new, hnew, hin⟩ := hz.saved_eq
  have hplace : z.place = x.place + value.length := hpass.place
  have hinner : ∀ slot, slot / 2 = k → new.find? (·.1 == slot) = none := by
    intro slot hslot
    rw [List.find?_eq_none]
    intro entry hentry heq
    have hgroup := he _ (hin entry hentry)
    rw [beq_iff_eq.mp heq, hslot] at hgroup
    exact Nat.lt_irrefl k hgroup.1
  refine ⟨(2 * k + 1, z.place) :: (new ++ [(2 * k, x.place)]), ?_, ?_, fun _ => ?_, fun _ => ?_⟩
  · change (2 * k + 1, z.place) :: z.saved = _
    rw [hnew]
    simp [Spot.remember]
  · intro entry hentry
    simp only [List.mem_cons, List.mem_append, List.not_mem_nil, or_false] at hentry
    rcases hentry with rfl | hentry | rfl
    · exact ⟨by dsimp only; omega, by dsimp only; omega⟩
    · have hgroup := he _ (hin entry hentry)
      exact ⟨Nat.le_of_lt hgroup.1, hgroup.2⟩
    · exact ⟨by dsimp only; omega, by dsimp only; omega⟩
  · rw [List.find?_cons_of_neg (by simp), List.find?_append, hinner (2 * k) (by omega)]
    simp
  · rw [List.find?_cons_of_pos (by simp), hplace]

section

variable {constraint? : Text → Option Text} {s : Segment} {k : Nat} {v : ValueRead}
  {t : Text} {x y : Spot}

/-- A parameter without a constraint takes a value that it may have. -/
theorem passes_plainValue {input : Array Char} (h : (plainValue s.isOptional).Run input x y) :
    ∃ value, x.Passes input value y ∧ s.PlainValue value := by
  obtain ⟨n, hmin, -, hrounds⟩ := h
  obtain ⟨value, rfl, hslash, hpass, -⟩ := passes_noSlash hrounds
  refine ⟨value, hpass, hslash, fun hreq hnil => ?_⟩
  rw [hreq, hnil] at hmin
  cases hmin

/-- A parameter with a constraint takes what the constraint matches where it stands, or nothing. -/
theorem matchesAt_of_constrainedValue {isOptional : Bool} {constraint value : Text}
    {parsed : Parsed} (hparse : parse pathFlags constraint = .ok parsed)
    (h : (constrainedValue isOptional (parsed.expr.shift k)).Run t.toArray x y)
    (hpass : x.Passes t.toArray value y) :
    (value = [] ∧ isOptional = true) ∨
      MatchesAt pathFlags constraint t x.place (x.place + value.length) := by
  have hplace := hpass.place
  rcases run_constrainedValue.mp h with hrun | ⟨hopt, rfl⟩
  · right
    rw [← hplace]
    exact MatchesAt.of_shift hparse hrun
  · exact .inl ⟨List.eq_nil_of_length_eq_zero (by omega), hopt⟩

/-- The value of a segment is matched by its constraint where it stands, and its group remembers
it. -/
theorem ReadBy.passes (hv : ReadBy constraint? s k v) (hx : x.place ≤ t.toArray.size)
    (h : RunAll t.toArray v.exprs x y) :
    ∃ value, x.Passes t.toArray value y ∧
      (s.name = none → SameFolding value (Regex.unescape s.pattern)) ∧
      (s.name ≠ none → s.BoundValue constraint? value) ∧
      s.Bound constraint? t x.place value ∧
      ∃ new, y.saved = new ++ x.saved ∧ s.Remembers k v.nextIndex x.place value new := by
  cases hv with
  | plain hplain =>
    have hbound : ∀ value, s.Bound constraint? t x.place value := by
      intro value name constraint hname hconstraint
      rw [hplain name hname] at hconstraint
      cases hconstraint
    unfold plainRead at h ⊢
    cases hname : s.name with
    | none =>
      rw [hname] at h
      obtain ⟨value, hsame, hpass, hsaved⟩ := passes_literalExprs h
      exact ⟨value, hpass, fun _ => hsame, fun hne => absurd rfl hne, hbound value, [], hsaved,
        fun entry hentry => absurd hentry List.not_mem_nil, fun hne => absurd hname hne,
        fun hne => absurd hname hne⟩
    | some name =>
      rw [hname] at h
      obtain ⟨z, hgroup, rfl⟩ := h
      obtain ⟨value, hpass, hplainValue⟩ :
          ∃ value, x.Passes t.toArray value y ∧ s.PlainValue value := by
        obtain ⟨w, hw, rfl⟩ := hgroup
        obtain ⟨value, hpass, hplainValue⟩ := passes_plainValue hw
        exact ⟨value, hpass.congr rfl rfl, hplainValue⟩
      obtain ⟨new, hnew, hremembers⟩ := remembers_group (s := s) (Nat.lt_succ_self k)
        (fun g hg => absurd hg List.not_mem_nil) hgroup hpass
      exact ⟨value, hpass, fun hnone => absurd hnone (Option.some_ne_none name),
        fun _ _ => hplainValue, hbound value, new, hnew, hremembers⟩
  | @constrained name constraint parsed next hname hconstraint hparse hnext hgroups =>
    obtain ⟨z, hgroup, rfl⟩ := h
    obtain ⟨value, hpass⟩ := Spot.exists_passes hgroup hx
    have hinner : ∀ g ∈ (constrainedValue s.isOptional (parsed.expr.shift k)).groups,
        k < g ∧ g < next + k := by
      intro g hg
      rw [groups_constrainedValue, Expr.groups_shift] at hg
      obtain ⟨g', hg', rfl⟩ := List.mem_map.mp hg
      have hrange := hgroups g' hg'
      omega
    obtain ⟨new, hnew, hremembers⟩ := remembers_group (s := s) (show k < next + k by omega) hinner
      hgroup hpass
    refine ⟨value, hpass, fun hnone => ?_, fun _ hfree => ?_, ?_, new, hnew, hremembers⟩
    · rw [hname] at hnone
      cases hnone
    · rw [hfree name hname] at hconstraint
      cases hconstraint
    · intro name' constraint' hname' hconstraint'
      rw [hname, Option.some.injEq] at hname'
      subst hname'
      rw [hconstraint, Option.some.injEq] at hconstraint'
      subst hconstraint'
      obtain ⟨w, hw, rfl⟩ := hgroup
      have hmatches := matchesAt_of_constrainedValue hparse hw (hpass.congr rfl rfl)
      exact hmatches

/-- A match of the expressions of a segment takes a share. -/
theorem ReadBy.takes (hv : ReadBy constraint? s k v) (hx : x.place ≤ t.toArray.size)
    (h : RunAll t.toArray (s.exprs v.exprs) x y) :
    ∃ z : Share, x.Passes t.toArray z.text y ∧ s.Takes (BoundValue constraint?) z (y.left t.toArray) ∧
      s.Bound constraint? t (x.place + z.before.length) z.value ∧
      ∃ new, y.saved = new ++ x.saved ∧
        s.Remembers k v.nextIndex (x.place + z.before.length) z.value new := by
  unfold exprs at h
  obtain ⟨x₃, h, hseparator⟩ := runAll_append.mp h
  obtain ⟨x₂, h, hafter⟩ := runAll_append.mp h
  obtain ⟨x₁, hbefore, hvalue⟩ := runAll_append.mp h
  obtain ⟨before, hbefore, hpass₁, hsaved₁⟩ := passes_literalExprs hbefore
  obtain ⟨value, hpass₂, hliteral, hbound, hholds, new, hnew, hremembers⟩ :=
    hv.passes (hpass₁.place_le_size hx) hvalue
  obtain ⟨after, hafter, hpass₃, hsaved₃⟩ := passes_literalExprs hafter
  obtain ⟨slash, hseparates, hpass₄, hsaved₄⟩ := passes_separatorExprs hseparator
  refine ⟨⟨before, value, after, slash⟩, ((hpass₁.trans hpass₂).trans hpass₃).trans hpass₄,
    ⟨hbefore, hliteral, hbound, hafter, hseparates⟩, ?_, new, ?_, ?_⟩
  · rw [← hpass₁.place]
    exact hholds
  · rw [hsaved₄, hsaved₃, hnew, hsaved₁]
  · rw [← hpass₁.place]
    exact hremembers

end

end Segment

end PathRouting
