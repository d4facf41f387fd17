import PathRouting.Proofs.Regex.Reading
import PathRouting.Route.Compiled

/-!
# What the expression of a row of segments is read as

The text of the expression is made of the texts of the segments. Read back, it is the expressions
of the segments in a row: the characters of literal text, a group for each value, and one
expression for each separator.
-/

namespace PathRouting

open Regex

/-- The characters that a slash in an expression matches. -/
def slashSet : CharSet :=
  .ignoreCase (.single '/')

namespace Segment

/-- The text of a group that remembers a value. -/
def capture (name body : Text) : Text :=
  "(?P<".toList ++ name ++ '>' :: body ++ [')']

/-- The text of the values of a parameter without a constraint. -/
def plainBody (isOptional : Bool) : Text :=
  if isOptional then "[^/]*".toList else "[^/]+".toList

/-- The expression of the values of a parameter without a constraint. -/
def plainValue (isOptional : Bool) : Expr :=
  .loop (if isOptional then 0 else 1) none true (.set (.compl slashSet))

/-- The expressions of the separator behind a segment. -/
def separatorExprs (s : Segment) : List Expr :=
  if s.isGlued then []
  else if s.optionalRest && !s.isOptional then [.alt (.set slashSet) (.look .textEnd)]
  else if s.isOptional || s.isLast || s.optionalRest then [.loop 0 (some 1) true (.set slashSet)]
  else [.set slashSet]

/-- The expressions of a segment, given those of its value. -/
def exprs (s : Segment) (value : List Expr) : List Expr :=
  literalExprs (unescape s.before) ++ value ++ literalExprs (unescape s.after) ++ s.separatorExprs

/-- The literal text of a segment is escaped, and its value is a group. -/
structure Shaped (s : Segment) : Prop where
  /-- The text before the value is escaped. -/
  before : Regex.escape (Regex.unescape s.before) = s.before
  /-- The text behind the value is escaped. -/
  after : Regex.escape (Regex.unescape s.after) = s.after
  /-- A piece of literal text is escaped. -/
  literal : s.name = none → Regex.escape (Regex.unescape s.pattern) = s.pattern
  /-- A value is remembered in a group with a good name. -/
  group : ∀ name, s.name = some name → IsGroupName name ∧ ∃ body, s.pattern = capture name body

/-- A value without a constraint is whatever holds no slash. -/
def Unconstrained (s : Segment) : Prop :=
  ∀ name, s.name = some name → s.pattern = capture name (plainBody s.isOptional)

end Segment

namespace Regex

/-- One state of reading comes of another one by reading expressions up to a height, and names. -/
structure Reading.Extends (height : Nat) (r r' : Reading) (exprs : List Expr)
    (names : List (Text × Nat)) : Prop where
  /-- The flags are as before. -/
  flags : r'.flags = r.flags
  /-- The groups around are as before. -/
  outer : r'.outer = r.outer
  /-- The finished branches are as before. -/
  branches : r'.level.branches = r.level.branches
  /-- The expressions have been added to the branch. -/
  pieces : r'.level.pieces.map Piece.expr = exprs.reverse ++ r.level.pieces.map Piece.expr
  /-- What has been added is not too high. -/
  low : ∀ p ∈ r'.level.pieces, p ∈ r.level.pieces ∨ p.height ≤ height
  /-- The names have been added. -/
  names : r'.names = names.reverse ++ r.names

namespace Reading

variable {height : Nat}

/-- Nothing has been read. -/
theorem Extends.refl (r : Reading) : r.Extends height r [] [] :=
  ⟨rfl, rfl, rfl, rfl, fun _ hp => .inl hp, rfl⟩

/-- What is read in two goes. -/
theorem Extends.trans {r r' r'' : Reading} {es ds : List Expr} {ns ms : List (Text × Nat)}
    (h : r.Extends height r' es ns) (h' : r'.Extends height r'' ds ms) :
    r.Extends height r'' (es ++ ds) (ns ++ ms) where
  flags := h'.flags.trans h.flags
  outer := h'.outer.trans h.outer
  branches := h'.branches.trans h.branches
  pieces := by rw [h'.pieces, h.pieces, List.reverse_append, List.append_assoc]
  low p hp := (h'.low p hp).elim (h.low p) .inr
  names := by rw [h'.names, h.names, List.reverse_append, List.append_assoc]

/-- Adding pieces adds their expressions. -/
theorem extends_push (r : Reading) {ps : List Piece} (hlow : ∀ p ∈ ps, p.height ≤ height) :
    r.Extends height (r.push ps) (ps.map Piece.expr) [] where
  flags := rfl
  outer := rfl
  branches := rfl
  pieces := by simp [push]
  low p hp := (List.mem_append.mp hp).elim (fun hp => .inr (hlow p (List.mem_reverse.mp hp))) .inl
  names := rfl

/-- Adding a piece adds its expression. -/
theorem extends_push_of (r : Reading) (e : Expr) {n : Nat} (hlow : n ≤ height) :
    r.Extends height (r.push [.of e n]) [e] [] :=
  r.extends_push (List.forall_mem_singleton.mpr hlow)

end Reading

end Regex

section

variable {r : Reading} {rest : Text}

/-- A slash is read as such. -/
theorem reads_slash (hf : r.flags = pathFlags) (rest : Text) :
    Reads r ('/' :: rest) (r.push [.of (.set slashSet) 0]) rest := by
  have hpart := readPart_literal (show isMeta '/' = false by decide) r rest
  rw [hf] at hpart
  exact .char (by rw [hf]; rfl) hpart

/-- A slash that may be missing is read as such. -/
theorem reads_optionalSlash (hf : r.flags = pathFlags) (hrest : rest.head? ≠ some '?') :
    Reads r ("/?".toList ++ rest) (r.push [.of (.loop 0 (some 1) true (.set slashSet)) 1]) rest := by
  have hv : r.flags.verbose = false := by rw [hf]; rfl
  have hg : r.flags.swapGreed = false := by rw [hf]; rfl
  have hsign : Reads (r.push [.of (.set slashSet) 0]) ('?' :: rest)
      (r.push [.of (.repeated 0 (some 1) true (.set slashSet)) 1]) rest :=
    reads_sign hv hg (fun _ _ => rfl) (by decide) hrest
  exact (reads_slash hf ('?' :: rest)).trans hsign

/-- The class of all characters but the slash is read as such. -/
theorem reads_noSlash (hf : r.flags = pathFlags) (rest : Text) :
    Reads r ("[^/]".toList ++ rest) (r.push [.of (.set (.compl slashSet)) 1]) rest := by
  have hclass : bracketedClass pathFlags ('^' :: '/' :: ']' :: rest) =
      .ok (⟨.compl slashSet, 1⟩, rest) := rfl
  have hpart : readPart r '[' ('^' :: '/' :: ']' :: rest) =
      .ok (r.push [.of (.set (.compl slashSet)) 1], rest) := by
    change (bracketedClass r.flags ('^' :: '/' :: ']' :: rest) >>= _) = _
    rw [hf, hclass]
    change (r.add (.set (.compl slashSet)) 1 >>= fun r => .ok (r, rest)) = _
    rw [Reading.add_eq (by decide)]
    rfl
  exact .char (by rw [hf]; rfl) hpart

/-- The values of a parameter without a constraint are read as such. -/
theorem reads_plainBody (hf : r.flags = pathFlags) (isOptional : Bool)
    (hrest : rest.head? ≠ some '?') :
    Reads r (Segment.plainBody isOptional ++ rest)
      (r.push [.of (Segment.plainValue isOptional) 2]) rest := by
  have hv : r.flags.verbose = false := by rw [hf]; rfl
  have hg : r.flags.swapGreed = false := by rw [hf]; rfl
  have hsign : ∀ c min, (∀ r rest, readPart r c rest = signRepetition r min none rest) →
      Reads (r.push [.of (.set (.compl slashSet)) 1]) (c :: rest)
        (r.push [.of (.repeated min none true (.set (.compl slashSet))) 2]) rest :=
    fun c min hc => reads_sign hv hg hc (by decide) hrest
  cases isOptional with
  | true => exact (reads_noSlash hf ('*' :: rest)).trans (hsign '*' 0 fun _ _ => rfl)
  | false => exact (reads_noSlash hf ('+' :: rest)).trans (hsign '+' 1 fun _ _ => rfl)

/-- A slash or the end of the path is read as such. -/
theorem reads_slashOrEnd (hf : r.flags = pathFlags) (rest : Text) :
    Reads r ("(?:/|$)".toList ++ rest)
      (r.push [.of (.alt (.set slashSet) (.look .textEnd)) 2]) rest := by
  have hv : r.flags.verbose = false := by rw [hf]; rfl
  have hopen : readPart r '(' ('?' :: ':' :: '/' :: '|' :: '$' :: ')' :: rest) =
      .ok (r.openGroup r.flags none, '/' :: '|' :: '$' :: ')' :: rest) := by
    change groupStart r _ = _
    unfold groupStart
    rw [hv]
    rfl
  have hbar : Reads ((r.openGroup r.flags none).push [.of (.set slashSet) 0])
      ('|' :: '$' :: ')' :: rest)
      { r.openGroup r.flags none with level := ⟨[(.set slashSet, 0)], []⟩ } ('$' :: ')' :: rest) :=
    .char hv rfl
  have hend : Reads { r.openGroup r.flags none with level := ⟨[(.set slashSet, 0)], []⟩ }
      ('$' :: ')' :: rest)
      { r.openGroup r.flags none with
        level := ⟨[(.set slashSet, 0)], [.of (.look .textEnd) 0]⟩ } (')' :: rest) := by
    refine .char hv ?_
    change Except.ok (Reading.addFlat _ (.look (endLook r.flags)), ')' :: rest) = _
    rw [hf]
    rfl
  have hclose : Reads
      { r.openGroup r.flags none with
        level := ⟨[(.set slashSet, 0)], [.of (.look .textEnd) 0]⟩ } (')' :: rest)
      (r.push [.of (.alt (.set slashSet) (.look .textEnd)) 2]) rest :=
    reads_close (r := { r.openGroup r.flags none with
      level := ⟨[(.set slashSet, 0)], [.of (.look .textEnd) 0]⟩ }) hv rfl
      (show 1 < nestingLimit by decide) rest
  have hopened : Reads r ("(?:/|$)".toList ++ rest) (r.openGroup r.flags none)
      ('/' :: '|' :: '$' :: ')' :: rest) :=
    .char hv hopen
  have hslash := reads_slash (r := r.openGroup r.flags none) hf ('|' :: '$' :: ')' :: rest)
  exact hopened.trans (hslash.trans (hbar.trans (hend.trans hclose)))

/-- The text of a separator is read as the expressions of the separator. -/
theorem reads_separator (s : Segment) {height : Nat} (hheight : 3 ≤ height)
    (hf : r.flags = pathFlags) (hrest : rest.head? ≠ some '?') :
    ∃ r', Reads r (s.separator ++ rest) r' rest ∧ r.Extends height r' s.separatorExprs [] ∧
      r'.nextIndex = r.nextIndex := by
  unfold Segment.separator Segment.separatorExprs
  split
  · exact ⟨r, .refl r rest, .refl r, rfl⟩
  · split
    · exact ⟨_, reads_slashOrEnd hf rest, r.extends_push_of _ (by omega), rfl⟩
    · split
      · exact ⟨_, reads_optionalSlash hf hrest, r.extends_push_of _ (by omega), rfl⟩
      · exact ⟨_, reads_slash hf rest, r.extends_push_of _ (Nat.zero_le _), rfl⟩

/-- An escaped text is read as the expressions of its characters. -/
theorem reads_literal (height : Nat) {t : Text} (ht : Regex.escape (Regex.unescape t) = t)
    (hf : r.flags = pathFlags) (rest : Text) :
    ∃ r', Reads r (t ++ rest) r' rest ∧ r.Extends height r' (literalExprs (unescape t)) [] ∧
      r'.nextIndex = r.nextIndex := by
  have hreads := reads_escape (show r.flags.verbose = false by rw [hf]; rfl) (unescape t) rest
  rw [ht] at hreads
  refine ⟨_, hreads, ?_, rfl⟩
  have hexprs : (literalPieces r.flags (unescape t)).map Piece.expr =
      literalExprs (unescape t) := by
    rw [hf, literalPieces, List.map_map]
    rfl
  rw [← hexprs]
  refine r.extends_push fun p hp => ?_
  obtain ⟨c, -, rfl⟩ := List.mem_map.mp hp
  exact Nat.zero_le height

/-- The text of a group before what follows it. -/
theorem Segment.capture_append (name body rest : Text) :
    capture name body ++ rest = "(?P<".toList ++ name ++ '>' :: (body ++ ')' :: rest) := by
  unfold capture
  simp only [List.append_assoc, List.cons_append, List.nil_append]

/-- The group of a value without a constraint is read as such, if its name is new. -/
theorem reads_capture {name : Text} (hname : IsGroupName name) (isOptional : Bool) {height : Nat}
    (hheight : 3 ≤ height) (hf : r.flags = pathFlags) (hfresh : name ∉ r.names.map Prod.fst)
    (rest : Text) :
    ∃ r', Reads r (Segment.capture name (Segment.plainBody isOptional) ++ rest) r' rest ∧
      r.Extends height r' [.group r.nextIndex (Segment.plainValue isOptional)]
        [(name, r.nextIndex)] ∧
      r'.nextIndex = r.nextIndex + 1 := by
  have hv : r.flags.verbose = false := by rw [hf]; rfl
  rw [Segment.capture_append]
  have hbody := reads_plainBody (r := r.opened name) hf isOptional
    (show (')' :: rest).head? ≠ some '?' by simp)
  have hclose := reads_close (r := (r.opened name).push [.of (Segment.plainValue isOptional) 2])
    hv rfl (show 2 < nestingLimit by decide) rest
  have hreads := (reads_open hv hname hfresh _).trans (hbody.trans hclose)
  refine ⟨_, hreads, ⟨rfl, rfl, rfl, rfl, fun p hp => ?_, rfl⟩, rfl⟩
  rcases List.mem_cons.mp hp with rfl | hp
  · exact .inr hheight
  · exact .inl hp

end

namespace Segment

/-- How the value of a segment is read, if the next group has a given number: the expressions of
the value, the names of its groups and the number of the group that comes next. -/
structure ValueRead where
  /-- The expressions of the value. -/
  exprs : List Expr
  /-- The names of its groups with their numbers. -/
  names : List (Text × Nat)
  /-- The number of the next group. -/
  nextIndex : Nat

/-- Each value of a row of segments is read in a way that is allowed, and the numbers of the groups
run through the row. -/
inductive RowRead (allowed : Segment → Nat → ValueRead → Prop) :
    List Segment → Nat → List ValueRead → Prop
  /-- There are no segments. -/
  | nil (k : Nat) : RowRead allowed [] k []
  /-- The first segment and the others. -/
  | cons {s : Segment} {rest : List Segment} {k : Nat} {v : ValueRead} {vs : List ValueRead}
    (hs : allowed s k v) (hrest : RowRead allowed rest v.nextIndex vs) :
    RowRead allowed (s :: rest) k (v :: vs)

/-- The expressions of a row of segments. -/
def rowExprs (segments : List Segment) (values : List ValueRead) : List Expr :=
  (List.zipWith (fun s v => s.exprs v.exprs) segments values).flatten

/-- The text of the value of a segment is always read in a way that is allowed. -/
def ReadsValue (allowed : Segment → Nat → ValueRead → Prop) (s : Segment) : Prop :=
  ∀ (r : Reading) (rest : Text), r.flags = pathFlags → Accepts r (s.pattern ++ rest) →
    ∃ r' v, Reads r (s.pattern ++ rest) r' rest ∧ r.Extends nestingLimit r' v.exprs v.names ∧
      r'.nextIndex = v.nextIndex ∧ allowed s r.nextIndex v

/-- How a value without a constraint is read. -/
def plainRead (s : Segment) (k : Nat) : ValueRead :=
  match s.name with
  | none => ⟨literalExprs (unescape s.pattern), [], k⟩
  | some name => ⟨[.group k (plainValue s.isOptional)], [(name, k)], k + 1⟩

/-- A value without a constraint is read as such. -/
theorem Shaped.readsValue_plain {s : Segment} (hs : s.Shaped) (hu : s.Unconstrained) :
    s.ReadsValue fun s k v => v = s.plainRead k := by
  intro r rest hf hacc
  cases hname : s.name with
  | none =>
    obtain ⟨r', hreads, hext, hnext⟩ := reads_literal nestingLimit (hs.literal hname) hf rest
    refine ⟨r', ⟨_, _, _⟩, hreads, hext, hnext, ?_⟩
    change _ = s.plainRead r.nextIndex
    unfold plainRead
    rw [hname]
    rfl
  | some name =>
    rw [hu name hname] at hacc ⊢
    have hname' := (hs.group name hname).1
    have hfresh : name ∉ r.names.map Prod.fst := by
      rw [capture_append] at hacc
      exact hacc.notMem_names (by rw [hf]; rfl) hname'
    have hheight : 3 ≤ nestingLimit := by decide
    obtain ⟨r', hreads, hext, hnext⟩ :=
      reads_capture hname' s.isOptional hheight hf hfresh rest
    refine ⟨r', ⟨_, _, _⟩, hreads, hext, hnext, ?_⟩
    change _ = s.plainRead r.nextIndex
    unfold plainRead
    rw [hname]

end Segment

section

variable {r : Reading} {rest : Text}

/-- The text of a segment is read as the expressions of the segment, if that of its value is read
behind the text before it. -/
theorem reads_segment_of_value (allowed : Segment → Nat → Segment.ValueRead → Prop) {s : Segment}
    (hs : s.Shaped) {height : Nat} (hheight : 3 ≤ height) (hf : r.flags = pathFlags)
    (hrest : rest.head? ≠ some '?')
    (hvalue : ∀ r1, Reads r (s.expression ++ rest) r1
        (s.pattern ++ (s.after ++ (s.separator ++ rest))) →
      r1.flags = pathFlags → r1.names = r.names → r1.nextIndex = r.nextIndex →
      ∃ r2 v, Reads r1 (s.pattern ++ (s.after ++ (s.separator ++ rest))) r2
          (s.after ++ (s.separator ++ rest)) ∧ r1.Extends height r2 v.exprs v.names ∧
        r2.nextIndex = v.nextIndex ∧ allowed s r1.nextIndex v) :
    ∃ r' v, Reads r (s.expression ++ rest) r' rest ∧
      r.Extends height r' (s.exprs v.exprs) v.names ∧
      r'.nextIndex = v.nextIndex ∧ allowed s r.nextIndex v := by
  have htext : s.expression ++ rest =
      s.before ++ (s.pattern ++ (s.after ++ (s.separator ++ rest))) := by
    simp [Segment.expression]
  rw [htext] at hvalue ⊢
  obtain ⟨r1, h1, hext1, hnext1⟩ := reads_literal height hs.before hf
    (s.pattern ++ (s.after ++ (s.separator ++ rest)))
  obtain ⟨r2, v, h2, hext2, hnext2, hallowed⟩ :=
    hvalue r1 h1 (hext1.flags.trans hf) hext1.names hnext1
  have hf2 := hext2.flags.trans (hext1.flags.trans hf)
  obtain ⟨r3, h3, hext3, hnext3⟩ := reads_literal height hs.after hf2 (s.separator ++ rest)
  obtain ⟨r4, h4, hext4, hnext4⟩ := reads_separator s hheight (hext3.flags.trans hf2) hrest
  refine ⟨r4, v, h1.trans (h2.trans (h3.trans h4)), ?_, ?_, hnext1 ▸ hallowed⟩
  · have hext := ((hext1.trans hext2).trans hext3).trans hext4
    rwa [List.append_nil, List.append_nil, List.nil_append] at hext
  · rw [hnext4, hnext3, hnext2]

/-- The text of a segment is read as the expressions of the segment. -/
theorem reads_segment {allowed : Segment → Nat → Segment.ValueRead → Prop} {s : Segment}
    (hs : s.Shaped) (hvalue : s.ReadsValue allowed) (hf : r.flags = pathFlags)
    (hacc : Accepts r (s.expression ++ rest)) (hrest : rest.head? ≠ some '?') :
    ∃ r' v, Reads r (s.expression ++ rest) r' rest ∧
      r.Extends nestingLimit r' (s.exprs v.exprs) v.names ∧
      r'.nextIndex = v.nextIndex ∧ allowed s r.nextIndex v :=
  reads_segment_of_value allowed hs (by decide) hf hrest fun r1 h1 hf1 _ _ =>
    hvalue r1 _ hf1 (h1.accepts hacc)

/-- The text of a segment is no sign of repetition. -/
theorem head?_expression_ne {s : Segment} (hs : s.Shaped) (hrest : rest.head? ≠ some '?') :
    (s.expression ++ rest).head? ≠ some '?' := by
  have hescape : ∀ t : Text, (Regex.escape t).head? ≠ some '?' := by
    intro t
    cases t with
    | nil => simp [Regex.escape]
    | cons c t =>
      unfold Regex.escape
      split
      · simp
      · rename_i hc
        rw [List.head?_cons, ne_eq, Option.some.injEq]
        rintro rfl
        exact hc (by decide)
  have happend : ∀ t u : Text, t.head? ≠ some '?' → u.head? ≠ some '?' →
      (t ++ u).head? ≠ some '?' := by
    intro t u ht hu
    cases t with
    | nil => exact hu
    | cons c t => exact ht
  have hpattern : s.pattern.head? ≠ some '?' := by
    cases hname : s.name with
    | none => exact hs.literal hname ▸ hescape _
    | some name =>
      obtain ⟨-, body, hbody⟩ := hs.group name hname
      rw [hbody]
      unfold Segment.capture
      simp
  have hseparator : s.separator.head? ≠ some '?' := by
    unfold Segment.separator
    split
    · simp
    · split
      · simp
      · split <;> simp
  have hbefore : s.before.head? ≠ some '?' := hs.before ▸ hescape _
  have hafter : s.after.head? ≠ some '?' := hs.after ▸ hescape _
  unfold Segment.expression
  exact happend _ _ (happend _ _ (happend _ _ (happend _ _ hbefore hpattern) hafter) hseparator)
    hrest

/-- The text of a row of segments is no sign of repetition. -/
theorem head?_flatMap_expression_ne {segments : List Segment} (hs : ∀ s ∈ segments, s.Shaped)
    (hrest : rest.head? ≠ some '?') :
    (segments.flatMap Segment.expression ++ rest).head? ≠ some '?' := by
  induction segments with
  | nil => exact hrest
  | cons s segments ih =>
    obtain ⟨hshaped, hs⟩ := List.forall_mem_cons.mp hs
    rw [List.flatMap_cons, List.append_assoc]
    exact head?_expression_ne hshaped (ih hs)

/-- The text of a row of segments is read as the expressions of the segments in a row. -/
theorem reads_row {allowed : Segment → Nat → Segment.ValueRead → Prop} {segments : List Segment}
    (hs : ∀ s ∈ segments, s.Shaped ∧ s.ReadsValue allowed) (hf : r.flags = pathFlags)
    (hacc : Accepts r (segments.flatMap Segment.expression ++ rest))
    (hrest : rest.head? ≠ some '?') :
    ∃ r' vs, Reads r (segments.flatMap Segment.expression ++ rest) r' rest ∧
      r.Extends nestingLimit r' (Segment.rowExprs segments vs) (vs.flatMap (·.names)) ∧
      Segment.RowRead allowed segments r.nextIndex vs := by
  induction segments generalizing r with
  | nil => exact ⟨r, [], .refl r rest, .refl r, .nil _⟩
  | cons s segments ih =>
    rw [List.flatMap_cons, List.append_assoc] at hacc ⊢
    obtain ⟨hshaped, hvalue⟩ := hs s List.mem_cons_self
    have htail : (segments.flatMap Segment.expression ++ rest).head? ≠ some '?' :=
      head?_flatMap_expression_ne (fun d hd => (hs d (List.mem_cons_of_mem s hd)).1) hrest
    obtain ⟨r1, v, h1, hext1, hnext1, hallowed⟩ := reads_segment hshaped hvalue hf hacc htail
    obtain ⟨r2, vs, h2, hext2, hrow⟩ := ih (fun d hd => hs d (List.mem_cons_of_mem s hd))
      (hext1.flags.trans hf) (h1.accepts hacc)
    rw [hnext1] at hrow
    exact ⟨r2, v :: vs, h1.trans h2, hext1.trans hext2, .cons hallowed hrow⟩

end

/-- What has been read of a row of two or more pieces is their concatenation. -/
theorem Regex.Reading.Extends.whole {height : Nat} {r final : Reading} {es : List Expr}
    {names : List (Text × Nat)} (h : r.Extends height final es names) (hr : r.level = .start)
    (hes : 2 ≤ es.length) : final.level.whole.1 = .concat es := by
  have hbranches : final.level.branches = [] := by rw [h.branches, hr]; rfl
  have hpieces : final.level.pieces.map Piece.expr = es.reverse := by
    rw [h.pieces, hr]
    exact List.append_nil _
  have hlen : final.level.pieces.length = es.length := by
    rw [← List.length_map Piece.expr, hpieces, List.length_reverse]
  unfold Level.whole Level.branch
  rw [hbranches]
  dsimp only
  split
  · rename_i hnil
    rw [hnil, List.length_nil] at hlen
    omega
  · rename_i p hone
    rw [hone, List.length_singleton] at hlen
    omega
  · rw [List.map_reverse, hpieces, List.reverse_reverse]

/-- What has been read of a row of pieces is one level higher than they are. -/
theorem Regex.Reading.Extends.height_whole {height : Nat} {r final : Reading} {es : List Expr}
    {names : List (Text × Nat)} (h : r.Extends height final es names) (hr : r.level = .start) :
    final.level.whole.2 ≤ height + 1 := by
  have hbranches : final.level.branches = [] := by rw [h.branches, hr]; rfl
  have hlow : ∀ p ∈ final.level.pieces, p.height ≤ height := by
    intro p hp
    have hcases := h.low p hp
    rw [hr] at hcases
    exact hcases.resolve_left List.not_mem_nil
  have hmax : ∀ (heights : List Nat) (n : Nat), n ≤ height → (∀ m ∈ heights, m ≤ height) →
      heights.foldl Nat.max n ≤ height := by
    intro heights
    induction heights with
    | nil => exact fun n hn _ => hn
    | cons m heights ih =>
      intro n hn hall
      obtain ⟨hm, hall⟩ := List.forall_mem_cons.mp hall
      exact ih _ (Nat.max_le.mpr ⟨hn, hm⟩) hall
  unfold Level.whole Level.branch
  rw [hbranches]
  dsimp only
  split
  · exact Nat.zero_le _
  · rename_i p hone
    rw [hone] at hlow
    exact Nat.le_succ_of_le (hlow p (List.mem_singleton_self p))
  · refine Nat.succ_le_succ (hmax _ 0 (Nat.zero_le _) fun m hm => ?_)
    obtain ⟨p, hp, rfl⟩ := List.mem_map.mp hm
    exact hlow p hp

/-- The end of the path behind a row of segments is read as such. -/
theorem reads_end {r : Reading} (hf : r.flags = pathFlags) :
    Reads r ['$'] (r.push [.of (.look .textEnd) 0]) [] := by
  refine .char (by rw [hf]; rfl) ?_
  change Except.ok (r.addFlat (.look (endLook r.flags)), []) = _
  rw [hf]
  rfl

/-- The expression of a row of segments is read as their expressions in a row between the start and
the end of the path. -/
theorem parse_joinedPattern {allowed : Segment → Nat → Segment.ValueRead → Prop}
    {segments : List Segment} (hs : ∀ s ∈ segments, s.Shaped ∧ s.ReadsValue allowed)
    {parsed : Parsed} (h : parse pathFlags (Segment.joinedPattern segments) = .ok parsed) :
    ∃ vs, Segment.RowRead allowed segments 1 vs ∧ parsed.names = vs.flatMap (·.names) ∧
      parsed.expr = .concat (.look .textStart :: Segment.rowExprs segments vs
        ++ [.look .textEnd]) := by
  obtain ⟨fuel, final, hparts, houter, -, rfl⟩ := parse_eq_ok h
  have hacc : Accepts (.start pathFlags) (Segment.joinedPattern segments) :=
    ⟨fuel, final, hparts⟩
  have hstart : Reads (.start pathFlags) (Segment.joinedPattern segments)
      ((Reading.start pathFlags).push [.of (.look .textStart) 0])
      (segments.flatMap Segment.expression ++ ['$']) := .char rfl rfl
  obtain ⟨r1, vs, h1, hext1, hrow⟩ := reads_row hs rfl (hstart.accepts hacc)
    (show ['$'].head? ≠ some '?' by simp)
  have hend := reads_end hext1.flags
  have hext := ((Reading.extends_push_of (.start pathFlags) (.look .textStart) (Nat.zero_le _)).trans
    hext1).trans (r1.extends_push_of (.look .textEnd) (Nat.zero_le _))
  obtain rfl := eq_of_readParts_nil ((hstart.trans (h1.trans hend)).readParts_eq hparts)
  refine ⟨vs, hrow, ?_, hext.whole rfl (by simp)⟩
  rw [hext.names]
  simp [Reading.start]

end PathRouting
