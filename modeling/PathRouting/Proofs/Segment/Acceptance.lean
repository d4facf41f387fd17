import PathRouting.Proofs.Segment.Constrained

/-!
# Rows of segments that are read without an error

Whether the expression of a row of segments can be read does not depend on which parameters may be
absent: it can be read if each constraint is an expression that can be put in parentheses, there is
room for the height of the constraints, and no two groups have the same name.
-/

namespace PathRouting

open Regex

/-- The names of the groups of a value, given the constraints of parameters. -/
def groupNames (constraint? : Text → Option Text) (name : Text) : List Text :=
  name :: match constraint? name with
    | none => []
    | some constraint => match parse pathFlags constraint with
      | .ok parsed => parsed.names.map Prod.fst
      | .error _ => []

namespace Segment

variable {constraint? : Text → Option Text} {s : Segment} {segments : List Segment}

/-- Higher numbers make no difference to names. -/
theorem map_fst_shiftNames (k : Nat) (names : List (Text × Nat)) :
    (shiftNames k names).map Prod.fst = names.map Prod.fst := by
  unfold shiftNames
  rw [List.map_map]
  rfl

/-- The groups of a value have the names that its constraint gives. -/
theorem ReadBy.map_fst_names {k : Nat} {v : ValueRead} (hv : ReadBy constraint? s k v) :
    v.names.map Prod.fst = s.name.toList.flatMap (groupNames constraint?) := by
  cases hv with
  | plain h =>
    unfold plainRead groupNames
    cases hname : s.name with
    | none => rfl
    | some name =>
      dsimp only [Option.toList]
      rw [List.flatMap_singleton, h name hname]
      rfl
  | @constrained name constraint parsed next hname hconstraint hparse hnext hgroups =>
    unfold groupNames
    rw [hname]
    dsimp only [Option.toList]
    rw [List.flatMap_singleton, hconstraint]
    dsimp only
    rw [hparse, List.map_cons, map_fst_shiftNames]

/-- The groups of a row have the names that its constraints give. -/
theorem RowRead.map_fst_names {k : Nat} {vs : List ValueRead}
    (h : RowRead (ReadBy constraint?) segments k vs) :
    (vs.flatMap (·.names)).map Prod.fst =
      (segments.filterMap (·.name)).flatMap (groupNames constraint?) := by
  induction h with
  | nil k => rfl
  | @cons s rest k v vs hs _ ih =>
    rw [List.flatMap_cons, List.map_append, hs.map_fst_names, ih]
    cases hname : s.name with
    | none => rw [List.filterMap_cons_none hname]; rfl
    | some name => rw [List.filterMap_cons_some hname, List.flatMap_cons]; simp

/-- The expression of a segment can be read as far as its text is concerned: a constraint is an
expression that can be put in parentheses, and its text is not too high. -/
structure Readable (constraint? : Text → Option Text) (s : Segment) : Prop where
  /-- The literal text is escaped, and the value is a group. -/
  shaped : s.Shaped
  /-- The value has the constraint of its parameter. -/
  built : s.BuiltBy constraint?
  /-- A constraint is an expression. -/
  parsed : ∀ name constraint, s.name = some name → constraint? name = some constraint →
    ∃ parsed, parse pathFlags constraint = .ok parsed
  /-- A constraint can be put in parentheses. -/
  enclosable : ∀ name constraint, s.name = some name → constraint? name = some constraint →
    Enclosable pathFlags constraint
  /-- A constraint leaves room for the groups around it. -/
  room : ∀ name constraint, s.name = some name → constraint? name = some constraint →
    textHeight pathFlags constraint + 4 ≤ nestingLimit

/-- The text of a value is read if the names of its groups are new. -/
theorem Readable.reads_value (h : s.Readable constraint?) {r : Reading}
    (hf : r.flags = pathFlags)
    (hnew : (r.names.map Prod.fst ++ s.name.toList.flatMap (groupNames constraint?)).Nodup)
    (rest : Text) :
    ∃ r' v, Reads r (s.pattern ++ rest) r' rest ∧
      r.Extends (nestingLimit - 1) r' v.exprs v.names ∧ r'.nextIndex = v.nextIndex ∧
      ReadBy constraint? s r.nextIndex v := by
  cases hname : s.name with
  | none =>
    have hplain : s.plainRead r.nextIndex = ⟨literalExprs (unescape s.pattern), [], r.nextIndex⟩ := by
      unfold plainRead
      rw [hname]
    obtain ⟨r', hreads, hext, hnext⟩ :=
      reads_literal (nestingLimit - 1) (h.shaped.literal hname) hf rest
    refine ⟨r', s.plainRead r.nextIndex, hreads, ?_, ?_, .plain fun name hname' => ?_⟩
    · rw [hplain]
      exact hext
    · rw [hplain]
      exact hnext
    · rw [hname] at hname'
      cases hname'
  | some name =>
    have hgroup := (h.shaped.group name hname).1
    have hpattern := h.built name hname
    rw [hname] at hnew
    dsimp only [Option.toList] at hnew
    rw [List.flatMap_singleton] at hnew
    unfold groupNames at hnew
    have hfresh : name ∉ r.names.map Prod.fst := fun hmem =>
      (List.nodup_append.mp hnew).2.2 name hmem name List.mem_cons_self rfl
    cases hconstraint : constraint? name with
    | none =>
      rw [hconstraint] at hpattern
      dsimp only at hpattern
      rw [hpattern]
      obtain ⟨r', hreads, hext, hnext⟩ := reads_capture hgroup s.isOptional
        (show 3 ≤ nestingLimit - 1 by decide) hf hfresh rest
      have hplain : s.plainRead r.nextIndex =
          ⟨[.group r.nextIndex (plainValue s.isOptional)], [(name, r.nextIndex)], r.nextIndex + 1⟩ := by
        unfold plainRead
        rw [hname]
      refine ⟨r', s.plainRead r.nextIndex, hreads, ?_, ?_, .plain fun name' hname' => ?_⟩
      · rw [hplain]
        exact hext
      · rw [hplain]
        exact hnext
      · rw [hname, Option.some.injEq] at hname'
        rw [← hname']
        exact hconstraint
    | some constraint =>
      obtain ⟨parsed, hparsed⟩ := h.parsed name constraint hname hconstraint
      have hroom := h.room name constraint hname hconstraint
      rw [hconstraint] at hpattern hnew
      dsimp only at hpattern hnew
      rw [hparsed] at hnew
      have happart : NamesApart parsed.names ((name, r.nextIndex) :: r.names) := by
        intro n hn m hm heq
        obtain ⟨-, hgroups, hdisjoint⟩ := List.nodup_append.mp hnew
        have hmem : n.1 ∈ parsed.names.map Prod.fst := List.mem_map_of_mem hn
        rcases List.mem_cons.mp hm with rfl | hm
        · refine (List.nodup_cons.mp hgroups).1 ?_
          rw [heq] at hmem
          exact hmem
        · exact hdisjoint m.1 (List.mem_map_of_mem hm) n.1 (List.mem_cons_of_mem _ hmem) heq.symm
      rw [hpattern]
      obtain ⟨r', next, hreads, hext, hindex, hnext, hgroups⟩ := reads_constrained hgroup hparsed
        (h.enclosable name constraint hname hconstraint) s.isOptional hf rest
        (.inr ⟨hfresh, happart, show _ ≤ nestingLimit - 1 by omega, Nat.sub_le _ _⟩)
      exact ⟨r', _, hreads, hext, hindex, .constrained hname hconstraint hparsed hnext hgroups⟩

/-- The text of a row of segments is read if no two of its groups have the same name. -/
theorem reads_row_of_readable (hs : ∀ s ∈ segments, s.Readable constraint?) {r : Reading}
    (hf : r.flags = pathFlags)
    (hnew : (r.names.map Prod.fst ++
      (segments.filterMap (·.name)).flatMap (groupNames constraint?)).Nodup)
    {rest : Text} (hrest : rest.head? ≠ some '?') :
    ∃ r' vs, Reads r (segments.flatMap Segment.expression ++ rest) r' rest ∧
      r.Extends (nestingLimit - 1) r' (rowExprs segments vs) (vs.flatMap (·.names)) := by
  induction segments generalizing r with
  | nil => exact ⟨r, [], .refl r rest, .refl r⟩
  | cons s segments ih =>
    obtain ⟨hsHead, hs⟩ := List.forall_mem_cons.mp hs
    have hsplit : ((s :: segments).filterMap (·.name)).flatMap (groupNames constraint?) =
        s.name.toList.flatMap (groupNames constraint?) ++
          (segments.filterMap (·.name)).flatMap (groupNames constraint?) := by
      cases hname : s.name with
      | none => rw [List.filterMap_cons_none hname]; rfl
      | some name => rw [List.filterMap_cons_some hname, List.flatMap_cons]; simp
    rw [hsplit, ← List.append_assoc] at hnew
    rw [List.flatMap_cons, List.append_assoc]
    obtain ⟨r1, v, h1, hext1, -, hread⟩ := reads_segment_of_value (ReadBy constraint?)
      hsHead.shaped (show 3 ≤ nestingLimit - 1 by decide) hf
      (head?_flatMap_expression_ne (fun d hd => (hs d hd).shaped) hrest) fun r1 _ hf1 hnames _ =>
        hsHead.reads_value hf1 (by rw [hnames]; exact (List.nodup_append.mp hnew).1) _
    obtain ⟨r2, vs, h2, hext2⟩ := ih hs (hext1.flags.trans hf) (by
      rw [hext1.names, List.map_append, List.map_reverse, hread.map_fst_names]
      refine (List.Perm.nodup_iff ?_).mp hnew
      exact ((List.perm_append_comm).trans ((List.reverse_perm _).symm.append_right _)).append_right _)
    exact ⟨r2, v :: vs, h1.trans h2, hext1.trans hext2⟩

end Segment

/-- The expression of a row of segments can be read if no two of its groups have the same name. -/
theorem exists_parse_joinedPattern {constraint? : Text → Option Text} {segments : List Segment}
    (hs : ∀ s ∈ segments, s.Readable constraint?)
    (hnew : ((segments.filterMap (·.name)).flatMap (groupNames constraint?)).Nodup) :
    ∃ parsed, parse pathFlags (Segment.joinedPattern segments) = .ok parsed := by
  have hstart : Reads (.start pathFlags) (Segment.joinedPattern segments)
      ((Reading.start pathFlags).push [.of (.look .textStart) 0])
      (segments.flatMap Segment.expression ++ ['$']) := .char rfl rfl
  obtain ⟨r1, vs, h1, hext1⟩ := Segment.reads_row_of_readable hs
    (r := (Reading.start pathFlags).push [.of (.look .textStart) 0]) rfl hnew
    (show ['$'].head? ≠ some '?' by simp)
  have hend := reads_end hext1.flags
  have hext := ((Reading.extends_push_of (.start pathFlags) (.look .textStart) (Nat.zero_le _)).trans
    hext1).trans (r1.extends_push_of (.look .textEnd) (Nat.zero_le _))
  exact ⟨_, (hstart.trans (h1.trans hend)).parse_eq hext.outer (hext.height_whole rfl)⟩

end PathRouting
