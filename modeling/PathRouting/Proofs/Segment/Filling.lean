import PathRouting.Proofs.Segment.Separated
import PathRouting.Proofs.Template.Substitution

/-!
# Cutting a path that was made by filling gaps

Of a path that is made of texts for the parameters, every segment that stands for whole components
can take what was made of them. No other cut comes before this one in the greedy order, as every
share ends with a component.
-/

namespace PathRouting

/-- What a segment takes of a path that is made of texts for the parameters. -/
def Segment.filled (assign : Text → Text) (slash : Bool) (s : Segment) : Share where
  before := Regex.unescape s.before
  value := s.name.elim (Regex.unescape s.pattern) fun name => Percent.encode (assign name)
  after := Regex.unescape s.after
  slash := slash

/-- What the segments of a row take of a path that is made of texts for the parameters. A slash
follows each of them but the last one. -/
def filledShares (assign : Text → Text) : List Segment → List Share
  | [] => []
  | s :: rest => s.filled assign (!rest.isEmpty) :: filledShares assign rest

/-- The path that is made of texts for the parameters of a row of segments. -/
def filledPath (assign : Text → Text) (segments : List Segment) : Text :=
  (filledShares assign segments).flatMap Share.text

section

variable {assign : Text → Text} {isOptional : Text → Bool} {s : Segment} {slash : Bool}

/-- What is made of texts that are not empty is what the segment can own. -/
theorem Segment.owns_filled (slash : Bool)
    (hassign : ∀ name, s.name = some name → assign name ≠ []) :
    s.Owns (s.filled assign slash) where
  before := rfl
  literal hname := by
    unfold filled
    rw [hname]
    rfl
  value hname := by
    obtain ⟨name, hname⟩ := Option.ne_none_iff_exists'.mp hname
    unfold filled
    rw [hname]
    exact ⟨Percent.slash_notMem_encode _, fun _ hnil =>
      hassign name hname (Percent.encode_eq_nil_iff.mp hnil)⟩
  after := rfl

/-- A segment takes the filled components that it stands for. -/
theorem Segment.splitOn_own_filled (hs : s.Whole isOptional)
    (hassign : ∀ name, s.name = some name → assign name ≠ []) :
    (s.filled assign slash).own.splitOn '/' = s.components.map (Component.fill assign) := by
  cases hname : s.name with
  | none =>
    obtain ⟨hbefore, hafter, -⟩ := hs.literal hname
    have hown : (s.filled assign slash).own = Regex.unescape s.pattern := by
      unfold Share.own filled
      rw [hbefore, hafter, hname]
      simp
    have hfill : Component.fill assign ∘ Component.literal = id := by
      funext text
      simp [Component.fill, Component.literal]
    unfold components
    rw [hown, hname]
    dsimp only
    rw [List.map_map, hfill, List.map_id]
  | some name =>
    have howns := owns_filled slash hassign
    have hslash := slash_notMem_own hs howns.before howns.after
      (howns.value (by rw [hname]; exact Option.some_ne_none _)).1
    unfold components
    rw [List.splitOn_eq_singleton hslash, hname]
    unfold Share.own filled
    rw [hname]
    rfl

end

section

variable {assign : Text → Text} {isOptional : Text → Bool} {segments : List Segment}

/-- A path is made segment by segment. -/
theorem filledPath_cons (s : Segment) (rest : List Segment) :
    filledPath assign (s :: rest) =
      (s.filled assign (!rest.isEmpty)).text ++ filledPath assign rest :=
  List.flatMap_cons

/-- A path is made of what the segments have for themselves, with slashes between them. -/
theorem filledPath_eq_intercalate (segments : List Segment) : filledPath assign segments =
    ['/'].intercalate (segments.map fun s => (s.filled assign false).own) := by
  induction segments with
  | nil => rfl
  | cons s rest ih =>
    rw [filledPath_cons, ih, List.map_cons]
    cases rest with
    | nil =>
      have htext : (s.filled assign false).text = (s.filled assign false).own := List.append_nil _
      exact (List.append_nil _).trans (htext.trans List.intercalate_singleton.symm)
    | cons d rest =>
      rw [List.map_cons, List.intercalate_cons_cons]
      rfl

/-- The path that is made of texts for the parameters is made of filled components. -/
theorem splitOn_filledPath (hne : segments ≠ []) (hwhole : ∀ s ∈ segments, s.Whole isOptional)
    (hassign : ∀ s ∈ segments, ∀ name, s.name = some name → assign name ≠ []) :
    (filledPath assign segments).splitOn '/' =
      (segments.flatMap Segment.components).map (Component.fill assign) := by
  induction segments with
  | nil => exact absurd rfl hne
  | cons s rest ih =>
    obtain ⟨hs, hwhole⟩ := List.forall_mem_cons.mp hwhole
    obtain ⟨hsAssign, hassign⟩ := List.forall_mem_cons.mp hassign
    have hown : ∀ slash, (s.filled assign slash).own.splitOn '/' = _ := fun slash =>
      Segment.splitOn_own_filled hs hsAssign
    rw [filledPath_cons, List.flatMap_cons, List.map_append]
    cases rest with
    | nil =>
      have htext : (s.filled assign false).text = (s.filled assign false).own := List.append_nil _
      have hnil : filledPath assign [] = [] := rfl
      rw [List.isEmpty_nil, Bool.not_true, htext, hnil, List.append_nil, hown, List.flatMap_nil,
        List.map_nil, List.append_nil]
    | cons d rest =>
      have htext : (s.filled assign true).text ++ filledPath assign (d :: rest) =
          (s.filled assign true).own ++ '/' :: filledPath assign (d :: rest) := by
        rw [Share.text, Share.own]
        exact List.append_assoc ..
      rw [List.isEmpty_cons, Bool.not_false, htext, List.splitOn_append_cons_self, hown,
        ih (List.cons_ne_nil _ _) hwhole hassign]

end

section

variable {assign : Text → Text} {isOptional : Text → Bool} {front back : List Segment}

/-- A path that is made of texts for the parameters of the first segments of a row can be cut into
what was made for each of these, if the parameters of the others may be absent. -/
theorem isCut_filledShares_append (hmarked : Segment.Marked (front ++ back))
    (hwhole : ∀ s ∈ front ++ back, s.Whole isOptional)
    (hassign : ∀ s ∈ front, ∀ name, s.name = some name → assign name ≠ [])
    (hopt : ∀ s ∈ back, s.isOptional = true) (hbare : ∀ s ∈ back, s.Bare) :
    IsCut Segment.PlainValue (front ++ back)
      (filledShares assign front ++ back.map fun _ => Segment.absent) (filledPath assign front) := by
  induction front with
  | nil => exact mem_cuts.mp (List.mem_of_mem_head? (head?_cuts_nil hwhole hopt hbare))
  | cons s front ih =>
    obtain ⟨hlast, hrest, hmarked⟩ := hmarked
    obtain ⟨hs, hwhole⟩ := List.forall_mem_cons.mp hwhole
    obtain ⟨hsAssign, hassign⟩ := List.forall_mem_cons.mp hassign
    have hcut := ih hmarked hwhole hassign
    rw [filledPath_cons]
    have howns := Segment.owns_filled (!front.isEmpty) hsAssign
    refine ⟨_, rfl, ⟨howns.before, howns.literal, howns.value, howns.after, ?_⟩, hcut⟩
    change s.Separates (!front.isEmpty) _
    unfold Segment.Separates
    rw [hs.isGlued, if_neg Bool.false_ne_true, hlast, hrest]
    cases front with
    | nil =>
      -- No slash is left behind the last text, which takes all of the path.
      have hall : back.all (·.isOptional) = true := List.all_eq_true.mpr hopt
      have hpath : filledPath assign [] = [] := rfl
      change if (!s.isOptional && !back.isEmpty && !(!back.isEmpty && back.all (·.isOptional))) = true
        then _ else _
      rw [hall]
      cases back with
      | nil => simp
      | cons d back => simp [hpath]
    | cons d front => simp

/-- What absent parameters take ends with a component. -/
theorem separated_absent : Separated (back.map fun _ => Segment.absent) := by
  induction back with
  | nil => trivial
  | cons s back ih =>
    refine ⟨.inr ?_, ih⟩
    rw [List.flatMap_map, List.flatMap_eq_nil_iff]
    exact fun _ _ => rfl

/-- What was made for each of the first segments ends with a component. -/
theorem separated_filledShares_append :
    Separated (filledShares assign front ++ back.map fun _ => Segment.absent) := by
  induction front with
  | nil => exact separated_absent
  | cons s front ih =>
    refine ⟨?_, ih⟩
    cases front with
    | nil =>
      right
      change (back.map fun _ => Segment.absent).flatMap Share.text = []
      rw [List.flatMap_map, List.flatMap_eq_nil_iff]
      exact fun _ _ => rfl
    | cons d front => exact .inl rfl

/-- No other cut of the path comes before the one into what was made for each of the first
segments. -/
theorem head?_cuts_filledPath_append (hmarked : Segment.Marked (front ++ back))
    (hwhole : ∀ s ∈ front ++ back, s.Whole isOptional)
    (hassign : ∀ s ∈ front, ∀ name, s.name = some name → assign name ≠ [])
    (hopt : ∀ s ∈ back, s.isOptional = true) (hbare : ∀ s ∈ back, s.Bare) :
    (cuts (front ++ back) (filledPath assign front)).head? =
      some (filledShares assign front ++ back.map fun _ => Segment.absent) :=
  head?_cuts_of_separated hwhole (isCut_filledShares_append hmarked hwhole hassign hopt hbare)
    separated_filledShares_append

/-- Nothing is left for absent parameters. -/
theorem captured_absent : captured back (back.map fun _ => Segment.absent) =
    (back.filterMap (·.name)).map (·, []) := by
  induction back with
  | nil => rfl
  | cons s back ih =>
    rw [List.map_cons, captured_cons, ih, List.filterMap_cons]
    cases s.name with
    | none => rfl
    | some name => rfl

/-- What was made for the first segments gives their parameters the encoded texts and leaves nothing
for the others. -/
theorem captured_filledShares_append :
    captured (front ++ back) (filledShares assign front ++ back.map fun _ => Segment.absent) =
      ((front.filterMap (·.name)).map fun name => (name, Percent.encode (assign name))) ++
        (back.filterMap (·.name)).map (·, []) := by
  induction front with
  | nil => exact captured_absent
  | cons s front ih =>
    rw [List.cons_append, filledShares, List.cons_append, captured_cons, ih, List.filterMap_cons]
    unfold Segment.filled
    cases s.name with
    | none => rfl
    | some name => rfl

end

section

variable {assign : Text → Text} {isOptional : Text → Bool} {segments : List Segment}

/-- No other cut of a path that is made of texts for all parameters comes before the one into what was
made for each segment. -/
theorem head?_cuts_filledPath (hmarked : Segment.Marked segments)
    (hwhole : ∀ s ∈ segments, s.Whole isOptional)
    (hassign : ∀ s ∈ segments, ∀ name, s.name = some name → assign name ≠ []) :
    (cuts segments (filledPath assign segments)).head? = some (filledShares assign segments) := by
  rw [← List.append_nil segments] at hmarked hwhole
  have hcut := head?_cuts_filledPath_append hmarked hwhole hassign nofun nofun
  rwa [List.append_nil, List.map_nil, List.append_nil] at hcut

/-- What was made for the segments gives the parameters their encoded texts. -/
theorem captured_filledShares : captured segments (filledShares assign segments) =
    (segments.filterMap (·.name)).map fun name => (name, Percent.encode (assign name)) := by
  have hcaptured : captured (segments ++ [])
      (filledShares assign segments ++ ([] : List Segment).map fun _ => Segment.absent) = _ :=
    captured_filledShares_append
  rwa [List.append_nil, List.map_nil, List.append_nil, List.filterMap_nil, List.map_nil,
    List.append_nil] at hcaptured

end

end PathRouting
