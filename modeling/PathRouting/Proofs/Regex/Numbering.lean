import PathRouting.Proofs.Regex.Semantics
import PathRouting.Proofs.Regex.Token

/-!
# The numbers and names of groups

Groups are numbered in the order in which they are opened, from one on, and no name is given twice.
Joining expressions adds no groups.
-/

namespace PathRouting.Regex

namespace Expr

variable {g : Nat}

/-- Expressions that are joined one by one have the groups of all. -/
theorem groups_eq_flatMap {join : List Expr → Expr} (hnil : (join []).groups = [])
    (hone : ∀ e, join [e] = e) (hcons : ∀ e d rest,
      (join (e :: d :: rest)).groups = e.groups ++ (join (d :: rest)).groups) (es : List Expr) :
    (join es).groups = es.flatMap groups := by
  induction es with
  | nil => exact hnil
  | cons e rest ih =>
    cases rest with
    | nil => rw [hone, List.flatMap_singleton]
    | cons d rest => rw [hcons, ih, ← List.flatMap_cons]

/-- A sequence has the groups of its parts. -/
theorem groups_sequence (es : List Expr) : (sequence es).groups = es.flatMap groups :=
  groups_eq_flatMap rfl (fun _ => rfl) (fun _ _ _ => rfl) es

/-- Branches together have the groups of each. -/
theorem groups_branches (es : List Expr) : (branches es).groups = es.flatMap groups :=
  groups_eq_flatMap rfl (fun _ => rfl) (fun _ _ _ => rfl) es

/-- A concatenation has no groups but those of its parts. -/
theorem exists_of_mem_groups_concat {es : List Expr} (h : g ∈ (concat es).groups) :
    ∃ e ∈ es, g ∈ e.groups := by
  rw [concat, groups_sequence, List.mem_flatMap] at h
  obtain ⟨e, he, hg⟩ := h
  exact ⟨e, List.mem_of_mem_filter he, hg⟩

/-- The parts that an expression matches in turn have no groups but its own. -/
theorem mem_groups_of_mem_factors {e d : Expr} (hd : d ∈ e.factors) (h : g ∈ d.groups) :
    g ∈ e.groups := by
  induction e with
  | empty => exact absurd hd List.not_mem_nil
  | seq a b iha ihb =>
    rcases List.mem_append.mp hd with hd | hd
    · exact List.mem_append_left _ (iha hd)
    · exact List.mem_append_right _ (ihb hd)
  | set s => rwa [List.mem_singleton.mp hd] at h
  | look l => rwa [List.mem_singleton.mp hd] at h
  | alt a b => rwa [List.mem_singleton.mp hd] at h
  | loop min max greedy e => rwa [List.mem_singleton.mp hd] at h
  | group index e => rwa [List.mem_singleton.mp hd] at h

/-- What two lists share at their starts is part of the first one. -/
theorem mem_of_mem_sharedStart {as bs : List Expr} {e : Expr} (h : e ∈ sharedStart as bs) :
    e ∈ as := by
  induction as generalizing bs with
  | nil => exact absurd h List.not_mem_nil
  | cons a as ih =>
    cases bs with
    | nil => exact absurd h List.not_mem_nil
    | cons b bs =>
      unfold sharedStart at h
      split at h
      · rcases List.mem_cons.mp h with rfl | h
        · exact List.mem_cons_self
        · exact List.mem_cons_of_mem a (ih h)
      · exact absurd h List.not_mem_nil

/-- What several lists share at their starts is part of the first one. -/
theorem mem_of_mem_foldl_sharedStart {first : List Expr} (rest : List (List Expr)) {e : Expr}
    (h : e ∈ rest.foldl sharedStart first) : e ∈ first := by
  induction rest generalizing first with
  | nil => exact h
  | cons second rest ih => exact mem_of_mem_sharedStart (ih h)

/-- A choice has no groups but those of its branches, also where these share a start. -/
theorem exists_of_mem_groups_oneOf {es : List Expr} (h : g ∈ (oneOf es).groups) :
    ∃ e ∈ es, g ∈ e.groups := by
  have hfactor : ∀ parts ∈ es.map factors, ∀ d ∈ parts, g ∈ d.groups → ∃ e ∈ es, g ∈ e.groups := by
    intro parts hparts d hd hg
    obtain ⟨e, he, rfl⟩ := List.mem_map.mp hparts
    exact ⟨e, he, mem_groups_of_mem_factors hd hg⟩
  unfold oneOf at h
  split at h
  · rename_i first second rest hall
    dsimp only at h
    split at h
    · obtain ⟨d, hd, hg⟩ := exists_of_mem_groups_concat h
      rcases List.mem_append.mp hd with hd | hd
      · refine hfactor first ?_ d (mem_of_mem_foldl_sharedStart (second :: rest) hd) hg
        rw [hall]
        exact List.mem_cons_self
      · rw [List.mem_singleton.mp hd] at hg
        rw [groups_branches, List.mem_flatMap] at hg
        obtain ⟨e, he, hg⟩ := hg
        obtain ⟨parts, hparts, rfl⟩ := List.mem_map.mp he
        obtain ⟨d', hd', hg⟩ := exists_of_mem_groups_concat hg
        exact hfactor parts (hall ▸ hparts) d' (List.mem_of_mem_drop hd') hg
    · exact List.mem_flatMap.mp (groups_branches es ▸ h)
  · exact List.mem_flatMap.mp (groups_branches es ▸ h)

/-- A repetition has no groups but those of what it repeats. -/
theorem mem_groups_of_mem_groups_repeated {min : Nat} {max : Option Nat} {greedy : Bool} {e : Expr}
    (h : g ∈ (repeated min max greedy e).groups) : g ∈ e.groups := by
  unfold repeated at h
  generalize (if e.takesNothing = true then (Nat.min min 1, some (Nat.min (max.getD 1) 1))
    else (min, max)) = bounds at h
  dsimp only at h
  split at h
  · exact absurd h List.not_mem_nil
  · split at h
    · exact h
    · exact h

end Expr

/-- The numbers of the groups of a level. -/
def Level.groups (l : Level) : List Nat :=
  l.branches.flatMap (·.1.groups) ++ l.pieces.flatMap (·.expr.groups)

namespace Level

variable {g : Nat} {l : Level}

/-- A level with one more piece. -/
theorem mem_groups_add {p : Piece} : g ∈ (l.add p).groups ↔ g ∈ p.expr.groups ∨ g ∈ l.groups := by
  unfold groups add
  rw [List.flatMap_cons, List.mem_append, List.mem_append, List.mem_append]
  tauto

/-- The current branch has no groups but those of its level. -/
theorem mem_groups_of_mem_branch (h : g ∈ l.branch.1.groups) :
    g ∈ l.pieces.flatMap (·.expr.groups) := by
  unfold branch at h
  split at h
  · exact absurd h List.not_mem_nil
  · rename_i p hp
    rw [hp, List.flatMap_singleton]
    exact h
  · obtain ⟨e, he, hg⟩ := Expr.exists_of_mem_groups_concat h
    obtain ⟨p, hp, rfl⟩ := List.mem_map.mp he
    exact List.mem_flatMap_of_mem (List.mem_reverse.mp hp) hg

/-- A level after a bar has no groups but those before. -/
theorem mem_groups_of_mem_nextBranch (h : g ∈ l.nextBranch.groups) : g ∈ l.groups := by
  unfold nextBranch groups at h
  rw [List.flatMap_cons, List.flatMap_nil, List.append_nil] at h
  rcases List.mem_append.mp h with h | h
  · exact List.mem_append_right _ (mem_groups_of_mem_branch h)
  · exact List.mem_append_left _ h

/-- All of a level has no groups but those of the level. -/
theorem mem_groups_of_mem_whole (h : g ∈ l.whole.1.groups) : g ∈ l.groups := by
  unfold whole at h
  split at h
  · exact List.mem_append_right _ (mem_groups_of_mem_branch h)
  · obtain ⟨e, he, hg⟩ := Expr.exists_of_mem_groups_oneOf h
    obtain ⟨b, hb, rfl⟩ := List.mem_map.mp he
    rcases List.mem_cons.mp (List.mem_reverse.mp hb) with rfl | hb
    · exact List.mem_append_right _ (mem_groups_of_mem_branch hg)
    · exact List.mem_append_left _ (List.mem_flatMap_of_mem hb hg)

end Level

/-- The groups of a state of reading are numbered from one on, below the number of the next one, and
no two have the same name. -/
structure Reading.Numbered (r : Reading) : Prop where
  /-- Numbers start with one. -/
  pos : 0 < r.nextIndex
  /-- The groups of the innermost open group have numbers that have been given. -/
  level : ∀ g ∈ r.level.groups, 0 < g ∧ g < r.nextIndex
  /-- So do the groups around it, and those that are laid aside. -/
  outer : ∀ f ∈ r.outer, ∀ g, g ∈ f.level.groups ∨ g ∈ f.index → 0 < g ∧ g < r.nextIndex
  /-- No name is given twice. -/
  names : (r.names.map Prod.fst).Nodup

namespace Reading.Numbered

variable {r r' : Reading}

/-- Nothing has been read. -/
theorem start (f : Flags) : (Reading.start f).Numbered where
  pos := Nat.one_pos
  level _ hg := absurd hg List.not_mem_nil
  outer _ hf := absurd hf List.not_mem_nil
  names := List.nodup_nil

/-- Adding a piece without groups of its own. -/
theorem add (hr : r.Numbered) {e : Expr} (he : ∀ g ∈ e.groups, 0 < g ∧ g < r.nextIndex) {height : Nat}
    (h : r.add e height = .ok r') : r'.Numbered := by
  unfold Reading.add at h
  split at h
  · cases h
  · cases h
    refine ⟨hr.pos, fun g hg => ?_, hr.outer, hr.names⟩
    rcases Level.mem_groups_add.mp hg with hg | hg
    · exact he g hg
    · exact hr.level g hg

/-- Adding a piece of height zero without groups. -/
theorem addFlat (hr : r.Numbered) {e : Expr} (he : e.groups = []) : (r.addFlat e).Numbered := by
  refine ⟨hr.pos, fun g hg => ?_, hr.outer, hr.names⟩
  rcases Level.mem_groups_add.mp hg with hg | hg
  · change g ∈ e.groups at hg
    rw [he] at hg
    exact absurd hg List.not_mem_nil
  · exact hr.level g hg

/-- Opening a group that does not remember. -/
theorem openGroup (hr : r.Numbered) (flags : Flags) : (r.openGroup flags none).Numbered := by
  refine ⟨hr.pos, fun g hg => absurd hg List.not_mem_nil, fun f hf g hg => ?_, hr.names⟩
  rcases List.mem_cons.mp hf with rfl | hf
  · exact hr.level g (hg.resolve_right (by simp))
  · exact hr.outer f hf g hg

/-- Opening a group that remembers. -/
theorem openCapture (hr : r.Numbered) {name : Option Text} (h : r.openCapture name = .ok r') :
    r'.Numbered := by
  have hopened : ∀ names : List (Text × Nat), (names.map Prod.fst).Nodup →
      Reading.Numbered { r.openGroup r.flags (some r.nextIndex) with
        nextIndex := r.nextIndex + 1, names } := by
    intro names hnames
    refine ⟨Nat.succ_pos _, fun g hg => absurd hg List.not_mem_nil, fun f hf g hg => ?_, hnames⟩
    have hpos := hr.pos
    rcases List.mem_cons.mp hf with rfl | hf
    · rcases hg with hg | hg
      · have := hr.level g hg
        dsimp only
        omega
      · cases hg
        dsimp only
        omega
    · have := hr.outer f hf g hg
      dsimp only
      omega
  cases name with
  | none =>
    cases h
    exact hopened r.names hr.names
  | some name =>
    unfold Reading.openCapture at h
    dsimp only at h
    split at h
    · cases h
    · rename_i hnew
      cases h
      refine hopened _ ?_
      rw [List.map_cons, List.nodup_cons]
      refine ⟨fun hmem => hnew ?_, hr.names⟩
      obtain ⟨n, hn, heq⟩ := List.mem_map.mp hmem
      exact List.any_eq_true.mpr ⟨n, hn, beq_iff_eq.mpr heq⟩

/-- Closing a group. -/
theorem closeGroup (hr : r.Numbered) (h : r.closeGroup = .ok r') : r'.Numbered := by
  unfold Reading.closeGroup at h
  split at h
  · cases h
  · rename_i frame outer houter
    have hframe := hr.outer frame (by rw [houter]; exact List.mem_cons_self)
    have hwhole : ∀ g ∈ r.level.whole.1.groups, 0 < g ∧ g < r.nextIndex := fun g hg =>
      hr.level g (Level.mem_groups_of_mem_whole hg)
    have hclosed : Reading.Numbered
        { r with flags := frame.flags, level := frame.level, outer := outer } :=
      ⟨hr.pos, fun g hg => hframe g (.inl hg),
        fun f hf => hr.outer f (by rw [houter]; exact List.mem_cons_of_mem _ hf), hr.names⟩
    refine hclosed.add ?_ h
    cases hindex : frame.index with
    | none => exact hwhole
    | some index =>
      intro g hg
      rcases List.mem_cons.mp hg with rfl | hg
      · exact hframe g (.inr hindex)
      · exact hwhole g hg

/-- Repeating the last piece. -/
theorem repeatLast (hr : r.Numbered) {min : Nat} {max : Option Nat} {greedy : Bool}
    (h : r.repeatLast min max greedy = .ok r') : r'.Numbered := by
  unfold Reading.repeatLast at h
  split at h
  · cases h
  · rename_i p pieces hpieces
    split at h
    · cases h
    · have hpiece : ∀ g, g ∈ p.expr.groups ∨ g ∈ Level.groups { r.level with pieces := pieces } →
          0 < g ∧ g < r.nextIndex := by
        intro g hg
        refine hr.level g ?_
        have hadd : r.level = Level.add { r.level with pieces := pieces } p := by
          unfold Level.add
          rw [← hpieces]
        rw [hadd]
        exact Level.mem_groups_add.mpr hg
      have hrest : Reading.Numbered { r with level := { r.level with pieces := pieces } } :=
        ⟨hr.pos, fun g hg => hpiece g (.inr hg), hr.outer, hr.names⟩
      exact hrest.add (fun g hg => hpiece g (.inl (Expr.mem_groups_of_mem_groups_repeated hg))) h

/-- Adding what an escape sequence stands for. -/
theorem addPrimitive (hr : r.Numbered) {p : Primitive} (h : r.addPrimitive p = .ok r') :
    r'.Numbered := by
  cases p with
  | char c isByte =>
    obtain ⟨c', -, h⟩ := bind_eq_ok h
    cases h
    exact hr.addFlat rfl
  | set s =>
    cases h
    exact hr.addFlat rfl
  | look l =>
    cases h
    exact hr.addFlat rfl

/-- Adding a token. -/
theorem take (hr : r.Numbered) {token : Token} (h : r.take token = .ok r') : r'.Numbered := by
  cases token with
  | capture name => exact hr.openCapture h
  | flagged flags =>
    cases h
    exact hr.openGroup flags
  | switch flags =>
    cases h
    exact ⟨hr.pos, (hr.addFlat rfl).level, hr.outer, hr.names⟩
  | close => exact hr.closeGroup h
  | bar =>
    cases h
    exact ⟨hr.pos, fun g hg => hr.level g (Level.mem_groups_of_mem_nextBranch hg), hr.outer,
      hr.names⟩
  | bracketed nested => exact hr.add (fun g hg => absurd hg List.not_mem_nil) h
  | primitive p => exact hr.addPrimitive h
  | repetition min max greedy => exact hr.repeatLast h

/-- Reading keeps the numbers in order. -/
theorem readParts (hr : r.Numbered) {fuel : Nat} {t : Text} {final : Reading}
    (h : readParts fuel r t = .ok final) : final.Numbered := by
  induction fuel generalizing r t with
  | zero => cases h
  | succ fuel ih =>
    rw [Regex.readParts] at h
    split at h
    · cases h
      exact hr
    · obtain ⟨⟨r', left⟩, hpart, h⟩ := bind_eq_ok h
      obtain ⟨token, -, htake⟩ := readPart_eq_ok.mp hpart
      exact ih (hr.take htake) h

end Reading.Numbered

end PathRouting.Regex
