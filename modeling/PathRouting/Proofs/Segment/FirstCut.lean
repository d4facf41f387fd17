import PathRouting.Proofs.Segment.Components

/-!
# The first cut into whole components

Where every segment stands for whole components and optional parameters come last, the first cut of
a path in the greedy order is the one that gives each component of the path to one component of the
template.
-/

namespace PathRouting

namespace Segment

/-- The marks of the borders of a row of segments are as they should be. -/
def Marked : List Segment → Prop
  | [] => True
  | s :: rest => s.isLast = rest.isEmpty ∧
      s.optionalRest = (!rest.isEmpty && rest.all (·.isOptional)) ∧ Marked rest

/-- The borders of segments without marks are marked as they should be. -/
theorem marked_markBorders {segments : List Segment}
    (h : ∀ s ∈ segments, s.isLast = false ∧ s.optionalRest = false) :
    Marked (markBorders segments) := by
  induction segments with
  | nil => trivial
  | cons s rest ih =>
    obtain ⟨⟨hlast, hoptional⟩, hrest⟩ := List.forall_mem_cons.mp h
    refine ⟨?_, ?_, ih hrest⟩
    · rw [hlast, isEmpty_markBorders, Bool.false_or]
    · rw [hoptional, isEmpty_markBorders, all_isOptional_markBorders, Bool.false_or]

/-- Escaping changes nothing about borders. -/
theorem Marked.map_escape {segments : List Segment} (h : Marked segments) :
    Marked (segments.map escape) := by
  induction segments with
  | nil => trivial
  | cons s rest ih =>
    obtain ⟨hlast, hoptional, hrest⟩ := h
    refine ⟨?_, ?_, ih hrest⟩
    · rw [List.isEmpty_map]
      exact hlast
    · rw [List.isEmpty_map, all_isOptional_map_escape]
      exact hoptional

/-- An optional parameter is a component of its own. -/
def Bare (s : Segment) : Prop :=
  s.isOptional = true → Regex.unescape s.before = [] ∧ Regex.unescape s.after = []

/-- What an absent parameter takes of a path. -/
def absent : Share :=
  ⟨[], [], [], false⟩

end Segment

/-- A path that does not end with a slash still does not if something is cut off in front. -/
theorem getLast?_ne_of_append {front back : Text} (h : (front ++ back).getLast? ≠ some '/') :
    back.getLast? ≠ some '/' := by
  intro hback
  refine h ?_
  rw [List.getLast?_append, hback]
  rfl

/-- A path that does not end with a slash still does not if a character is cut off in front. -/
theorem getLast?_ne_of_cons {c : Char} {back : Text} (h : (c :: back).getLast? ≠ some '/') :
    back.getLast? ≠ some '/' :=
  getLast?_ne_of_append (show ([c] ++ back).getLast? ≠ some '/' from h)

/-- The first values and the others. -/
theorem captured_cons (s : Segment) (segments : List Segment) (x : Share) (shares : List Share) :
    captured (s :: segments) (x :: shares) =
      (s.name.map (·, x.value)).toList ++ captured segments shares := by
  unfold captured
  rw [List.zip_cons_cons, List.filterMap_cons]
  dsimp only
  cases s.name with
  | none => rfl
  | some name => rfl

/-- The first cut starts with a share that leaves something to cut. -/
theorem exists_of_head?_cuts_cons {s : Segment} {segments : List Segment} {t : Text}
    {shares : List Share} (h : (cuts (s :: segments) t).head? = some shares) :
    ∃ x rest ys, shares = x :: ys ∧ (x, rest) ∈ s.shares t ∧
      (cuts segments rest).head? = some ys := by
  rw [cuts, List.head?_flatMap, List.findSome?_eq_some_iff] at h
  obtain ⟨before, ⟨x, rest⟩, after, hshares, hhead, -⟩ := h
  dsimp only at hhead
  rw [List.head?_map] at hhead
  obtain ⟨ys, hys, rfl⟩ := Option.map_eq_some_iff.mp hhead
  exact ⟨x, rest, ys, rfl, by rw [hshares]; simp, hys⟩

/-- The first value that can be taken is the whole component. -/
theorem exists_takeValue_eq_cons {component tail : Text} (hslash : '/' ∉ component)
    (htail : tail = [] ∨ tail.head? = some '/') :
    ∃ others, takeValue (component ++ tail) = (component, tail) :: others := by
  induction component with
  | nil =>
    cases tail with
    | nil => exact ⟨[], rfl⟩
    | cons c tail =>
      have hc : c = '/' := by simpa using htail
      subst hc
      exact ⟨[], rfl⟩
  | cons c component ih =>
    rw [List.mem_cons, not_or] at hslash
    obtain ⟨hc, hslash⟩ := hslash
    obtain ⟨others, hothers⟩ := ih hslash
    rw [List.cons_append, takeValue, if_neg (Ne.symm hc), hothers]
    exact ⟨_, rfl⟩

section

variable {s : Segment} {isOptional : Text → Bool}

/-- The first share that an optional parameter can take is the whole component with the slash behind
it. -/
theorem exists_shares_eq_cons (hs : s.Whole isOptional) (hopt : s.isOptional = true) (hbare : s.Bare)
    {component tail : Text} (hslash : '/' ∉ component)
    (htail : tail = [] ∨ tail.head? = some '/') :
    ∃ others, s.shares (component ++ tail) =
      (⟨[], component, [], !tail.isEmpty⟩, tail.tail) :: others := by
  obtain ⟨hbefore, hafter⟩ := hbare hopt
  obtain ⟨values, hvalues⟩ := exists_takeValue_eq_cons hslash htail
  obtain ⟨name, hname⟩ : ∃ name, s.name = some name := by
    cases hname : s.name with
    | none =>
      rw [(hs.literal hname).2.2] at hopt
      cases hopt
    | some name => exact ⟨name, rfl⟩
  have hown : s.takeOwn (component ++ tail) = (component, tail) :: values := by
    unfold Segment.takeOwn
    rw [hname]
    refine (List.filter_eq_self.mpr fun p _ => ?_).trans hvalues
    dsimp only
    rw [hopt, Bool.true_or]
  have hseparator : ∃ others, s.takeSeparator tail = (!tail.isEmpty, tail.tail) :: others := by
    unfold Segment.takeSeparator
    rw [hs.isGlued, hopt]
    rcases htail with rfl | htail
    · exact ⟨[], by simp [Segment.takeSlash]⟩
    · obtain ⟨rest, rfl⟩ := List.head?_eq_some_iff.mp htail
      exact ⟨[(false, '/' :: rest)], by simp [Segment.takeSlash]⟩
  obtain ⟨separators, hseparators⟩ := hseparator
  unfold Segment.shares
  rw [hbefore, takeLiteral, List.flatMap_singleton]
  dsimp only
  rw [hown, List.flatMap_cons]
  dsimp only
  rw [hafter, takeLiteral, List.flatMap_singleton]
  dsimp only
  rw [hseparators, List.map_cons, List.cons_append]
  exact ⟨_, rfl⟩

/-- What an optional parameter takes of the components of a path. -/
theorem captured?_optional_cons (hs : s.Whole isOptional) (hopt : s.isOptional = true)
    (more : List Component) (ts : List Text) :
    ∃ name, s.name = some name ∧ captured? isOptional (s.components ++ more) ts =
      (captured? isOptional more ts.tail).map ((name, ts.headD []) :: ·) := by
  cases hname : s.name with
  | none =>
    rw [(hs.literal hname).2.2] at hopt
    cases hopt
  | some name =>
    refine ⟨name, rfl, ?_⟩
    have hoptional : isOptional name = true := by rw [← hs.named name hname, hopt]
    unfold Segment.components
    rw [hname]
    dsimp only
    rw [List.singleton_append, captured?]
    cases ts with
    | nil =>
      rw [Component.take?]
      dsimp only
      rw [if_pos hoptional]
      cases hmore : captured? isOptional more [] <;> simp [hmore]
    | cons t ts =>
      rw [Component.take?]
      dsimp only
      rw [if_pos hoptional]
      cases hmore : captured? isOptional more ts <;> simp [hmore]

end

section

variable {segments : List Segment} {isOptional : Text → Bool}

/-- Of an empty path nothing is taken by optional parameters. -/
theorem head?_cuts_nil (hwhole : ∀ s ∈ segments, s.Whole isOptional)
    (hopt : ∀ s ∈ segments, s.isOptional = true) (hbare : ∀ s ∈ segments, s.Bare) :
    (cuts segments []).head? = some (segments.map fun _ => Segment.absent) := by
  induction segments with
  | nil => rfl
  | cons s rest ih =>
    obtain ⟨hs, hwhole⟩ := List.forall_mem_cons.mp hwhole
    obtain ⟨hsopt, hopt⟩ := List.forall_mem_cons.mp hopt
    obtain ⟨hsbare, hbare⟩ := List.forall_mem_cons.mp hbare
    obtain ⟨others, hshares⟩ := exists_shares_eq_cons hs hsopt hsbare
      (List.not_mem_nil : '/' ∉ []) (.inl rfl)
    rw [List.append_nil] at hshares
    rw [cuts, hshares, List.flatMap_cons, List.head?_append, List.head?_map]
    dsimp only
    rw [List.tail_nil, ih hwhole hopt hbare]
    rfl

/-- If no components of a path are left, optional parameters are absent. -/
theorem captured?_optional_nil (hwhole : ∀ s ∈ segments, s.Whole isOptional)
    (hopt : ∀ s ∈ segments, s.isOptional = true) :
    captured? isOptional (segments.flatMap Segment.components) [] =
      some (captured segments (segments.map fun _ => Segment.absent)) := by
  induction segments with
  | nil => rfl
  | cons s rest ih =>
    obtain ⟨hs, hwhole⟩ := List.forall_mem_cons.mp hwhole
    obtain ⟨hsopt, hopt⟩ := List.forall_mem_cons.mp hopt
    obtain ⟨name, hname, hcaptured⟩ := captured?_optional_cons hs hsopt
      (rest.flatMap Segment.components) []
    rw [List.flatMap_cons, hcaptured, List.tail_nil, ih hwhole hopt, List.map_cons, captured_cons,
      hname]
    rfl

/-- Optional parameters take as many components as there are of them. -/
theorem length_lt_of_captured?_optional (hwhole : ∀ s ∈ segments, s.Whole isOptional)
    (hopt : ∀ s ∈ segments, s.isOptional = true) {ts : List Text} :
    captured? isOptional (segments.flatMap Segment.components) ts = none ↔
      segments.length < ts.length := by
  induction segments generalizing ts with
  | nil => cases ts <;> simp [captured?]
  | cons s rest ih =>
    obtain ⟨hs, hwhole⟩ := List.forall_mem_cons.mp hwhole
    obtain ⟨hsopt, hopt⟩ := List.forall_mem_cons.mp hopt
    obtain ⟨name, -, hcaptured⟩ := captured?_optional_cons hs hsopt
      (rest.flatMap Segment.components) ts
    rw [List.flatMap_cons, hcaptured, Option.map_eq_none_iff, ih hwhole hopt, List.length_tail,
      List.length_cons]
    omega

/-- An optional parameter takes no slash but the one behind it. -/
theorem count_slash_text {s : Segment} (hs : s.Whole isOptional) (hopt : s.isOptional = true)
    (hbare : s.Bare) {x : Share} {rest : Text} (hx : s.Takes Segment.PlainValue x rest) :
    x.text.count '/' = if x.slash then 1 else 0 := by
  have hnamed : s.name ≠ none := by
    intro hname
    rw [(hs.literal hname).2.2] at hopt
    cases hopt
  have hvalue : x.value.count '/' = 0 := List.count_eq_zero.mpr (hx.value hnamed).1
  have hbefore := hx.before
  have hafter := hx.after
  rw [(hbare hopt).1, sameFolding_nil_iff] at hbefore
  rw [(hbare hopt).2, sameFolding_nil_iff] at hafter
  rw [Share.text, hbefore, hafter, List.nil_append, List.append_nil, List.count_append, hvalue]
  cases x.slash <;> rfl

/-- If no slash stands at its end, a path that is cut by optional parameters has fewer slashes than
there are parameters. -/
theorem count_slash_le_of_isCut {s : Segment} (hwhole : ∀ d ∈ s :: segments, d.Whole isOptional)
    (hopt : ∀ d ∈ s :: segments, d.isOptional = true) (hbare : ∀ d ∈ s :: segments, d.Bare)
    {shares : List Share} {t : Text} (hcut : IsCut Segment.PlainValue (s :: segments) shares t)
    (ht : t.getLast? ≠ some '/') : t.count '/' ≤ segments.length := by
  induction segments generalizing s shares t with
  | nil =>
    obtain ⟨x, shares, rest, rfl, rfl, htakes, hcut⟩ := isCut_cons_iff.mp hcut
    obtain ⟨rfl, rfl⟩ := isCut_nil_iff.mp hcut
    have hcount := count_slash_text (hwhole s List.mem_cons_self) (hopt s List.mem_cons_self)
      (hbare s List.mem_cons_self) htakes
    rw [List.append_nil] at ht ⊢
    cases hslash : x.slash with
    | true =>
      refine absurd ?_ ht
      rw [Share.text, hslash, if_pos rfl, List.getLast?_concat]
    | false =>
      rw [hcount, hslash]
      exact Nat.le_refl 0
  | cons d segments ih =>
    obtain ⟨x, shares, rest, rfl, rfl, htakes, hcut⟩ := isCut_cons_iff.mp hcut
    have hcount := count_slash_text (hwhole s List.mem_cons_self) (hopt s List.mem_cons_self)
      (hbare s List.mem_cons_self) htakes
    have hle := ih (fun e he => hwhole e (List.mem_cons_of_mem s he))
      (fun e he => hopt e (List.mem_cons_of_mem s he))
      (fun e he => hbare e (List.mem_cons_of_mem s he)) hcut (getLast?_ne_of_append ht)
    have hone : x.text.count '/' ≤ 1 := by
      rw [hcount]
      split <;> omega
    rw [List.count_append, List.length_cons]
    omega

/-- Optional parameters take the components of a path one by one. -/
theorem head?_cuts_optional (hne : segments ≠ []) (hwhole : ∀ s ∈ segments, s.Whole isOptional)
    (hopt : ∀ s ∈ segments, s.isOptional = true) (hbare : ∀ s ∈ segments, s.Bare) {t : Text}
    (ht : t.getLast? ≠ some '/') :
    (cuts segments t).head?.map (captured segments) =
      captured? isOptional (segments.flatMap Segment.components) (t.splitOn '/') := by
  induction segments generalizing t with
  | nil => exact absurd rfl hne
  | cons s rest ih =>
    have hall := And.intro hwhole (And.intro hopt hbare)
    obtain ⟨hs, hwhole⟩ := List.forall_mem_cons.mp hwhole
    obtain ⟨hsopt, hopt⟩ := List.forall_mem_cons.mp hopt
    obtain ⟨hsbare, hbare⟩ := List.forall_mem_cons.mp hbare
    obtain ⟨name, hname, hcaptured⟩ := captured?_optional_cons hs hsopt
      (rest.flatMap Segment.components) (t.splitOn '/')
    rw [List.flatMap_cons, hcaptured]
    cases hsplit : Text.splitFirst '/' t with
    | none =>
      have hslash := Text.notMem_of_splitFirst_eq_none hsplit
      obtain ⟨others, hshares⟩ := exists_shares_eq_cons hs hsopt hsbare hslash (.inl rfl)
      rw [List.append_nil] at hshares
      rw [List.splitOn_eq_singleton hslash, List.tail_cons, captured?_optional_nil hwhole hopt, cuts,
        hshares, List.flatMap_cons, List.head?_append, List.head?_map]
      dsimp only
      rw [List.tail_nil, head?_cuts_nil hwhole hopt hbare, Option.map_some, Option.some_or,
        Option.map_some, Option.map_some, captured_cons, hname]
      rfl
    | some cut =>
      obtain ⟨component, tail⟩ := cut
      obtain ⟨rfl, hslash⟩ := Text.splitFirst_eq_some hsplit
      have hpieces := List.splitOn_append_cons_self_of_not_mem hslash tail
      have htail : tail.getLast? ≠ some '/' := getLast?_ne_of_cons (getLast?_ne_of_append ht)
      rw [hpieces, List.tail_cons]
      cases hvalues : captured? isOptional (rest.flatMap Segment.components) (tail.splitOn '/') with
      | none =>
        have hlen := (length_lt_of_captured?_optional hwhole hopt).mp hvalues
        have hnil : cuts (s :: rest) (component ++ '/' :: tail) = [] := by
          refine List.eq_nil_iff_forall_not_mem.mpr fun shares hshares => ?_
          have hcount := count_slash_le_of_isCut hall.1 hall.2.1 hall.2.2 (mem_cuts.mp hshares) ht
          rw [length_splitOn] at hlen
          rw [List.count_append, List.count_cons_self] at hcount
          omega
        rw [hnil]
        rfl
      | some values =>
        have hrest : rest ≠ [] := by
          rintro rfl
          rw [List.flatMap_nil, captured?, if_neg (by simp)] at hvalues
          cases hvalues
        have hfirst := ih hrest hwhole hopt hbare htail
        rw [hvalues] at hfirst
        obtain ⟨ys, hys, hcap⟩ := Option.map_eq_some_iff.mp hfirst
        obtain ⟨others, hshares⟩ := exists_shares_eq_cons hs hsopt hsbare hslash
          (show '/' :: tail = [] ∨ ('/' :: tail).head? = some '/' from .inr rfl)
        rw [cuts, hshares, List.flatMap_cons, List.head?_append, List.head?_map]
        dsimp only
        rw [List.tail_cons, hys, Option.map_some, Option.some_or, Option.map_some, captured_cons,
          hname, hcap]
        rfl

/-- Only optional parameters can do without a component. -/
theorem all_optional_of_captured?_nil (hwhole : ∀ s ∈ segments, s.Whole isOptional)
    (hpair : segments.Pairwise fun s d => s.isOptional = true → d.isOptional = true)
    {values : List (Text × Text)}
    (h : captured? isOptional (segments.flatMap Segment.components) [] = some values) :
    ∀ s ∈ segments, s.isOptional = true := by
  cases segments with
  | nil => exact fun s hs => absurd hs List.not_mem_nil
  | cons s rest =>
    cases hopt : s.isOptional with
    | false =>
      rw [List.flatMap_cons] at h
      obtain ⟨x, left, -, hnil⟩ := exists_owns_of_captured? (hwhole s List.mem_cons_self) hopt
        (fun t ht => absurd ht List.not_mem_nil) h
      exact absurd (List.append_eq_nil_iff.mp hnil.symm).1 (List.splitOn_ne_nil _ _)
    | true =>
      rw [List.pairwise_cons] at hpair
      exact List.forall_mem_cons.mpr ⟨hopt, fun d hd => hpair.1 d hd hopt⟩

/-- What a required segment takes in a cut is what it owns, and then a slash before the rest of the
path, or else only optional parameters follow and nothing is left. -/
theorem owns_of_takes {s : Segment} (hs : s.Whole isOptional) (hreq : s.isOptional = false)
    (hmarked : Segment.Marked (s :: segments)) {x : Share} {rest : Text}
    (hx : s.Takes Segment.PlainValue x rest) (hcuts : cuts segments rest ≠ [])
    (ht : (x.text ++ rest).getLast? ≠ some '/') :
    s.Owns x ∧ ((x.slash = true ∧ segments ≠ [] ∧ rest.getLast? ≠ some '/' ∧
        x.text ++ rest = x.own ++ '/' :: rest) ∨
      (rest = [] ∧ x.text = x.own ∧ ∀ d ∈ segments, d.isOptional = true)) := by
  obtain ⟨hlast, hoptional, -⟩ := hmarked
  refine ⟨⟨hx.before, hx.literal, hx.value, hx.after⟩, ?_⟩
  have hnil : segments = [] → rest = [] := by
    rintro rfl
    rw [cuts] at hcuts
    split at hcuts
    · rename_i hempty
      exact List.isEmpty_iff.mp hempty
    · exact absurd rfl hcuts
  cases hslash : x.slash with
  | true =>
    have htext : x.text ++ rest = x.own ++ '/' :: rest := by
      rw [Share.text, hslash, if_pos rfl, Share.own, List.append_assoc, List.singleton_append]
    have hne : segments ≠ [] := by
      intro h
      refine ht ?_
      rw [htext, hnil h, List.getLast?_concat]
    exact .inl ⟨rfl, hne, getLast?_ne_of_append ht, htext⟩
  | false =>
    have hsep := hx.separator
    unfold Segment.Separates at hsep
    rw [hs.isGlued, hreq, hslash, hlast, hoptional] at hsep
    have htext : x.text = x.own := by
      rw [Share.text, hslash, Share.own]
      exact List.append_nil _
    cases segments with
    | nil => exact .inr ⟨hnil rfl, htext, fun d hd => absurd hd List.not_mem_nil⟩
    | cons d segments =>
      cases hall : (d :: segments).all (·.isOptional) with
      | true =>
        rw [hall] at hsep
        exact .inr ⟨by simpa using hsep, htext, List.all_eq_true.mp hall⟩
      | false =>
        rw [hall] at hsep
        simp at hsep

/-- What a segment owns can be cut off before a slash. -/
theorem isCut_cons_slash {s : Segment} (hs : s.Whole isOptional) {x : Share} (hx : s.Owns x)
    {shares : List Share} {rest : Text} (h : IsCut Segment.PlainValue segments shares rest) :
    IsCut Segment.PlainValue (s :: segments) ({ x with slash := true } :: shares)
      (x.own ++ '/' :: rest) := by
  refine ⟨rest, ?_, ⟨hx.before, hx.literal, hx.value, hx.after, ?_⟩, h⟩
  · simp [Share.text, Share.own]
  · unfold Segment.Separates
    rw [hs.isGlued, if_neg Bool.false_ne_true]
    split
    · rfl
    · split
      · exact .inl rfl
      · trivial

/-- What a segment owns can be the end of the path if only optional parameters follow. -/
theorem isCut_cons_end {s : Segment} (hs : s.Whole isOptional)
    (hmarked : Segment.Marked (s :: segments)) (hopt : ∀ d ∈ segments, d.isOptional = true)
    {x : Share} (hx : s.Owns x) {shares : List Share}
    (h : IsCut Segment.PlainValue segments shares []) :
    IsCut Segment.PlainValue (s :: segments) ({ x with slash := false } :: shares) x.own := by
  obtain ⟨hlast, hoptional, -⟩ := hmarked
  refine ⟨[], ?_, ⟨hx.before, hx.literal, hx.value, hx.after, ?_⟩, h⟩
  · simp [Share.text, Share.own]
  · have hall : segments.all (·.isOptional) = true := List.all_eq_true.mpr hopt
    unfold Segment.Separates
    rw [hs.isGlued, hlast, hoptional, hall]
    cases segments with
    | nil => simp
    | cons d segments => simp

/-- The first cut of a path gives the parameters what they take component by component. -/
def CutsByComponents (isOptional : Text → Bool) (segments : List Segment) : Prop :=
  ∀ {t : Text}, t.getLast? ≠ some '/' → (cuts segments t).head?.map (captured segments) =
    captured? isOptional (segments.flatMap Segment.components) (t.splitOn '/')

section Required

variable {s : Segment} {t : Text} (hs : s.Whole isOptional) (hreq : s.isOptional = false)
  (hmarked : Segment.Marked (s :: segments)) (hwhole : ∀ d ∈ segments, d.Whole isOptional)
  (hbare : ∀ d ∈ segments, d.Bare) (ht : t.getLast? ≠ some '/')
  (hrest : segments ≠ [] → CutsByComponents isOptional segments)

include hs hreq hmarked hwhole hbare ht hrest

/-- What the parameters take in the first cut they take component by component, if the first segment
is required. -/
theorem captured?_of_head?_cuts {shares : List Share}
    (h : (cuts (s :: segments) t).head? = some shares) :
    captured? isOptional ((s :: segments).flatMap Segment.components) (t.splitOn '/') =
      some (captured (s :: segments) shares) := by
  obtain ⟨x, left, ys, rfl, hx, hys⟩ := exists_of_head?_cuts_cons h
  obtain ⟨rfl, htakes⟩ := Segment.mem_shares.mp hx
  have hcuts : cuts segments left ≠ [] := by
    intro hnil
    rw [hnil] at hys
    cases hys
  obtain ⟨howns, ⟨-, hne, hleft, htext⟩ | ⟨rfl, htext, hopts⟩⟩ :=
    owns_of_takes hs hreq hmarked htakes hcuts ht
  · have hbehind := hrest hne hleft
    rw [hys, Option.map_some] at hbehind
    rw [htext, List.splitOn_append_cons_self, List.flatMap_cons, captured?_of_owns hs hreq howns,
      ← hbehind, captured_cons]
    rfl
  · rw [head?_cuts_nil hwhole hopts hbare, Option.some.injEq] at hys
    subst hys
    rw [List.append_nil, htext, ← List.append_nil (x.own.splitOn '/'), List.flatMap_cons,
      captured?_of_owns hs hreq howns, captured?_optional_nil hwhole hopts, captured_cons]
    rfl

/-- What the components of the segments take can be cut off the path, if the first segment is
required. -/
theorem exists_isCut_of_captured?
    (hpair : segments.Pairwise fun s d => s.isOptional = true → d.isOptional = true)
    {values : List (Text × Text)}
    (h : captured? isOptional ((s :: segments).flatMap Segment.components) (t.splitOn '/') =
      some values) : ∃ shares, IsCut Segment.PlainValue (s :: segments) shares t := by
  rw [List.flatMap_cons] at h
  obtain ⟨x, left, howns, hleft⟩ := exists_owns_of_captured? hs hreq
    (fun u hu => slash_notMem_of_mem_splitOn hu) h
  rw [hleft, captured?_of_owns hs hreq howns] at h
  obtain ⟨behind, hbehind, -⟩ := Option.map_eq_some_iff.mp h
  obtain ⟨own, hown, hcut⟩ := exists_of_splitOn_eq_append hleft (List.splitOn_ne_nil _ _)
  have heq : ['/'].intercalate (own.splitOn '/') = x.own := by
    rw [hown, List.intercalate_splitOn]
  rw [List.intercalate_splitOn] at heq
  subst heq
  rcases hcut with ⟨rfl, rfl⟩ | ⟨u, rfl, rfl⟩
  · have hopts := all_optional_of_captured?_nil hwhole hpair hbehind
    have hnil := List.mem_of_mem_head? (head?_cuts_nil hwhole hopts hbare)
    exact ⟨_, isCut_cons_end hs hmarked hopts howns (mem_cuts.mp hnil)⟩
  · have hne : segments ≠ [] := by
      rintro rfl
      rw [List.flatMap_nil, captured?, if_neg (by simp)] at hbehind
      cases hbehind
    have hu : u.getLast? ≠ some '/' := getLast?_ne_of_cons (getLast?_ne_of_append ht)
    have hfirst := hrest hne hu
    rw [hbehind] at hfirst
    obtain ⟨ys, hys, -⟩ := Option.map_eq_some_iff.mp hfirst
    exact ⟨_, isCut_cons_slash hs howns (mem_cuts.mp (List.mem_of_mem_head? hys))⟩

end Required

/-- Of a path without a slash at its end, the first cut into whole components gives the parameters
what they take component by component. -/
theorem head?_cuts_eq_captured? (hne : segments ≠ []) (hmarked : Segment.Marked segments)
    (hwhole : ∀ s ∈ segments, s.Whole isOptional) (hbare : ∀ s ∈ segments, s.Bare)
    (hpair : segments.Pairwise fun s d => s.isOptional = true → d.isOptional = true) :
    CutsByComponents isOptional segments := by
  intro t ht
  induction segments generalizing t with
  | nil => exact absurd rfl hne
  | cons s rest ih =>
    obtain ⟨hfirst, hpair'⟩ := List.pairwise_cons.mp hpair
    cases hopt : s.isOptional with
    | true =>
      exact head?_cuts_optional hne hwhole
        (List.forall_mem_cons.mpr ⟨hopt, fun d hd => hfirst d hd hopt⟩) hbare ht
    | false =>
      obtain ⟨hs, hwhole⟩ := List.forall_mem_cons.mp hwhole
      obtain ⟨-, hbare⟩ := List.forall_mem_cons.mp hbare
      have hrest : rest ≠ [] → CutsByComponents isOptional rest :=
        fun hrest t ht => ih hrest hmarked.2.2 hwhole hbare hpair' ht
      cases hcuts : (cuts (s :: rest) t).head? with
      | some shares =>
        exact (captured?_of_head?_cuts hs hopt hmarked hwhole hbare ht hrest hcuts).symm
      | none =>
        rw [List.head?_eq_none_iff] at hcuts
        cases hvalues : captured? isOptional ((s :: rest).flatMap Segment.components)
            (t.splitOn '/') with
        | none => rfl
        | some values =>
          obtain ⟨shares, hshares⟩ :=
            exists_isCut_of_captured? hs hopt hmarked hwhole hbare ht hrest hpair' hvalues
          have hmem := mem_cuts.mpr hshares
          rw [hcuts] at hmem
          exact absurd hmem List.not_mem_nil

end

end PathRouting
