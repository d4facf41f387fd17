import Mathlib.Data.List.Forall2
import PathRouting.Proofs.Segment.Cut
import PathRouting.Proofs.Template.Components

/-!
# Matching component by component

A plain matcher cuts a path at its slashes and gives one component of the path to each component of
a template. Where optional parameters come last, each as a component of its own, the first cut of a
path into the shares of segments gives the same values as the plain matcher.
-/

namespace PathRouting

/-- Texts that are equal up to case are equally long. -/
theorem SameFolding.length_eq {t u : Text} (h : SameFolding t u) : t.length = u.length := by
  have := congrArg List.length h
  rwa [List.length_map, List.length_map] at this

/-- Texts that are equal up to case hold slashes alike. -/
theorem SameFolding.slash_mem_iff {t u : Text} (h : SameFolding t u) : '/' ∈ t ↔ '/' ∈ u := by
  have hmem : ∀ v : Text, '/' ∈ v ↔
      Unicode.simpleFold '/'.toNat ∈ v.map fun c => Unicode.simpleFold c.toNat := by
    intro v
    rw [List.mem_map]
    constructor
    · intro hv
      exact ⟨'/', hv, rfl⟩
    · rintro ⟨c, hc, hfold⟩
      rwa [Unicode.foldEq_slash_iff.mp hfold.symm] at hc
  rw [hmem, hmem, h]

/-- Texts are equal up to case if their pieces between slashes are. -/
theorem sameFolding_iff_splitOn {t u : Text} :
    SameFolding t u ↔ List.Forall₂ SameFolding (t.splitOn '/') (u.splitOn '/') := by
  induction u generalizing t with
  | nil =>
    rw [sameFolding_nil_iff, List.splitOn_nil]
    constructor
    · rintro rfl
      exact .cons rfl .nil
    · intro h
      have hjoin : ['/'].intercalate (t.splitOn '/') = t := List.intercalate_splitOn '/'
      generalize t.splitOn '/' = pieces at h hjoin
      cases h with
      | cons hpiece hrest =>
        cases hrest
        rw [sameFolding_nil_iff.mp hpiece] at hjoin
        exact hjoin.symm
  | cons c u ih =>
    obtain ⟨piece, pieces, hpieces⟩ := List.exists_cons_of_ne_nil (List.splitOn_ne_nil '/' u)
    cases t with
    | nil =>
      have hleft : ¬SameFolding [] (c :: u) := by simp [SameFolding]
      refine iff_of_false hleft fun h => ?_
      rw [List.splitOn_cons_eq_if_modifyHead, hpieces] at h
      split at h
      · obtain ⟨-, hrest⟩ := List.forall₂_cons.mp h
        cases hrest
      · obtain ⟨hpiece, -⟩ := List.forall₂_cons.mp h
        simp [SameFolding] at hpiece
    | cons d t =>
      have hcons : ∀ v w : Text, SameFolding (d :: v) (c :: w) ↔
          Unicode.FoldEq d c ∧ SameFolding v w := by
        intro v w
        unfold SameFolding Unicode.FoldEq
        rw [List.map_cons, List.map_cons, List.cons.injEq]
      obtain ⟨own, owns, howns⟩ := List.exists_cons_of_ne_nil (List.splitOn_ne_nil '/' t)
      rw [hcons, ih, List.splitOn_cons_eq_if_modifyHead, List.splitOn_cons_eq_if_modifyHead,
        hpieces, howns]
      by_cases hc : c = '/'
      · subst hc
        have hfold : Unicode.FoldEq d '/' ↔ d = '/' :=
          ⟨fun h => Unicode.foldEq_slash_iff.mp h.symm, fun h => by rw [h]; rfl⟩
        by_cases hd : d = '/'
        · subst hd
          simp [hfold, sameFolding_nil_iff]
        · have hne : (d == '/') = false := by simpa using hd
          simp [hfold, hd, sameFolding_nil_iff]
      · have hfold : Unicode.FoldEq d c → d ≠ '/' := by
          rintro h rfl
          exact hc (Unicode.foldEq_slash_iff.mp h)
        by_cases hd : d = '/'
        · subst hd
          have hne : ¬Unicode.FoldEq '/' c := fun h => hfold h rfl
          have hempty : ¬SameFolding [] (c :: piece) := by simp [SameFolding]
          simp [hc, hne, hempty]
        · simp [hc, hd, hcons, and_assoc]

/-- A text whose pieces between slashes start with some others starts with a text that has these
pieces. -/
theorem exists_of_splitOn_eq_append {t : Text} {front back : List Text}
    (h : t.splitOn '/' = front ++ back) (hfront : front ≠ []) :
    ∃ own, own.splitOn '/' = front ∧ ((back = [] ∧ t = own) ∨
      ∃ rest, back = rest.splitOn '/' ∧ t = own ++ '/' :: rest) := by
  induction t generalizing front with
  | nil =>
    obtain ⟨piece, front, rfl⟩ := List.exists_cons_of_ne_nil hfront
    rw [List.splitOn_nil, List.cons_append, List.cons.injEq] at h
    obtain ⟨rfl, h⟩ := h
    obtain ⟨rfl, rfl⟩ := List.append_eq_nil_iff.mp h.symm
    exact ⟨[], rfl, .inl ⟨rfl, rfl⟩⟩
  | cons c t ih =>
    obtain ⟨piece, front, rfl⟩ := List.exists_cons_of_ne_nil hfront
    rw [List.splitOn_cons_eq_if_modifyHead, List.cons_append] at h
    by_cases hc : c = '/'
    · subst hc
      rw [if_pos (beq_self_eq_true '/'), List.cons.injEq] at h
      obtain ⟨rfl, h⟩ := h
      by_cases hnil : front = []
      · subst hnil
        exact ⟨[], rfl, .inr ⟨t, h.symm, rfl⟩⟩
      · obtain ⟨own, hown, hrest⟩ := ih h hnil
        refine ⟨'/' :: own, ?_, ?_⟩
        · rw [List.splitOn_cons_eq_if_modifyHead, if_pos (beq_self_eq_true '/'), hown]
        · rcases hrest with ⟨hback, rfl⟩ | ⟨rest, hback, rfl⟩
          · exact .inl ⟨hback, rfl⟩
          · exact .inr ⟨rest, hback, rfl⟩
    · have hne : (c == '/') = false := by simpa using hc
      rw [hne, if_neg Bool.false_ne_true] at h
      obtain ⟨first, pieces, hpieces⟩ := List.exists_cons_of_ne_nil (List.splitOn_ne_nil '/' t)
      rw [hpieces, List.modifyHead_cons, List.cons.injEq] at h
      obtain ⟨rfl, rfl⟩ := h
      obtain ⟨own, hown, hrest⟩ := ih (show t.splitOn '/' = (first :: front) ++ back from hpieces)
        (List.cons_ne_nil _ _)
      refine ⟨c :: own, ?_, ?_⟩
      · rw [List.splitOn_cons_eq_if_modifyHead, hne, if_neg Bool.false_ne_true, hown]
        rfl
      · rcases hrest with ⟨hback, rfl⟩ | ⟨rest, hback, rfl⟩
        · exact .inl ⟨hback, rfl⟩
        · exact .inr ⟨rest, hback, rfl⟩

/-- The pieces of a text between its slashes hold none. -/
theorem slash_notMem_of_mem_splitOn {t piece : Text} (h : piece ∈ t.splitOn '/') : '/' ∉ piece := by
  induction t generalizing piece with
  | nil =>
    rw [List.splitOn_nil, List.mem_singleton] at h
    rw [h]
    exact List.not_mem_nil
  | cons c t ih =>
    obtain ⟨first, pieces, hpieces⟩ := List.exists_cons_of_ne_nil (List.splitOn_ne_nil '/' t)
    rw [List.splitOn_cons_eq_if_modifyHead] at h
    split at h
    · rcases List.mem_cons.mp h with rfl | h
      · exact List.not_mem_nil
      · exact ih h
    · rename_i hc
      rw [hpieces, List.modifyHead_cons] at h
      rcases List.mem_cons.mp h with rfl | h
      · refine List.not_mem_cons_of_ne_of_not_mem ?_ (ih (by rw [hpieces]; exact List.mem_cons_self))
        rintro rfl
        exact hc (beq_self_eq_true '/')
      · exact ih (by rw [hpieces]; exact List.mem_cons_of_mem _ h)

/-- The pieces of a text are one more than its slashes. -/
theorem length_splitOn (t : Text) : (t.splitOn '/').length = t.count '/' + 1 := by
  induction t with
  | nil => rfl
  | cons c t ih =>
    rw [List.splitOn_cons_eq_if_modifyHead, List.count_cons]
    split
    · rw [List.length_cons, ih]
    · rw [List.length_modifyHead, ih]

/-- The value that a required parameter takes of a component of a path: what stands between the text
before it and the text behind it, if that is not empty. -/
def Component.value? (c : Component) (t : Text) : Option Text :=
  let value := (t.drop c.before.length).take (t.length - c.before.length - c.after.length)
  if SameFolding (t.take c.before.length) c.before ∧
      SameFolding (t.drop (t.length - c.after.length)) c.after ∧ value ≠ [] then some value else none

/-- What a component of a template takes of the components of a path, with those that are left. Text
and required parameters need a component; optional parameters take the next one if there is one. -/
def Component.take? (isOptional : Text → Bool) (c : Component) :
    List Text → Option (List (Text × Text) × List Text)
  | [] =>
    match c.name with
    | none => none
    | some name => if isOptional name then some ([(name, [])], []) else none
  | t :: ts =>
    match c.name with
    | none => if SameFolding t c.before then some ([], ts) else none
    | some name =>
      if isOptional name then some ([(name, t)], ts)
      else (c.value? t).map fun value => ([(name, value)], ts)

/-- What the components of a path give to the parameters among the components of a template, if none
are missing and none are left. -/
def captured? (isOptional : Text → Bool) :
    List Component → List Text → Option (List (Text × Text))
  | [], ts => if ts.isEmpty then some [] else none
  | c :: cs, ts => do
    let (own, left) ← c.take? isOptional ts
    return own ++ (← captured? isOptional cs left)

/-- The value that a required parameter takes stands between the texts around it. -/
theorem Component.value?_eq_some_iff {c : Component} {t value : Text} :
    c.value? t = some value ↔ value ≠ [] ∧ ∃ before after, t = before ++ value ++ after ∧
      SameFolding before c.before ∧ SameFolding after c.after := by
  unfold value?
  dsimp only
  constructor
  · intro h
    split at h
    · rename_i hcond
      obtain ⟨hbefore, hafter, hne⟩ := hcond
      cases h
      refine ⟨hne, _, _, ?_, hbefore, hafter⟩
      have hlen : c.before.length + c.after.length < t.length := by
        rcases Nat.lt_or_ge (c.before.length + c.after.length) t.length with hlt | hge
        · exact hlt
        · have hzero : t.length - c.before.length - c.after.length = 0 := by omega
          rw [hzero] at hne
          exact absurd List.take_zero hne
      have hdrop : t.drop (t.length - c.after.length) =
          (t.drop c.before.length).drop (t.length - c.before.length - c.after.length) := by
        rw [List.drop_drop]
        congr 1
        omega
      rw [hdrop, List.append_assoc, List.take_append_drop, List.take_append_drop]
    · cases h
  · rintro ⟨hne, before, after, rfl, hbefore, hafter⟩
    have hlen : (before ++ value ++ after).length - c.before.length - c.after.length =
        value.length := by
      rw [← hbefore.length_eq, ← hafter.length_eq]
      simp only [List.length_append]
      omega
    have hstart : (before ++ value ++ after).length - c.after.length =
        (before ++ value).length := by
      rw [← hafter.length_eq, List.length_append]
      omega
    rw [hlen, hstart, ← hbefore.length_eq, List.append_assoc, List.drop_left, List.take_left,
      List.take_left, ← List.append_assoc, List.drop_left, if_pos ⟨hbefore, hafter, hne⟩]

/-- The values that the shares of a cut give to the parameters. -/
def captured (segments : List Segment) (shares : List Share) : List (Text × Text) :=
  (segments.zip shares).filterMap fun (s, x) => s.name.map (·, x.value)

namespace Segment

/-- A segment stands for whole components, and whether its parameter is optional is known. -/
structure Whole (isOptional : Text → Bool) (s : Segment) : Prop where
  /-- The next segment does not follow directly. -/
  isGlued : s.isGlued = false
  /-- The text before the value is part of a component. -/
  before : '/' ∉ Regex.unescape s.before
  /-- The text behind the value is part of a component. -/
  after : '/' ∉ Regex.unescape s.after
  /-- A piece of literal text has no text around it, and it is required. -/
  literal : s.name = none → Regex.unescape s.before = [] ∧ Regex.unescape s.after = [] ∧
    s.isOptional = false
  /-- Whether a parameter may be absent goes by its name. -/
  named : ∀ name, s.name = some name → s.isOptional = isOptional name

/-- What a segment takes for itself, without a separator. -/
structure Owns (s : Segment) (x : Share) : Prop where
  /-- The text before the value is that of the segment. -/
  before : SameFolding x.before (Regex.unescape s.before)
  /-- A piece of literal text is that of the segment. -/
  literal : s.name = none → SameFolding x.value (Regex.unescape s.pattern)
  /-- A value is one that the segment can take. -/
  value : s.name ≠ none → s.PlainValue x.value
  /-- The text behind the value is that of the segment. -/
  after : SameFolding x.after (Regex.unescape s.after)

end Segment

/-- The text of a share without its separator. -/
def Share.own (x : Share) : Text :=
  x.before ++ x.value ++ x.after

section

variable {isOptional : Text → Bool} {s : Segment}

/-- What literal components need of the components of a path. -/
theorem captured?_map_literal (texts : List Text) (more : List Component) (ts : List Text) :
    captured? isOptional (texts.map Component.literal ++ more) ts =
      if List.Forall₂ SameFolding (ts.take texts.length) texts then
        captured? isOptional more (ts.drop texts.length) else none := by
  induction texts generalizing ts with
  | nil => simp
  | cons text texts ih =>
    rw [List.map_cons, List.cons_append, captured?]
    cases ts with
    | nil =>
      have hne : ¬List.Forall₂ SameFolding [] (text :: texts) := by
        rintro ⟨⟩
      rw [List.take_nil, if_neg hne]
      rfl
    | cons t ts =>
      rw [List.length_cons, List.take_succ_cons, List.drop_succ_cons, Component.take?,
        Component.literal]
      dsimp only
      by_cases ht : SameFolding t text
      · simp [ht, ih]
      · simp [ht]

/-- What a required segment owns is what its components need, and gives the same values. -/
theorem captured?_of_owns (hs : s.Whole isOptional) (hreq : s.isOptional = false) {x : Share}
    (hx : s.Owns x) (more : List Component) (ts : List Text) :
    captured? isOptional (s.components ++ more) (x.own.splitOn '/' ++ ts) =
      (captured? isOptional more ts).map ((s.name.map (·, x.value)).toList ++ ·) := by
  unfold Segment.components
  cases hname : s.name with
  | none =>
    obtain ⟨hbefore, hafter, -⟩ := hs.literal hname
    have hown : x.own = x.value := by
      have hb := hx.before
      have ha := hx.after
      rw [hbefore, sameFolding_nil_iff] at hb
      rw [hafter, sameFolding_nil_iff] at ha
      rw [Share.own, hb, ha, List.nil_append, List.append_nil]
    have hsame := sameFolding_iff_splitOn.mp (hx.literal hname)
    dsimp only
    rw [captured?_map_literal, hown, ← List.Forall₂.length_eq hsame, List.take_left, List.drop_left,
      if_pos hsame]
    simp
  | some name =>
    have hvalue := hx.value (by rw [hname]; exact Option.some_ne_none _)
    have hslash : '/' ∉ x.own := by
      rw [Share.own, List.mem_append, List.mem_append, hx.before.slash_mem_iff,
        hx.after.slash_mem_iff]
      exact fun h => h.elim (fun h => h.elim hs.before hvalue.1) hs.after
    have htake : Component.value? ⟨Regex.unescape s.before, some name, Regex.unescape s.after⟩
        x.own = some x.value :=
      Component.value?_eq_some_iff.mpr ⟨hvalue.2 hreq, x.before, x.after, rfl, hx.before, hx.after⟩
    have hopt : isOptional name = false := by rw [← hs.named name hname, hreq]
    dsimp only
    rw [List.splitOn_eq_singleton hslash, List.singleton_append, List.singleton_append, captured?,
      Component.take?]
    dsimp only
    rw [hopt, if_neg Bool.false_ne_true, htake]
    cases hmore : captured? isOptional more ts with
    | none => simp [hmore]
    | some values => simp [hmore]

/-- Where the components of a required segment find what they need, the segment can own it. -/
theorem exists_owns_of_captured? (hs : s.Whole isOptional) (hreq : s.isOptional = false)
    {more : List Component} {ts : List Text} (hts : ∀ t ∈ ts, '/' ∉ t)
    {values : List (Text × Text)}
    (h : captured? isOptional (s.components ++ more) ts = some values) :
    ∃ x left, s.Owns x ∧ ts = x.own.splitOn '/' ++ left := by
  unfold Segment.components at h
  cases hname : s.name with
  | none =>
    rw [hname] at h
    dsimp only at h
    rw [captured?_map_literal] at h
    split at h
    · rename_i hsame
      obtain ⟨hbefore, hafter, -⟩ := hs.literal hname
      generalize hn : ((Regex.unescape s.pattern).splitOn '/').length = n at hsame
      have hne : ts.take n ≠ [] := by
        intro hnil
        have hlen := List.Forall₂.length_eq hsame
        rw [hnil] at hlen
        exact List.splitOn_ne_nil '/' _ (List.eq_nil_of_length_eq_zero hlen.symm)
      have hjoin : (['/'].intercalate (ts.take n)).splitOn '/' = ts.take n :=
        List.splitOn_intercalate '/' (fun t ht => hts t (List.mem_of_mem_take ht)) hne
      refine ⟨⟨[], ['/'].intercalate (ts.take n), [], false⟩, ts.drop n, ⟨?_, ?_, ?_, ?_⟩, ?_⟩
      · rw [hbefore]
        rfl
      · intro _
        rw [← hjoin] at hsame
        exact sameFolding_iff_splitOn.mpr hsame
      · exact fun hne => absurd hname hne
      · rw [hafter]
        rfl
      · rw [Share.own, List.nil_append, List.append_nil, hjoin, List.take_append_drop]
    · cases h
  | some name =>
    rw [hname] at h
    have hopt : isOptional name = false := by rw [← hs.named name hname, hreq]
    cases ts with
    | nil =>
      rw [List.singleton_append, captured?, Component.take?] at h
      dsimp only at h
      rw [hopt] at h
      cases h
    | cons t ts =>
      rw [List.singleton_append, captured?, Component.take?] at h
      dsimp only at h
      rw [hopt] at h
      obtain ⟨⟨own, left⟩, hown, -⟩ := Option.bind_eq_some_iff.mp h
      obtain ⟨value, hvalue, -⟩ := Option.map_eq_some_iff.mp hown
      obtain ⟨hne, before, after, rfl, hbefore, hafter⟩ := Component.value?_eq_some_iff.mp hvalue
      have hslash := hts _ List.mem_cons_self
      refine ⟨⟨before, value, after, false⟩, ts, ⟨hbefore, ?_, ?_, hafter⟩, ?_⟩
      · intro hnone
        rw [hname] at hnone
        cases hnone
      · exact fun _ => ⟨fun h => hslash (by simp [h]), fun _ => hne⟩
      · rw [Share.own, List.splitOn_eq_singleton hslash, List.singleton_append]

end

end PathRouting
