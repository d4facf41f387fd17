import PathRouting.Proofs.Segment.Counting

/-!
# Cuts between components

Where every share of a cut ends with a component of the path, no other cut comes before it in the
greedy order. Where a path has as many components as the segments stand for, it can only be cut in
this way if the values hold no slash.
-/

namespace PathRouting

/-- Every share ends with a component: a slash follows, or nothing is left. -/
def Separated : List Share → Prop
  | [] => True
  | x :: shares => (x.slash = true ∨ shares.flatMap Share.text = []) ∧ Separated shares

/-- A path that is cut is made of the texts of the shares. -/
theorem IsCut.eq_flatMap_text {allowed : Segment → Text → Prop} {segments : List Segment}
    {shares : List Share} {path : Text} (h : IsCut allowed segments shares path) :
    path = shares.flatMap Share.text := by
  induction h using IsCut.induction with
  | nil => rfl
  | cons s segments x shares rest _ _ ih => rw [List.flatMap_cons, ih]

/-- A text without a slash that starts like another one goes no further than the next slash. -/
theorem length_le_of_append_eq {t u : Text} (rest tail : Text) (ht : '/' ∉ t)
    (htail : tail = [] ∨ tail.head? = some '/') (h : t ++ rest = u ++ tail) :
    t.length ≤ u.length := by
  rcases List.append_eq_append_iff.mp h with ⟨more, rfl, -⟩ | ⟨more, rfl, rfl⟩
  · rw [List.length_append]
    exact Nat.le_add_right _ _
  · cases more with
    | nil => rw [List.append_nil]
    | cons c more =>
      have hc : c = '/' := by simpa using htail
      exact absurd (by simp [hc]) ht

namespace Share

/-- A share is what it has for itself and a separator. -/
theorem text_eq_own (x : Share) : x.text = x.own ++ if x.slash then ['/'] else [] :=
  rfl

/-- How long a share is without its separator. -/
theorem length_own (x : Share) :
    x.own.length = x.before.length + x.value.length + x.after.length := by
  rw [own, List.length_append, List.length_append]

end Share

/-- No value holds a slash. -/
def Segment.SlashFree (_ : Segment) (value : Text) : Prop :=
  '/' ∉ value

section

variable {isOptional : Text → Bool} {s : Segment} {x y : Share} {rest : Text}

namespace Segment

/-- What a segment has for itself holds no slash if the value holds none. -/
theorem slash_notMem_own (hs : s.Whole isOptional)
    (hbefore : SameFolding x.before (Regex.unescape s.before))
    (hafter : SameFolding x.after (Regex.unescape s.after)) (hvalue : '/' ∉ x.value) :
    '/' ∉ x.own := by
  rw [Share.own, List.mem_append, List.mem_append, hbefore.slash_mem_iff, hafter.slash_mem_iff]
  exact fun h => h.elim (fun h => h.elim hs.before hvalue) hs.after

/-- Values without constraints hold no slash. -/
theorem Takes.slashFree (hx : s.Takes PlainValue x rest) : s.Takes SlashFree x rest :=
  ⟨hx.before, hx.literal, fun hname => (hx.value hname).1, hx.after, hx.separator⟩

/-- A segment cannot take a longer share than one that ends with a component. -/
theorem length_own_le (hs : s.Whole isOptional) {left : Text} (hx : s.Takes SlashFree x rest)
    (hend : x.slash = true ∨ rest = []) (hy : s.Takes SlashFree y left)
    (htext : x.text ++ rest = y.text ++ left) : y.own.length ≤ x.own.length := by
  cases hname : s.name with
  | none =>
    rw [x.length_own, y.length_own, hx.before.length_eq, hy.before.length_eq, hx.after.length_eq,
      hy.after.length_eq, (hx.literal hname).length_eq, (hy.literal hname).length_eq]
  | some name =>
    have hnamed : s.name ≠ none := by
      rw [hname]
      exact Option.some_ne_none name
    rw [x.text_eq_own, y.text_eq_own, List.append_assoc, List.append_assoc] at htext
    refine length_le_of_append_eq _ _
      (slash_notMem_own hs hy.before hy.after (hy.value hnamed)) ?_ htext.symm
    cases hslash : x.slash with
    | true => exact .inr rfl
    | false =>
      left
      rcases hend with hend | hend
      · rw [hslash] at hend
        cases hend
      · exact hend

/-- A segment cannot take a share that comes before one that ends with a component. -/
theorem not_precedes (hs : s.Whole isOptional) {left : Text} (hx : s.Takes PlainValue x rest)
    (hend : x.slash = true ∨ rest = []) (hy : (y, left) ∈ s.shares (x.text ++ rest)) :
    ¬y.Precedes x := by
  obtain ⟨htext, hy⟩ := mem_shares.mp hy
  have hown := length_own_le hs hx.slashFree hend hy.slashFree htext
  have hbefore := hx.before.length_eq.trans hy.before.length_eq.symm
  have hafter := hx.after.length_eq.trans hy.after.length_eq.symm
  rw [x.length_own, y.length_own] at hown
  rintro (hlonger | ⟨hsame, hslash, hnone⟩)
  · omega
  · have hrest : rest = [] := hend.resolve_left (by rw [hnone]; exact Bool.false_ne_true)
    have hlength := congrArg List.length htext
    rw [hrest, x.text_eq_own, y.text_eq_own, hslash, hnone] at hlength
    simp only [List.length_append, List.length_nil, x.length_own, y.length_own, if_true,
      Bool.false_eq_true, if_false, List.length_singleton] at hlength
    omega

/-- A share before which no other one comes is the first one. -/
theorem exists_shares_eq_cons_of_forall {t : Text} (hx : (x, rest) ∈ s.shares t)
    (hfirst : ∀ y left, (y, left) ∈ s.shares t → ¬y.Precedes x) :
    ∃ others, s.shares t = (x, rest) :: others := by
  have hpair := s.pairwise_shares t
  cases hshares : s.shares t with
  | nil =>
    rw [hshares] at hx
    exact absurd hx List.not_mem_nil
  | cons y others =>
    rw [hshares] at hx hpair
    rcases List.mem_cons.mp hx with rfl | hx
    · exact ⟨others, rfl⟩
    · have hy : (y.1, y.2) ∈ s.shares t := by
        rw [hshares]
        exact List.mem_cons_self
      exact absurd ((List.pairwise_cons.mp hpair).1 _ hx) (hfirst _ _ hy)

end Segment

end

section

variable {isOptional : Text → Bool} {segments : List Segment} {shares : List Share} {path : Text}

/-- No other cut comes before one whose shares end with components. -/
theorem head?_cuts_of_separated (hwhole : ∀ s ∈ segments, s.Whole isOptional)
    (hcut : IsCut Segment.PlainValue segments shares path) (hsep : Separated shares) :
    (cuts segments path).head? = some shares := by
  induction hcut using IsCut.induction with
  | nil => rfl
  | cons s segments x shares rest htakes hcut ih =>
    obtain ⟨hs, hwhole⟩ := List.forall_mem_cons.mp hwhole
    obtain ⟨hend, hsep⟩ := hsep
    rw [← hcut.eq_flatMap_text] at hend
    obtain ⟨others, hothers⟩ := Segment.exists_shares_eq_cons_of_forall
      (Segment.mem_shares.mpr ⟨rfl, htakes⟩)
      fun y left hy => Segment.not_precedes hs htakes hend hy
    rw [cuts, hothers, List.flatMap_cons, List.head?_append, List.head?_map]
    dsimp only
    rw [ih hwhole hsep]
    rfl

/-- If a path can be cut by optional parameters, what is left behind the first component can be cut by
the others. -/
theorem exists_head?_cuts_tail {s : Segment} (hwhole : ∀ d ∈ s :: segments, d.Whole isOptional)
    (hopt : ∀ d ∈ s :: segments, d.isOptional = true) (hbare : ∀ d ∈ s :: segments, d.Bare)
    {component tail : Text} (htail : tail = [] ∨ tail.head? = some '/')
    (hpath : (component ++ tail).getLast? ≠ some '/')
    (hcut : IsCut Segment.PlainValue (s :: segments) shares (component ++ tail)) :
    ∃ ys, (cuts segments tail.tail).head? = some ys := by
  have hcount := count_slash_le_of_isCut hwhole hopt hbare hcut hpath
  obtain ⟨-, hwhole⟩ := List.forall_mem_cons.mp hwhole
  obtain ⟨-, hopt⟩ := List.forall_mem_cons.mp hopt
  obtain ⟨-, hbare⟩ := List.forall_mem_cons.mp hbare
  cases tail with
  | nil => exact ⟨_, head?_cuts_nil hwhole hopt hbare⟩
  | cons c tail =>
    obtain rfl : c = '/' := by simpa using htail
    have htailLast : tail.getLast? ≠ some '/' := getLast?_ne_of_cons (getLast?_ne_of_append hpath)
    have hlength : tail.count '/' + 1 ≤ segments.length := by
      rw [List.count_append, List.count_cons_self] at hcount
      omega
    have hne : segments ≠ [] := by
      rintro rfl
      exact absurd hlength (Nat.not_succ_le_zero _)
    have hcaptured : captured? isOptional (segments.flatMap Segment.components)
        (tail.splitOn '/') ≠ none := by
      rw [ne_eq, length_lt_of_captured?_optional hwhole hopt, length_splitOn]
      exact Nat.not_lt_of_le hlength
    obtain ⟨values, hvalues⟩ := Option.ne_none_iff_exists'.mp hcaptured
    have hfirst := head?_cuts_optional hne hwhole hopt hbare htailLast
    rw [hvalues] at hfirst
    obtain ⟨ys, hys, -⟩ := Option.map_eq_some_iff.mp hfirst
    exact ⟨ys, hys⟩

/-- Where optional parameters come last, each as a component of its own, the shares of the first cut
end with components. -/
theorem separated_of_head?_cuts (hmarked : Segment.Marked segments)
    (hwhole : ∀ s ∈ segments, s.Whole isOptional) (hbare : ∀ s ∈ segments, s.Bare)
    (hpair : segments.Pairwise fun s d => s.isOptional = true → d.isOptional = true)
    (hpath : path.getLast? ≠ some '/') (h : (cuts segments path).head? = some shares) :
    Separated shares := by
  induction segments generalizing shares path with
  | nil =>
    obtain ⟨rfl, -⟩ := isCut_nil_iff.mp (mem_cuts.mp (List.mem_of_mem_head? h))
    trivial
  | cons s segments ih =>
    have hall := And.intro hwhole hbare
    obtain ⟨hs, hwhole⟩ := List.forall_mem_cons.mp hwhole
    obtain ⟨hsbare, hbare⟩ := List.forall_mem_cons.mp hbare
    obtain ⟨hfirst, hpair⟩ := List.pairwise_cons.mp hpair
    cases hopt : s.isOptional with
    | false =>
      obtain ⟨x, rest, ys, rfl, hx, hys⟩ := exists_of_head?_cuts_cons h
      obtain ⟨rfl, htakes⟩ := Segment.mem_shares.mp hx
      have hcut := mem_cuts.mp (List.mem_of_mem_head? hys)
      have hcuts : cuts segments rest ≠ [] := by
        intro hnil
        rw [hnil] at hys
        cases hys
      refine ⟨?_, ih hmarked.2.2 hwhole hbare hpair (getLast?_ne_of_append hpath) hys⟩
      rw [← hcut.eq_flatMap_text]
      exact (owns_of_takes hs hopt hmarked htakes hcuts hpath).2.imp (·.1) (·.1)
    | true =>
      have hopts : ∀ d ∈ s :: segments, d.isOptional = true :=
        List.forall_mem_cons.mpr ⟨hopt, fun d hd => hfirst d hd hopt⟩
      obtain ⟨component, tail, rfl, hslash, htail⟩ : ∃ component tail, path = component ++ tail ∧
          '/' ∉ component ∧ (tail = [] ∨ tail.head? = some '/') := by
        cases hsplit : Text.splitFirst '/' path with
        | none =>
          exact ⟨path, [], (List.append_nil path).symm, Text.notMem_of_splitFirst_eq_none hsplit,
            .inl rfl⟩
        | some cut =>
          obtain ⟨hcut, hslash⟩ := Text.splitFirst_eq_some hsplit
          exact ⟨cut.1, '/' :: cut.2, hcut, hslash, .inr rfl⟩
      obtain ⟨ys, hys⟩ := exists_head?_cuts_tail hall.1 hopts hall.2 htail hpath
        (mem_cuts.mp (List.mem_of_mem_head? h))
      -- The first share is the whole component, as the others can be cut off what is left.
      obtain ⟨others, hothers⟩ := exists_shares_eq_cons hs hopt hsbare hslash htail
      rw [cuts, hothers, List.flatMap_cons, List.head?_append, List.head?_map] at h
      dsimp only at h
      rw [hys, Option.map_some, Option.some_or, Option.some.injEq] at h
      subst h
      have hcut := mem_cuts.mp (List.mem_of_mem_head? hys)
      refine ⟨?_, ih hmarked.2.2 hwhole hbare hpair ?_ hys⟩
      · rw [← hcut.eq_flatMap_text]
        cases tail with
        | nil => exact .inr rfl
        | cons c tail => exact .inl rfl
      · cases tail with
        | nil => exact Option.some_ne_none _ ∘ Eq.symm
        | cons c tail => exact getLast?_ne_of_cons (getLast?_ne_of_append hpath)

end

section

variable {isOptional : Text → Bool} {s : Segment} {x y : Share} {rest : Text}

namespace Segment

/-- A segment takes as many components as it stands for. -/
theorem count_own (hs : s.Whole isOptional) (hx : s.Takes SlashFree x rest) :
    x.own.count '/' + 1 = s.components.length := by
  unfold components
  cases hname : s.name with
  | none =>
    obtain ⟨hbefore, hafter, -⟩ := hs.literal hname
    have hb := hx.before
    have ha := hx.after
    rw [hbefore, sameFolding_nil_iff] at hb
    rw [hafter, sameFolding_nil_iff] at ha
    dsimp only
    rw [List.length_map, length_splitOn,
      ← (hx.literal hname).count_eq (caseless_of_le (by decide)), Share.own, hb, ha,
      List.nil_append, List.append_nil]
  | some name =>
    have hvalue := hx.value (by rw [hname]; exact Option.some_ne_none name)
    have hslash := slash_notMem_own hs hx.before hx.after hvalue
    rw [List.count_eq_zero.mpr hslash]
    rfl

/-- A segment can take only one share of a path that ends with a component. -/
theorem Takes.eq_of_separated (hs : s.Whole isOptional) {left : Text}
    (hx : s.Takes SlashFree x rest) (hy : s.Takes SlashFree y left) (hslash : x.slash = y.slash)
    (hxend : x.slash = true ∨ rest = []) (hyend : y.slash = true ∨ left = [])
    (htext : x.text ++ rest = y.text ++ left) : x = y ∧ rest = left := by
  have hlength : x.own.length = y.own.length :=
    Nat.le_antisymm (length_own_le hs hy hyend hx htext.symm) (length_own_le hs hx hxend hy htext)
  rw [x.text_eq_own, y.text_eq_own, hslash, List.append_assoc, List.append_assoc] at htext
  obtain ⟨hown, hrest⟩ := List.append_inj htext hlength
  refine ⟨?_, List.append_cancel_left hrest⟩
  have hbefore := hx.before.length_eq.trans hy.before.length_eq.symm
  have hafter := hx.after.length_eq.trans hy.after.length_eq.symm
  rw [x.length_own, y.length_own] at hlength
  unfold Share.own at hown
  obtain ⟨hfront, hafterEq⟩ := List.append_inj' hown hafter
  obtain ⟨hbeforeEq, hvalue⟩ := List.append_inj hfront hbefore
  obtain ⟨before, value, after, slash⟩ := x
  obtain ⟨before', value', after', slash'⟩ := y
  dsimp only at hbeforeEq hvalue hafterEq hslash
  rw [hbeforeEq, hvalue, hafterEq, hslash]

end Segment

end

section

variable {isOptional : Text → Bool} {s : Segment} {segments : List Segment} {x : Share}
  {shares others : List Share} {path rest : Text}

/-- The last share of a path that does not end with a slash has no separator. -/
theorem slash_eq_false_of_getLast? (h : (x.text ++ []).getLast? ≠ some '/') : x.slash = false := by
  rw [List.append_nil] at h
  cases hslash : x.slash with
  | false => rfl
  | true =>
    refine absurd ?_ h
    rw [x.text_eq_own, hslash, if_pos rfl, List.getLast?_concat]

/-- A path that does not end with a slash has no more components than the segments stand for, if the
values hold no slash. -/
theorem count_slash_lt_of_isCut (hne : segments ≠ []) (hwhole : ∀ d ∈ segments, d.Whole isOptional)
    (hcut : IsCut Segment.SlashFree segments shares path) (hpath : path.getLast? ≠ some '/') :
    path.count '/' + 1 ≤ (segments.flatMap Segment.components).length := by
  induction hcut using IsCut.induction with
  | nil => exact absurd rfl hne
  | cons s segments x shares rest htakes hcut ih =>
    obtain ⟨hs, hwhole⟩ := List.forall_mem_cons.mp hwhole
    have hown := Segment.count_own hs htakes
    rw [List.flatMap_cons, List.length_append, List.count_append, x.text_eq_own,
      List.count_append]
    by_cases hnil : segments = []
    · subst hnil
      obtain ⟨rfl, rfl⟩ := isCut_nil_iff.mp hcut
      rw [slash_eq_false_of_getLast? hpath]
      simp only [Bool.false_eq_true, if_false, List.count_nil]
      omega
    · have hrest := ih hnil hwhole (getLast?_ne_of_append hpath)
      have hone : (if x.slash then ['/'] else []).count '/' ≤ 1 := by
        cases x.slash <;> decide
      omega

/-- Where a path has as many components as the segments stand for, a separator stands behind every
share but the last one. -/
theorem slash_of_count_eq {d : Segment} (hwhole : ∀ e ∈ s :: d :: segments, e.Whole isOptional)
    (htakes : s.Takes Segment.SlashFree x rest)
    (hcut : IsCut Segment.SlashFree (d :: segments) shares rest)
    (hpath : (x.text ++ rest).getLast? ≠ some '/')
    (hcount : (x.text ++ rest).count '/' + 1 =
      ((s :: d :: segments).flatMap Segment.components).length) :
    x.slash = true ∧ rest.count '/' + 1 = ((d :: segments).flatMap Segment.components).length := by
  obtain ⟨hs, hwhole⟩ := List.forall_mem_cons.mp hwhole
  have hown := Segment.count_own hs htakes
  have hrest := count_slash_lt_of_isCut (List.cons_ne_nil d segments) hwhole hcut
    (getLast?_ne_of_append hpath)
  rw [List.flatMap_cons, List.length_append, List.count_append, x.text_eq_own,
    List.count_append] at hcount
  cases hslash : x.slash with
  | false =>
    rw [hslash] at hcount
    simp only [Bool.false_eq_true, if_false, List.count_nil] at hcount
    omega
  | true =>
    rw [hslash] at hcount
    simp only [if_true, List.count_singleton_self] at hcount
    exact ⟨rfl, by omega⟩

/-- A path that has as many components as the segments stand for can be cut in one way only, if the
values hold no slash. -/
theorem IsCut.eq_of_count_eq (hwhole : ∀ d ∈ segments, d.Whole isOptional)
    (hxs : IsCut Segment.SlashFree segments shares path)
    (hys : IsCut Segment.SlashFree segments others path) (hpath : path.getLast? ≠ some '/')
    (hcount : path.count '/' + 1 = (segments.flatMap Segment.components).length) :
    shares = others := by
  induction hxs using IsCut.induction generalizing others with
  | nil => exact absurd hcount (Nat.succ_ne_zero _)
  | cons s segments x shares rest hx hxs ih =>
    obtain ⟨y, later, left, rfl, htext, hy, hlater⟩ := isCut_cons_iff.mp hys
    cases segments with
    | nil =>
      obtain ⟨rfl, rfl⟩ := isCut_nil_iff.mp hxs
      obtain ⟨rfl, rfl⟩ := isCut_nil_iff.mp hlater
      have hslash := slash_eq_false_of_getLast? hpath
      rw [htext] at hpath
      rw [(Segment.Takes.eq_of_separated (hwhole s List.mem_cons_self) hx hy
        (hslash.trans (slash_eq_false_of_getLast? hpath).symm) (.inr rfl) (.inr rfl) htext).1]
    | cons d segments =>
      obtain ⟨hxslash, hrest⟩ := slash_of_count_eq hwhole hx hxs hpath hcount
      obtain ⟨hyslash, -⟩ :=
        slash_of_count_eq hwhole hy hlater (htext ▸ hpath) (htext ▸ hcount)
      obtain ⟨rfl, rfl⟩ := Segment.Takes.eq_of_separated (hwhole s List.mem_cons_self) hx hy
        (hxslash.trans hyslash.symm) (.inl hxslash) (.inl hyslash) htext
      rw [ih (List.forall_mem_cons.mp hwhole).2 hlater (getLast?_ne_of_append hpath) hrest]

/-- A path that is cut by required segments has as many components as the segments stand for. -/
theorem IsCut.count_eq (hne : segments ≠ []) (hmarked : Segment.Marked segments)
    (hwhole : ∀ d ∈ segments, d.Whole isOptional) (hreq : ∀ d ∈ segments, d.isOptional = false)
    (hcut : IsCut Segment.SlashFree segments shares path) (hpath : path.getLast? ≠ some '/') :
    path.count '/' + 1 = (segments.flatMap Segment.components).length := by
  induction hcut using IsCut.induction with
  | nil => exact absurd rfl hne
  | cons s segments x shares rest htakes hcut ih =>
    obtain ⟨hs, hwhole⟩ := List.forall_mem_cons.mp hwhole
    obtain ⟨hsreq, hreq⟩ := List.forall_mem_cons.mp hreq
    obtain ⟨hlast, hrest, hmarked⟩ := hmarked
    have hown := Segment.count_own hs htakes
    rw [List.flatMap_cons, List.length_append, List.count_append, x.text_eq_own,
      List.count_append]
    cases segments with
    | nil =>
      obtain ⟨rfl, rfl⟩ := isCut_nil_iff.mp hcut
      rw [slash_eq_false_of_getLast? hpath]
      simpa using hown
    | cons d segments =>
      have hbehind := ih (List.cons_ne_nil d segments) hmarked hwhole hreq
        (getLast?_ne_of_append hpath)
      have hslash : x.slash = true := by
        have hsep := htakes.separator
        have hdreq := hreq d List.mem_cons_self
        unfold Segment.Separates at hsep
        rw [hs.isGlued, hsreq, hlast, hrest] at hsep
        simpa [hdreq] using hsep
      rw [hslash, if_pos rfl, List.count_singleton_self]
      omega

end

end PathRouting
