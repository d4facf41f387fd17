import Mathlib.Data.List.Forall2
import PathRouting.Proofs.Regex.Reading

/-!
# Flags that only widen sets

Whether letters match in either case and whether the dot matches line ends makes a difference to
the sets of characters in an expression, and to nothing else. So an expression that is read under
some flags is read under others that differ from them in these two: with other sets, but with the
same heights and the same text left.
-/

namespace PathRouting.Regex

/-- Flags differ at most in the two that only change sets of characters. -/
structure Flags.Alike (f g : Flags) : Prop where
  /-- Lines play the same part. -/
  multiLine : f.multiLine = g.multiLine
  /-- Repetitions are greedy alike. -/
  swapGreed : f.swapGreed = g.swapGreed
  /-- Classes are those of Unicode alike. -/
  unicode : f.unicode = g.unicode
  /-- Lines end alike. -/
  crlf : f.crlf = g.crlf
  /-- Blanks are skipped alike. -/
  verbose : f.verbose = g.verbose

/-- Escape sequences stand for the same, up to the characters of a set. -/
inductive Primitive.Alike : Primitive → Primitive → Prop
  /-- The same character. -/
  | char (c : Char) (isByte : Bool) : Alike (.char c isByte) (.char c isByte)
  /-- Some set. -/
  | set (s s' : CharSet) : Alike (.set s) (.set s')
  /-- The same condition. -/
  | look (l : Look) : Alike (.look l) (.look l)

/-- The same escape sequences stand for the same. -/
theorem Primitive.Alike.refl (p : Primitive) : p.Alike p := by
  cases p with
  | char c isByte => exact .char c isByte
  | set s => exact .set s s
  | look l => exact .look l

/-- What has been read of a bracket, up to the characters of sets. -/
structure Bracket.Alike (b c : Bracket) : Prop where
  /-- The classes are negated alike. -/
  negated : b.negated = c.negated
  /-- The same operator is pending. -/
  pending : b.pending.map (fun p => (p.1, p.2.height)) = c.pending.map fun p => (p.1, p.2.height)
  /-- The items are equally high. -/
  items : b.items.map (·.height) = c.items.map (·.height)

section

variable {f g : Flags} (hfg : f.Alike g)
include hfg

/-- A character is written alike. -/
theorem Flags.Alike.literal (c : Char) (isByte : Bool) : f.literal c isByte = g.literal c isByte := by
  unfold Flags.literal
  rw [hfg.unicode]

/-- Whether a class can be negated does not depend on its characters. -/
theorem Flags.Alike.closeNegate {negated : Bool} {s : CharSet} (s' : CharSet) {u : CharSet}
    (h : f.closeNegate negated s = .ok u) : ∃ u', g.closeNegate negated s' = .ok u' := by
  unfold Flags.closeNegate at h ⊢
  rw [← hfg.unicode]
  split at h
  · cases h
  · rename_i hneg
    exact ⟨_, if_neg hneg⟩

/-- A property is read alike. -/
theorem Flags.Alike.propertyEscape {negated : Bool} {t left : Text} {p : Primitive}
    (h : propertyEscape f negated t = .ok (p, left)) :
    ∃ q, propertyEscape g negated t = .ok (q, left) ∧ p.Alike q := by
  unfold Regex.propertyEscape at h ⊢
  rw [← hfg.verbose, ← hfg.unicode]
  generalize skipBlanks f.verbose t = u at h ⊢
  dsimp only [bind, Except.bind] at h ⊢
  split at h
  · cases h
  · split at h
    · split at h
      · cases h
      · rename_i hunicode
        simp only [if_neg hunicode]
        split at h
        · cases h
        · cases h
          exact ⟨_, rfl, .set _ _⟩
    · cases h
  · split at h
    · cases h
    · rename_i hslash
      simp only [if_neg hslash]
      split at h
      · cases h
      · rename_i hunicode
        simp only [if_neg hunicode]
        split at h
        · cases h
        · cases h
          exact ⟨_, rfl, .set _ _⟩

/-- An escape sequence is read alike. -/
theorem Flags.Alike.primitive {t left : Text} {p : Primitive}
    (h : primitive f t = .ok (p, left)) :
    ∃ q, primitive g t = .ok (q, left) ∧ p.Alike q := by
  have hsame : Regex.primitive g t = Regex.primitive f t →
      ∃ q, Regex.primitive g t = .ok (q, left) ∧ p.Alike q :=
    fun heq => ⟨p, heq.trans h, .refl p⟩
  have hperl : ∀ c, perlSet g c = perlSet f c := by
    intro c
    unfold perlSet
    rw [hfg.unicode]
  have hword : ∀ t, wordBoundEscape g t = wordBoundEscape f t := by
    intro t
    unfold wordBoundEscape
    rw [hfg.unicode, hfg.verbose]
  cases t with
  | nil => cases h
  | cons c rest =>
    by_cases hp : c = 'p'
    · subst hp
      exact hfg.propertyEscape h
    · by_cases hP : c = 'P'
      · subst hP
        exact hfg.propertyEscape h
      · refine hsame ?_
        unfold Regex.primitive
        simp only [hperl, hword, hfg.unicode, hfg.verbose]
        split <;> first | rfl | contradiction

/-- A member of a class is read alike. -/
theorem Flags.Alike.classMember {t left : Text} {p : Primitive}
    (h : classMember f t = .ok (p, left)) :
    ∃ q, classMember g t = .ok (q, left) ∧ p.Alike q := by
  unfold Regex.classMember at h ⊢
  split at h
  · cases h
  · exact hfg.primitive h
  · cases h
    exact ⟨_, rfl, .refl _⟩

/-- The one character of a member is the same. -/
theorem Flags.Alike.char? {p q : Primitive} (hpq : p.Alike q) : p.char? f = q.char? g := by
  cases hpq with
  | char c isByte =>
    unfold Primitive.char?
    dsimp only
    rw [hfg.literal, hfg.unicode]
  | set s s' => rfl
  | look l => rfl

/-- A member has some characters alike. -/
theorem Flags.Alike.set? {p q : Primitive} (hpq : p.Alike q) {s : CharSet}
    (h : p.set? f = .ok s) : ∃ s', q.set? g = .ok s' := by
  cases hpq with
  | char c isByte =>
    have hchar := hfg.char? (.char c isByte)
    unfold Primitive.set? at h ⊢
    dsimp only at h ⊢
    rw [← hchar]
    exact ⟨s, h⟩
  | set s s' => exact ⟨s', rfl⟩
  | look l => cases h

/-- A range is read alike. -/
theorem Flags.Alike.rangeFrom {p q : Primitive} (hpq : p.Alike q) {t left : Text} {s : CharSet}
    (h : rangeFrom f p t = .ok (s, left)) : ∃ s', rangeFrom g q t = .ok (s', left) := by
  unfold Regex.rangeFrom at h ⊢
  rw [← hfg.verbose]
  split at h
  · dsimp only at h ⊢
    split at h
    · rename_i hnext
      obtain ⟨s', hs, h⟩ := bind_eq_ok h
      cases h
      obtain ⟨u, hu⟩ := hfg.set? hpq hs
      rw [if_pos hnext, hu]
      exact ⟨u, rfl⟩
    · rename_i hnext
      obtain ⟨⟨last, left'⟩, hlast, h⟩ := bind_eq_ok h
      obtain ⟨last', hlast', halike⟩ := hfg.classMember hlast
      rw [if_neg hnext, hlast']
      dsimp only [bind, Except.bind] at h ⊢
      rw [← hfg.char? hpq, ← hfg.char? halike]
      exact ⟨s, h⟩
  · obtain ⟨s', hs, h⟩ := bind_eq_ok h
    cases h
    obtain ⟨u, hu⟩ := hfg.set? hpq hs
    rw [hu]
    exact ⟨u, rfl⟩

/-- An item of a class is read alike. -/
theorem Flags.Alike.classItem {t left : Text} {s : CharSet} (h : classItem f t = .ok (s, left)) :
    ∃ s', classItem g t = .ok (s', left) := by
  unfold Regex.classItem at h ⊢
  obtain ⟨⟨first, mid⟩, hfirst, h⟩ := bind_eq_ok h
  obtain ⟨first', hfirst', halike⟩ := hfg.classMember hfirst
  rw [hfirst']
  dsimp only [bind, Except.bind] at h ⊢
  rw [← hfg.verbose]
  exact hfg.rangeFrom halike h

end

namespace Bracket.Alike

variable {f g : Flags} {b c : Bracket} (hbc : b.Alike c)
include hbc

/-- One more item. -/
theorem add {n m : Nested} (h : n.height = m.height) : (b.add n).Alike (c.add m) :=
  ⟨hbc.negated, hbc.pending, by simp [Bracket.add, h, hbc.items]⟩

/-- The items are equally high together. -/
theorem listed : b.listed.height = c.listed.height := by
  have hitems := hbc.items
  unfold Bracket.listed
  match hb : b.items, hc : c.items with
  | [], [] => rfl
  | [n], [m] => simpa [hb, hc] using hitems
  | n :: n' :: ns, m :: m' :: ms =>
    rw [hb, hc] at hitems
    dsimp only
    rw [hitems]
  | [], _ :: _ => simp [hb, hc] at hitems
  | _ :: _, [] => simp [hb, hc] at hitems
  | [_], _ :: _ :: _ => simp [hb, hc] at hitems
  | _ :: _ :: _, [_] => simp [hb, hc] at hitems

/-- The brackets are equally high. -/
theorem total : (b.total f).height = (c.total g).height := by
  have hpending := hbc.pending
  unfold Bracket.total
  match hb : b.pending, hc : c.pending with
  | none, none => exact hbc.listed
  | some (op, n), some (op', m) =>
    rw [hb, hc, Option.map_some, Option.map_some, Option.some.injEq, Prod.mk.injEq] at hpending
    dsimp only
    rw [hpending.2, hbc.listed]
  | none, some _ => simp [hb, hc] at hpending
  | some _, none => simp [hb, hc] at hpending

/-- The brackets after an operator. -/
theorem operator (op : SetOp) : (b.operator f op).Alike (c.operator g op) :=
  ⟨hbc.negated, by simp [Bracket.operator, hbc.total (f := f) (g := g)], rfl⟩

end Bracket.Alike

/-- Reading a part of a class leads to the same, up to the characters of sets. -/
inductive ClassStep.Alike : ClassStep → ClassStep → Prop
  /-- Both classes are closed and are equally high. -/
  | done {n m : Nested} (h : n.height = m.height) : Alike (.done n) (.done m)
  /-- Reading goes on. -/
  | more {outer outer' : List Bracket} {b c : Bracket}
    (houter : List.Forall₂ Bracket.Alike outer outer') (hbc : b.Alike c) :
    Alike (.more outer b) (.more outer' c)

section

variable {f g : Flags} (hfg : f.Alike g)
include hfg

/-- A part of a class is read alike. -/
theorem Flags.Alike.classPart {outer outer' : List Bracket} {b c : Bracket}
    (houter : List.Forall₂ Bracket.Alike outer outer') (hbc : b.Alike c) {t left : Text}
    {step : ClassStep} (h : classPart f outer b t = .ok (step, left)) :
    ∃ step', classPart g outer' c t = .ok (step', left) ∧ step.Alike step' := by
  unfold Regex.classPart at h
  split at h
  · cases h
  · split at h
    · rename_i negated set left' hnamed
      obtain ⟨u, hu, h⟩ := bind_eq_ok h
      cases h
      obtain ⟨u', hu'⟩ := hfg.closeNegate set hu
      refine ⟨.more outer' (c.add ⟨u', 0⟩), ?_, .more houter (hbc.add rfl)⟩
      simp only [Regex.classPart, hnamed, hu']
      rfl
    · rename_i hnamed
      cases h
      refine ⟨_, ?_, .more (.cons hbc houter) ⟨rfl, rfl, rfl⟩⟩
      simp only [Regex.classPart, hnamed, ← hfg.verbose]
      rfl
  · obtain ⟨u, hu, h⟩ := bind_eq_ok h
    rw [hbc.negated] at hu
    obtain ⟨u', hu'⟩ := hfg.closeNegate (c.total g).set hu
    have hheight := hbc.total (f := f) (g := g)
    cases houter with
    | nil =>
      cases h
      refine ⟨.done ⟨u', (c.total g).height + 1⟩, ?_, .done (by rw [hheight])⟩
      simp only [Regex.classPart, hu']
      rfl
    | @cons parent parent' outer outer' hparent houter =>
      cases h
      refine ⟨.more outer' (parent'.add ⟨u', (c.total g).height + 1⟩), ?_,
        .more houter (hparent.add (by rw [hheight]))⟩
      simp only [Regex.classPart, hu']
      rfl
  · cases h
    exact ⟨_, rfl, .more houter (hbc.operator _)⟩
  · cases h
    exact ⟨_, rfl, .more houter (hbc.operator _)⟩
  · cases h
    exact ⟨_, rfl, .more houter (hbc.operator _)⟩
  · rename_i hnil hopen hclose hand hhyphen htilde
    obtain ⟨⟨set, left'⟩, hitem, h⟩ := bind_eq_ok h
    cases h
    obtain ⟨set', hitem'⟩ := hfg.classItem hitem
    refine ⟨.more outer' (c.add ⟨set', 0⟩), ?_, .more houter (hbc.add rfl)⟩
    unfold Regex.classPart
    split
    · exact absurd rfl hnil
    · exact absurd rfl (hopen _)
    · exact absurd rfl (hclose _)
    · exact absurd rfl (hand _)
    · exact absurd rfl (hhyphen _)
    · exact absurd rfl (htilde _)
    · rw [hitem']
      rfl

/-- Classes are read alike. -/
theorem Flags.Alike.classFrom {fuel : Nat} {outer outer' : List Bracket} {b c : Bracket}
    (houter : List.Forall₂ Bracket.Alike outer outer') (hbc : b.Alike c) {t left : Text} {n : Nested}
    (h : classFrom f fuel outer b t = .ok (n, left)) :
    ∃ m, classFrom g fuel outer' c t = .ok (m, left) ∧ n.height = m.height := by
  induction fuel generalizing outer outer' b c t with
  | zero => cases h
  | succ fuel ih =>
    unfold Regex.classFrom at h ⊢
    obtain ⟨⟨step, mid⟩, hstep, h⟩ := bind_eq_ok h
    obtain ⟨step', hstep', halike⟩ := hfg.classPart houter hbc hstep
    rw [← hfg.verbose, hstep']
    cases halike with
    | done hheight =>
      cases h
      exact ⟨_, rfl, hheight⟩
    | more houter hbc => exact ih houter hbc h

/-- A bracketed class is read alike. -/
theorem Flags.Alike.bracketedClass {t left : Text} {n : Nested}
    (h : bracketedClass f t = .ok (n, left)) :
    ∃ m, bracketedClass g t = .ok (m, left) ∧ n.height = m.height := by
  unfold Regex.bracketedClass at h ⊢
  rw [← hfg.verbose]
  exact hfg.classFrom .nil ⟨rfl, rfl, rfl⟩ h

end

end PathRouting.Regex
