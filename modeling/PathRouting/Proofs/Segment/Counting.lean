import PathRouting.Proofs.Segment.FirstCut

/-!
# Characters without case in a path

Literal text may stand in a path in another case. A character that has no other case and is no slash
stands in the path as often as it does in the literal text of the segments and in the values together,
however the path is cut.
-/

namespace PathRouting

open Unicode (FoldEq)

/-- A character is the only one that it is equal to up to case. -/
def Caseless (c : Char) : Prop :=
  ∀ d, FoldEq d c → d = c

/-- A character before the letters is caseless. -/
theorem caseless_of_le {c : Char} (hc : c.toNat ≤ 0x3F) : Caseless c :=
  fun _ hd => (Unicode.foldEq_iff_of_le hc).mp hd.symm

section

variable {c : Char}

/-- Texts that are equal up to case hold a caseless character equally often. -/
theorem SameFolding.count_eq {t u : Text} (h : SameFolding t u) (hc : Caseless c) :
    t.count c = u.count c := by
  induction u generalizing t with
  | nil => rw [sameFolding_nil_iff.mp h]
  | cons d u ih =>
    obtain ⟨e, v, rfl, hfold, hrest⟩ := sameFolding_cons_iff.mp h
    have hsame : e = c ↔ d = c := by
      constructor
      · rintro rfl
        exact hc d hfold.symm
      · rintro rfl
        exact hc e hfold
    have hbeq : (e == c) = (d == c) := by
      rw [Bool.eq_iff_iff, beq_iff_eq, beq_iff_eq, hsame]
    rw [List.count_cons, List.count_cons, ih hrest, hbeq]

/-- What a share holds of a character other than the slash. -/
theorem Share.count_text (hslash : c ≠ '/') (x : Share) :
    x.text.count c = x.before.count c + x.value.count c + x.after.count c := by
  have hseparator : (if x.slash then ['/'] else []).count c = 0 := by
    rw [List.count_eq_zero]
    split
    · exact fun h => hslash (List.mem_singleton.mp h)
    · exact List.not_mem_nil
  rw [text, List.count_append, List.count_append, List.count_append, hseparator]
  exact Nat.add_zero _

/-- The literal text of a segment. -/
def Segment.literalText (s : Segment) : Text :=
  Regex.unescape s.before ++ s.name.elim (Regex.unescape s.pattern) (fun _ => []) ++
    Regex.unescape s.after

/-- A caseless character other than the slash stands in a path as often as in the literal text and in
the values together. -/
theorem IsCut.count_caseless {allowed : Segment → Text → Prop} {segments : List Segment}
    {shares : List Share} {path : Text} (h : IsCut allowed segments shares path) (hc : Caseless c)
    (hslash : c ≠ '/') : path.count c = (segments.flatMap Segment.literalText).count c +
      ((captured segments shares).flatMap Prod.snd).count c := by
  induction h using IsCut.induction with
  | nil => rfl
  | cons s segments x shares rest htakes _ ih =>
    have hown : x.text.count c = s.literalText.count c +
        ((s.name.map (·, x.value)).toList.flatMap Prod.snd).count c := by
      rw [Share.count_text hslash, htakes.before.count_eq hc, htakes.after.count_eq hc,
        Segment.literalText, List.count_append, List.count_append]
      cases hname : s.name with
      | none =>
        rw [(htakes.literal hname).count_eq hc]
        rfl
      | some name =>
        have hvalue : ((some name).map (·, x.value)).toList.flatMap Prod.snd = x.value :=
          List.flatMap_singleton ..
        rw [hvalue, Option.elim_some, List.count_nil]
        omega
    rw [List.count_append, hown, ih, captured_cons, List.flatMap_cons, List.flatMap_append,
      List.count_append, List.count_append]
    omega

end

end PathRouting
