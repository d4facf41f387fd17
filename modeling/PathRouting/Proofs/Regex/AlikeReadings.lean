import PathRouting.Proofs.Regex.Alike
import PathRouting.Proofs.Regex.Token

/-!
# Expressions under flags that only widen sets

Under flags that differ at most in the two that only change sets, the tokens of a text differ at most
in the characters of sets. Adding them keeps states of reading alike, so which texts are expressions
does not depend on these flags.
-/

namespace PathRouting.Regex

/-- Levels that differ at most in the characters of sets. -/
structure Level.Alike (l m : Level) : Prop where
  /-- The finished branches are equally high. -/
  branches : l.branches.map (·.2) = m.branches.map (·.2)
  /-- The pieces are equally high, and the same ones may be repeated. -/
  pieces : l.pieces.map (fun p => (p.height, p.repeatable)) =
    m.pieces.map fun p => (p.height, p.repeatable)

/-- What is laid aside, up to the characters of sets. -/
structure Frame.Alike (a b : Frame) : Prop where
  /-- The levels are alike. -/
  level : a.level.Alike b.level
  /-- The flags are alike. -/
  flags : a.flags.Alike b.flags
  /-- The groups have the same number. -/
  index : a.index = b.index

/-- Tokens that differ at most in the characters of sets. -/
inductive Token.Alike : Token → Token → Prop
  /-- Groups of the same name. -/
  | capture (name : Option Text) : Alike (.capture name) (.capture name)
  /-- Groups with flags that are alike. -/
  | flagged {f g : Flags} (h : f.Alike g) : Alike (.flagged f) (.flagged g)
  /-- Flags that are alike. -/
  | switch {f g : Flags} (h : f.Alike g) : Alike (.switch f) (.switch g)
  /-- Ends of groups. -/
  | close : Alike .close .close
  /-- Ends of branches. -/
  | bar : Alike .bar .bar
  /-- Bracketed classes that are equally high. -/
  | bracketed {n m : Nested} (h : n.height = m.height) : Alike (.bracketed n) (.bracketed m)
  /-- The same, up to the characters of a set. -/
  | primitive {p q : Primitive} (h : p.Alike q) : Alike (.primitive p) (.primitive q)
  /-- The same repetition. -/
  | repetition (min : Nat) (max : Option Nat) (greedy : Bool) :
      Alike (.repetition min max greedy) (.repetition min max greedy)

/-- A token is like itself. -/
theorem Token.Alike.refl (token : Token) : token.Alike token := by
  have hflags : ∀ f : Flags, f.Alike f := fun _ => ⟨rfl, rfl, rfl, rfl, rfl⟩
  cases token with
  | capture name => exact .capture name
  | flagged flags => exact .flagged (hflags flags)
  | switch flags => exact .switch (hflags flags)
  | close => exact .close
  | bar => exact .bar
  | bracketed nested => exact .bracketed rfl
  | primitive p => exact .primitive (.refl p)
  | repetition min max greedy => exact .repetition min max greedy

/-- States of reading that differ at most in the characters of sets. -/
structure Reading.Alike (r s : Reading) : Prop where
  /-- The flags are alike. -/
  flags : r.flags.Alike s.flags
  /-- The innermost open groups are alike. -/
  level : r.level.Alike s.level
  /-- The groups around are alike. -/
  outer : List.Forall₂ Frame.Alike r.outer s.outer
  /-- The names are the same. -/
  names : r.names = s.names
  /-- The next group has the same number. -/
  nextIndex : r.nextIndex = s.nextIndex

namespace Level.Alike

variable {l m : Level} (hlm : l.Alike m)
include hlm

/-- One more piece. -/
theorem add {p q : Piece} (h : (p.height, p.repeatable) = (q.height, q.repeatable)) :
    (l.add p).Alike (m.add q) :=
  ⟨hlm.branches, by simp only [Level.add, List.map_cons, h, hlm.pieces]⟩

/-- The current branches are equally high. -/
theorem branch : l.branch.2 = m.branch.2 := by
  have hpieces := congrArg (List.map Prod.fst) hlm.pieces
  rw [List.map_map, List.map_map] at hpieces
  change l.pieces.map (·.height) = m.pieces.map (·.height) at hpieces
  unfold Level.branch
  match hl : l.pieces, hm : m.pieces with
  | [], [] => rfl
  | [p], [q] => simpa [hl, hm] using hpieces
  | p :: p' :: ps, q :: q' :: qs =>
    rw [hl, hm] at hpieces
    dsimp only
    rw [hpieces]
  | [], _ :: _ => simp [hl, hm] at hpieces
  | _ :: _, [] => simp [hl, hm] at hpieces
  | [_], _ :: _ :: _ => simp [hl, hm] at hpieces
  | _ :: _ :: _, [_] => simp [hl, hm] at hpieces

/-- After a bar. -/
theorem nextBranch : l.nextBranch.Alike m.nextBranch :=
  ⟨by simp only [Level.nextBranch, List.map_cons, hlm.branch, hlm.branches], rfl⟩

/-- The levels are equally high. -/
theorem whole : l.whole.2 = m.whole.2 := by
  have hbranches := hlm.branches
  unfold Level.whole
  match hl : l.branches, hm : m.branches with
  | [], [] => exact hlm.branch
  | b :: bs, c :: cs =>
    rw [hl, hm] at hbranches
    have hall : (l.branch :: b :: bs).map (·.2) = (m.branch :: c :: cs).map (·.2) :=
      congrArg₂ List.cons hlm.branch hbranches
    dsimp only
    rw [List.map_reverse, List.map_reverse, hall]
  | [], _ :: _ => simp [hl, hm] at hbranches
  | _ :: _, [] => simp [hl, hm] at hbranches

end Level.Alike

/-- A letter switches flags alike. -/
theorem Flags.Alike.switch? {f g f' : Flags} (hfg : f.Alike g) {letter : Char} {on : Bool}
    (h : f.switch? letter on = some f') : ∃ g', g.switch? letter on = some g' ∧ f'.Alike g' := by
  obtain ⟨hmulti, hswap, hunicode, hcrlf, hverbose⟩ := hfg
  unfold Flags.switch? at h ⊢
  split at h
  all_goals cases h
  all_goals exact ⟨_, rfl, by constructor <;> first | rfl | assumption⟩

/-- A list of flags changes flags alike. -/
theorem Flags.Alike.adjustFrom {seen : List Char} {on : Bool} {f g f' : Flags} (hfg : f.Alike g)
    {letters : Text} (h : adjustFrom seen on f letters = some f') :
    ∃ g', adjustFrom seen on g letters = some g' ∧ f'.Alike g' := by
  fun_induction Flags.adjustFrom seen on f letters generalizing g with
  | case1 seen on f =>
    cases h
    exact ⟨g, rfl, hfg⟩
  | case2 => cases h
  | case3 seen f rest hrest ih =>
    obtain ⟨g', hg', halike⟩ := ih hfg h
    refine ⟨g', ?_, halike⟩
    rw [Flags.adjustFrom, if_pos rfl]
    · exact hg'
    · exact hrest
  | case4 => cases h
  | case5 => cases h
  | case6 seen on f c rest hhyphen hhyphens hseen f₁ hf₁ ih =>
    obtain ⟨g₁, hg₁, hf₁g₁⟩ := hfg.switch? hf₁
    obtain ⟨g', hg', halike⟩ := ih hf₁g₁ h
    refine ⟨g', ?_, halike⟩
    rw [Flags.adjustFrom, if_neg hseen, hg₁]
    · exact hg'
    · exact hhyphen
    · exact hhyphens
  | case7 => cases h

namespace Flags.Alike

variable {f g : Flags} (hfg : f.Alike g) {t left : Text} {a : Token}
include hfg

/-- A list of flags. -/
theorem flagList (h : Token.flagList f t = .ok (a, left)) :
    ∃ b, Token.flagList g t = .ok (b, left) ∧ a.Alike b := by
  unfold Token.flagList at h ⊢
  dsimp only at h ⊢
  split at h
  · cases h
  · split at h
    · cases h
    · rename_i flags hflags
      obtain ⟨flags', hflags', halike⟩ := hfg.adjustFrom hflags
      have hadjusted : g.adjusted? _ = some flags' := hflags'
      rw [hadjusted]
      dsimp only
      split at h
      · rename_i hcolon
        cases h
        rw [if_pos hcolon]
        exact ⟨_, rfl, .flagged halike⟩
      · rename_i hcolon
        rw [if_neg hcolon]
        split at h
        · cases h
        · rename_i hletters
          cases h
          rw [if_neg hletters]
          exact ⟨_, rfl, .switch halike⟩

/-- The start of a group, or a list of flags. -/
theorem groupStart (h : Token.groupStart f t = .ok (a, left)) :
    ∃ b, Token.groupStart g t = .ok (b, left) ∧ a.Alike b := by
  unfold Token.groupStart Token.groupHead at h ⊢
  rw [← hfg.verbose]
  split at h
  · cases h
  · cases h
  · cases h
  · cases h
  · obtain ⟨⟨name, mid⟩, hname, h⟩ := bind_eq_ok h
    cases h
    exact ⟨_, congrArg (· >>= _) hname, .capture (some name)⟩
  · obtain ⟨⟨name, mid⟩, hname, h⟩ := bind_eq_ok h
    cases h
    exact ⟨_, congrArg (· >>= _) hname, .capture (some name)⟩
  · exact hfg.flagList h
  · cases h
    exact ⟨_, rfl, .capture none⟩

/-- A repetition with counts. -/
theorem counted (h : Token.counted f t = .ok (a, left)) :
    Token.counted g t = .ok (a, left) := by
  unfold Token.counted at h ⊢
  rwa [← hfg.verbose]

/-- The dot stands for some set. -/
theorem dotSet {s : CharSet} (h : Token.dotSet f = .ok s) : ∃ s', Token.dotSet g = .ok s' := by
  unfold Token.dotSet at h ⊢
  rw [← hfg.unicode]
  split at h
  · cases h
  · rename_i hunicode
    rw [if_neg hunicode]
    repeat' split
    all_goals exact ⟨_, rfl⟩

/-- The start that `^` asks for is the same one. -/
theorem startLook_eq : startLook f = startLook g := by
  unfold startLook
  rw [hfg.multiLine, hfg.crlf]

/-- The end that `$` asks for is the same one. -/
theorem endLook_eq : endLook f = endLook g := by
  unfold endLook
  rw [hfg.multiLine, hfg.crlf]

/-- Any token. -/
theorem readToken {c : Char} (h : Token.read f c t = .ok (a, left)) :
    ∃ b, Token.read g c t = .ok (b, left) ∧ a.Alike b := by
  unfold Token.read at h
  split at h
  · exact hfg.groupStart h
  · cases h
    exact ⟨_, rfl, .close⟩
  · cases h
    exact ⟨_, rfl, .bar⟩
  · obtain ⟨⟨n, left'⟩, hclass, h⟩ := bind_eq_ok h
    cases h
    obtain ⟨m, hm, hheight⟩ := hfg.bracketedClass hclass
    exact ⟨_, congrArg (· >>= _) hm, .bracketed hheight⟩
  · exact ⟨a, h, .refl a⟩
  · exact ⟨a, h, .refl a⟩
  · exact ⟨a, h, .refl a⟩
  · exact ⟨a, hfg.counted h, .refl a⟩
  · obtain ⟨⟨p, left'⟩, hprim, h⟩ := bind_eq_ok h
    cases h
    obtain ⟨q, hq, hpq⟩ := hfg.primitive hprim
    exact ⟨_, congrArg (· >>= _) hq, .primitive hpq⟩
  · obtain ⟨s, hdot, h⟩ := bind_eq_ok h
    cases h
    obtain ⟨s', hs'⟩ := hfg.dotSet hdot
    exact ⟨_, congrArg (· >>= _) hs', .primitive (.set s s')⟩
  · cases h
    rw [hfg.startLook_eq]
    exact ⟨_, rfl, .refl _⟩
  · cases h
    rw [hfg.endLook_eq]
    exact ⟨_, rfl, .refl _⟩
  · cases h
    refine ⟨.primitive (.set (g.close (.single c))), ?_, .primitive (.set _ _)⟩
    unfold Token.read
    split
    all_goals first
      | contradiction
      | rfl

end Flags.Alike

namespace Reading.Alike

variable {r r' s : Reading} (hrs : r.Alike s)
include hrs

/-- Adding a piece. -/
theorem add {e e' : Expr} {height : Nat} (h : r.add e height = .ok r') :
    ∃ s', s.add e' height = .ok s' ∧ r'.Alike s' := by
  unfold Reading.add at h ⊢
  split at h
  · cases h
  · rename_i hheight
    cases h
    rw [if_neg hheight]
    exact ⟨_, rfl, hrs.flags, hrs.level.add rfl, hrs.outer, hrs.names, hrs.nextIndex⟩

/-- Adding a piece of height zero. -/
theorem addFlat (e e' : Expr) : (r.addFlat e).Alike (s.addFlat e') :=
  ⟨hrs.flags, hrs.level.add rfl, hrs.outer, hrs.names, hrs.nextIndex⟩

/-- Adding what an escape sequence stands for. -/
theorem addPrimitive {p q : Primitive} (hpq : p.Alike q) (h : r.addPrimitive p = .ok r') :
    ∃ s', s.addPrimitive q = .ok s' ∧ r'.Alike s' := by
  cases hpq with
  | char c isByte =>
    obtain ⟨c', hc, h⟩ := bind_eq_ok h
    cases h
    rw [hrs.flags.literal] at hc
    refine ⟨_, ?_, hrs.addFlat _ (.set (s.flags.close (.single c')))⟩
    change (s.flags.literal c isByte >>= _) = _
    rw [hc]
    rfl
  | set u u' =>
    cases h
    exact ⟨_, rfl, hrs.addFlat _ _⟩
  | look l =>
    cases h
    exact ⟨_, rfl, hrs.addFlat _ _⟩

/-- Opening a group. -/
theorem openGroup {f g : Flags} (hfg : f.Alike g) (index : Option Nat) :
    (r.openGroup f index).Alike (s.openGroup g index) :=
  ⟨hfg, ⟨rfl, rfl⟩, .cons ⟨hrs.level, hrs.flags, rfl⟩ hrs.outer, hrs.names, hrs.nextIndex⟩

/-- Opening a group that remembers. -/
theorem openCapture {name : Option Text} (h : r.openCapture name = .ok r') :
    ∃ s', s.openCapture name = .ok s' ∧ r'.Alike s' := by
  have hopen := hrs.openGroup hrs.flags (some r.nextIndex)
  unfold Reading.openCapture at h ⊢
  dsimp only at h ⊢
  rw [← hrs.nextIndex, ← hrs.names]
  split at h
  · cases h
    exact ⟨_, rfl, hopen.flags, hopen.level, hopen.outer, hrs.names, rfl⟩
  · split at h
    · cases h
    · rename_i hnew
      cases h
      rw [if_neg hnew]
      exact ⟨_, rfl, hopen.flags, hopen.level, hopen.outer, rfl, rfl⟩

/-- Closing a group. -/
theorem closeGroup (h : r.closeGroup = .ok r') :
    ∃ s', s.closeGroup = .ok s' ∧ r'.Alike s' := by
  have houter := hrs.outer
  unfold Reading.closeGroup at h ⊢
  cases hr : r.outer with
  | nil =>
    rw [hr] at h
    cases h
  | cons frame outer =>
    rw [hr] at h houter
    cases hs : s.outer with
    | nil =>
      rw [hs] at houter
      cases houter
    | cons frame' outer' =>
      rw [hs] at houter
      obtain ⟨hframe, houter⟩ := List.forall₂_cons.mp houter
      have hclosed : Reading.Alike
          { r with flags := frame.flags, level := frame.level, outer := outer }
          { s with flags := frame'.flags, level := frame'.level, outer := outer' } :=
        ⟨hframe.flags, hframe.level, houter, hrs.names, hrs.nextIndex⟩
      dsimp only at h ⊢
      rw [hrs.level.whole] at h
      exact hclosed.add h

/-- Repeating the last piece. -/
theorem repeatLast {min : Nat} {max : Option Nat} {greedy : Bool}
    (h : r.repeatLast min max greedy = .ok r') :
    ∃ s', s.repeatLast min max greedy = .ok s' ∧ r'.Alike s' := by
  have hpieces := hrs.level.pieces
  unfold Reading.repeatLast at h ⊢
  cases hr : r.level.pieces with
  | nil =>
    rw [hr] at h
    cases h
  | cons p ps =>
    rw [hr] at h hpieces
    cases hs : s.level.pieces with
    | nil =>
      rw [hs] at hpieces
      cases hpieces
    | cons q qs =>
      rw [hs, List.map_cons, List.map_cons, List.cons.injEq, Prod.mk.injEq] at hpieces
      obtain ⟨⟨hheight, hrep⟩, hrest⟩ := hpieces
      have hbefore : Reading.Alike { r with level := { r.level with pieces := ps } }
          { s with level := { s.level with pieces := qs } } :=
        ⟨hrs.flags, ⟨hrs.level.branches, hrest⟩, hrs.outer, hrs.names, hrs.nextIndex⟩
      dsimp only at h ⊢
      rw [← hrep, ← hheight]
      split at h
      · cases h
      · rename_i hrepeatable
        rw [if_neg hrepeatable]
        exact hbefore.add h

/-- Adding a token. -/
theorem take {token token' : Token} (htoken : token.Alike token') (h : r.take token = .ok r') :
    ∃ s', s.take token' = .ok s' ∧ r'.Alike s' := by
  cases htoken with
  | capture name => exact hrs.openCapture h
  | flagged halike =>
    cases h
    exact ⟨_, rfl, hrs.openGroup halike none⟩
  | switch halike =>
    cases h
    exact ⟨_, rfl, halike, hrs.level.add rfl, hrs.outer, hrs.names, hrs.nextIndex⟩
  | close => exact hrs.closeGroup h
  | bar =>
    cases h
    exact ⟨_, rfl, hrs.flags, hrs.level.nextBranch, hrs.outer, hrs.names, hrs.nextIndex⟩
  | bracketed hheight =>
    have hadd : r.add _ _ = .ok r' := h
    rw [hheight] at hadd
    exact hrs.add hadd
  | primitive halike => exact hrs.addPrimitive halike h
  | repetition min max greedy => exact hrs.repeatLast h

/-- Reading to the end. -/
theorem readParts {fuel : Nat} {t : Text} {final : Reading}
    (h : readParts fuel r t = .ok final) :
    ∃ final', readParts fuel s t = .ok final' ∧ final.Alike final' := by
  induction fuel generalizing r s t with
  | zero => cases h
  | succ fuel ih =>
    unfold Regex.readParts at h ⊢
    rw [← hrs.flags.verbose]
    split at h
    · cases h
      exact ⟨s, rfl, hrs⟩
    · obtain ⟨⟨r', left⟩, hpart, h⟩ := bind_eq_ok h
      obtain ⟨token, htoken, htake⟩ := readPart_eq_ok.mp hpart
      obtain ⟨token', htoken', halike⟩ := hrs.flags.readToken htoken
      obtain ⟨s', hs', hr's'⟩ := hrs.take halike htake
      simp only [readPart_eq_ok.mpr ⟨token', htoken', hs'⟩]
      exact ih hr's' h

end Reading.Alike

/-- What is an expression under some flags is one under others that only change sets. -/
theorem Flags.Alike.parse {f g : Flags} (hfg : f.Alike g) {t : Text} {parsed : Parsed}
    (h : parse f t = .ok parsed) : ∃ parsed', parse g t = .ok parsed' := by
  have hstart : (Reading.start f).Alike (.start g) := ⟨hfg, ⟨rfl, rfl⟩, .nil, rfl, rfl⟩
  obtain ⟨final, hfinal, h⟩ := bind_eq_ok h
  obtain ⟨final', hfinal', halike⟩ := hstart.readParts hfinal
  have houter := halike.outer
  split at h
  · cases h
  · rename_i hnil
    have hnil' : final'.outer = [] := by
      rw [hnil] at houter
      cases hnone : final'.outer with
      | nil => rfl
      | cons frame outer =>
        rw [hnone] at houter
        cases houter
    dsimp only at h
    split at h
    · cases h
    · rename_i hheight
      rw [halike.level.whole] at hheight
      unfold Regex.parse
      rw [hfinal']
      dsimp only [bind, Except.bind]
      rw [hnil']
      exact ⟨_, if_neg hheight⟩

end PathRouting.Regex
