import PathRouting.Proofs.Route.Acceptance
import PathRouting.Proofs.Route.Defaults
import PathRouting.Proofs.Template.OuterSlashes

/-!
# The faults of a route

Why a route is refused, told from the parts of its template. The placeholders are looked at from
left to right, and the route is refused for the first one that is at fault: it repeats a name, it
has two defaults, it directly follows another placeholder, or its constraint is no expression, in
this order. A route whose placeholders are not at fault can only be refused for the expression that
is made of it, and without constraints only for the size of that expression.
-/

namespace PathRouting

open Regex

/-- A placeholder has the name of one among the parts before it. -/
def Placeholder.Repeats (p : Placeholder) (front : Template) : Prop :=
  p.name ∈ front.placeholders.map (·.name)

/-- The last of some parts is a placeholder, so that nothing is between it and a next one. -/
def Template.EndsIn (front : Template) (q : Placeholder) : Prop :=
  front.getLast? = some (.placeholder q)

namespace Route

/-- A placeholder declares a default, and the route has one for its parameter too. -/
def Conflicts (r : Route) (p : Placeholder) : Prop :=
  p.default ≠ .none ∧ r.defaults.contains p.name = true

/-- What is wrong with a placeholder that stands behind some parts of a template. If several things
are, the first one in this order counts. -/
inductive FaultBehind (r : Route) (front : Template) (p : Placeholder) : RouteError → Prop
  /-- The name has been given before. -/
  | repeated (h : p.Repeats front) : FaultBehind r front p (.duplicateParameter p.name)
  /-- There are two defaults. -/
  | conflicting (hnew : ¬p.Repeats front) (h : r.Conflicts p) :
    FaultBehind r front p (.defaultConflict p.name)
  /-- There is no text between the placeholder and the one before. -/
  | adjacent {q : Placeholder} (hnew : ¬p.Repeats front) (hdefault : ¬r.Conflicts p)
    (h : front.EndsIn q) : FaultBehind r front p (.adjacentPlaceholders q.name p.name)
  /-- The constraint is no expression. -/
  | unreadable {constraint : Text} {e : Regex.Error} (hnew : ¬p.Repeats front)
    (hdefault : ¬r.Conflicts p) (happart : ∀ q, ¬front.EndsIn q)
    (hconstraint : r.constraints.get? p.name = some constraint)
    (h : Regex.compile {} constraint = .error e) :
    FaultBehind r front p (.invalidConstraint p.name (.expression e))

/-- None of the placeholders among some parts is at fault where it stands behind other parts. -/
def FaultlessBehind (r : Route) (front rest : Template) : Prop :=
  ∀ middle p back, rest = middle ++ .placeholder p :: back →
    ∀ e, ¬r.FaultBehind (front ++ middle) p e

/-- The first fault among some parts that stand behind other parts: no placeholder to the left of
the one at fault has a fault. -/
def FirstFaultBehind (r : Route) (front rest : Template) (e : RouteError) : Prop :=
  ∃ middle p back, rest = middle ++ .placeholder p :: back ∧
    r.FaultBehind (front ++ middle) p e ∧ r.FaultlessBehind front middle

/-- No placeholder of a template is at fault. -/
def Faultless (r : Route) (t : Template) : Prop :=
  r.FaultlessBehind [] t

section

variable {r : Route} {front rest : Template} {p : Placeholder} {e : RouteError}

/-- There are no faults if there are no parts. -/
theorem faultlessBehind_nil : r.FaultlessBehind front [] := by
  intro middle p back h
  simp at h

/-- Literal text is never at fault. -/
theorem faultlessBehind_literal {text : Text} : r.FaultlessBehind front (.literal text :: rest) ↔
    r.FaultlessBehind (front ++ [.literal text]) rest := by
  constructor
  · rintro h middle p back rfl
    rw [List.append_assoc]
    exact h (.literal text :: middle) p back rfl
  · intro h middle p back hrest
    obtain ⟨-, hcons⟩ | ⟨later, rfl, hlater⟩ := List.cons_eq_append_iff.mp hrest
    · cases hcons
    · have hfaultless := h later p back hlater
      rwa [List.append_assoc] at hfaultless

/-- A placeholder is not at fault, and those behind it are not either. -/
theorem faultlessBehind_placeholder : r.FaultlessBehind front (.placeholder p :: rest) ↔
    (∀ e, ¬r.FaultBehind front p e) ∧ r.FaultlessBehind (front ++ [.placeholder p]) rest := by
  constructor
  · intro h
    refine ⟨fun e => ?_, ?_⟩
    · have hfirst := h [] p rest rfl e
      rwa [List.append_nil] at hfirst
    · rintro middle q back rfl
      rw [List.append_assoc]
      exact h (.placeholder p :: middle) q back rfl
  · rintro ⟨hfirst, h⟩ middle q back hrest
    obtain ⟨rfl, hcons⟩ | ⟨later, rfl, hlater⟩ := List.cons_eq_append_iff.mp hrest
    · cases hcons
      rwa [List.append_nil]
    · have hfaultless := h later q back hlater
      rwa [List.append_assoc] at hfaultless

/-- The first fault stands behind literal text at the start. -/
theorem firstFaultBehind_literal {text : Text} : r.FirstFaultBehind front (.literal text :: rest) e ↔
    r.FirstFaultBehind (front ++ [.literal text]) rest e := by
  constructor
  · rintro ⟨middle, p, back, hrest, hfault, hfaultless⟩
    obtain ⟨-, hcons⟩ | ⟨later, rfl, hlater⟩ := List.cons_eq_append_iff.mp hrest
    · cases hcons
    · refine ⟨later, p, back, hlater, ?_, faultlessBehind_literal.mp hfaultless⟩
      rwa [List.append_assoc]
  · rintro ⟨later, p, back, rfl, hfault, hfaultless⟩
    refine ⟨.literal text :: later, p, back, rfl, ?_, faultlessBehind_literal.mpr hfaultless⟩
    rwa [List.append_assoc] at hfault

/-- The first fault is that of the placeholder at the start or, if that has none, the first one
behind it. -/
theorem firstFaultBehind_placeholder : r.FirstFaultBehind front (.placeholder p :: rest) e ↔
    r.FaultBehind front p e ∨
      (∀ d, ¬r.FaultBehind front p d) ∧ r.FirstFaultBehind (front ++ [.placeholder p]) rest e := by
  constructor
  · rintro ⟨middle, q, back, hrest, hfault, hfaultless⟩
    obtain ⟨rfl, hcons⟩ | ⟨later, rfl, hlater⟩ := List.cons_eq_append_iff.mp hrest
    · cases hcons
      rw [List.append_nil] at hfault
      exact .inl hfault
    · obtain ⟨hfirst, hlaterFaultless⟩ := faultlessBehind_placeholder.mp hfaultless
      refine .inr ⟨hfirst, later, q, back, hlater, ?_, hlaterFaultless⟩
      rwa [List.append_assoc]
  · rintro (hfault | ⟨hfirst, later, q, back, rfl, hfault, hfaultless⟩)
    · refine ⟨[], p, rest, rfl, ?_, faultlessBehind_nil⟩
      rwa [List.append_nil]
    · refine ⟨.placeholder p :: later, q, back, rfl, ?_,
        faultlessBehind_placeholder.mpr ⟨hfirst, hfaultless⟩⟩
      rwa [List.append_assoc] at hfault

end

/-- What a check remembers of the parts that it has gone through: the names, the last one first, and
the text behind the last placeholder, which is there if the last part is literal. -/
structure Remembers (front : Template) (earlier : List Text) (gap : Text) : Prop where
  /-- The names are those of the placeholders. -/
  names : earlier = (front.placeholders.map (·.name)).reverse
  /-- There is text exactly if the last part is literal. -/
  gap : gap = [] ↔ ∀ text, front.getLast? ≠ some (.literal text)

/-- Checks one placeholder. -/
def checkPlaced (r : Route) (earlier : List Text) (gap : Text) (p : Placeholder) :
    Except RouteError Unit := do
  checkName earlier p
  r.checkDefault p
  checkGap earlier gap p
  r.checkConstraint p

section

variable {r : Route} {front : Template} {earlier : List Text} {gap : Text} {p : Placeholder}
  {e : RouteError}

/-- Nothing has been gone through. -/
theorem Remembers.start : Remembers [] [] [] :=
  ⟨rfl, by simp⟩

/-- Literal text that is not empty is gone through. -/
theorem Remembers.literal (h : Remembers front earlier gap) {text : Text} (htext : text ≠ []) :
    Remembers (front ++ [.literal text]) earlier (gap ++ text) where
  names := by
    rw [h.names]
    simp [Template.placeholders]
  gap := by
    simp [htext]

/-- A placeholder is gone through. -/
theorem Remembers.placeholder (h : Remembers front earlier gap) (p : Placeholder) :
    Remembers (front ++ [.placeholder p]) (p.name :: earlier) [] where
  names := by
    rw [h.names]
    simp [Template.placeholders]
  gap := by
    simp

/-- The parts before have the name if it is remembered. -/
theorem Remembers.repeats_iff (h : Remembers front earlier gap) :
    p.Repeats front ↔ p.name ∈ earlier := by
  rw [h.names, List.mem_reverse]
  rfl

/-- The last part is a placeholder if there is no text behind the last name. -/
theorem Remembers.checkGap_eq (h : Remembers front earlier gap) {q : Placeholder}
    (hq : front.EndsIn q) :
    checkGap earlier gap p = .error (.adjacentPlaceholders q.name p.name) := by
  obtain ⟨init, rfl⟩ := List.getLast?_eq_some_iff.mp hq
  have hgap : gap = [] := h.gap.mpr (by simp)
  have hhead : earlier.head? = some q.name := by
    rw [h.names]
    simp [Template.placeholders]
  unfold checkGap
  rw [hgap, hhead]

/-- There is text behind the last name, or no name, if the last part is no placeholder. -/
theorem Remembers.checkGap_eq_ok (h : Remembers front earlier gap) (hnone : ∀ q, ¬front.EndsIn q) :
    checkGap earlier gap p = .ok () := by
  unfold checkGap
  cases hlast : front.getLast? with
  | none =>
    rw [List.getLast?_eq_none_iff] at hlast
    have hearlier : earlier = [] := by
      rw [h.names, hlast]
      rfl
    rw [hearlier]
    rfl
  | some part =>
    cases part with
    | placeholder q => exact absurd hlast (hnone q)
    | literal text =>
      have hgap : gap ≠ [] := fun hnil => h.gap.mp hnil text hlast
      obtain ⟨c, gap, rfl⟩ := List.exists_cons_of_ne_nil hgap
      cases earlier.head? <;> rfl

/-- A name that has not been given before passes. -/
theorem Remembers.checkName_eq_ok (h : Remembers front earlier gap) (hnew : ¬p.Repeats front) :
    checkName earlier p = .ok () :=
  if_neg (mt h.repeats_iff.mpr hnew)

/-- A placeholder whose parameter has one default at most passes. -/
theorem checkDefault_eq_ok (h : ¬r.Conflicts p) : r.checkDefault p = .ok () :=
  if_neg h

/-- The check of a placeholder reports what is wrong with it. -/
theorem FaultBehind.checkPlaced_eq (hfault : r.FaultBehind front p e)
    (h : Remembers front earlier gap) : r.checkPlaced earlier gap p = .error e := by
  unfold checkPlaced
  cases hfault with
  | repeated hrepeats =>
    have hname : checkName earlier p = .error (.duplicateParameter p.name) :=
      if_pos (h.repeats_iff.mp hrepeats)
    rw [hname]
    rfl
  | conflicting hnew hconflicts =>
    have hdefault : r.checkDefault p = .error (.defaultConflict p.name) := if_pos hconflicts
    rw [h.checkName_eq_ok hnew, hdefault]
    rfl
  | adjacent hnew hdefault hends =>
    rw [h.checkName_eq_ok hnew, checkDefault_eq_ok hdefault, h.checkGap_eq hends]
    rfl
  | unreadable hnew hdefault happart hconstraint hcompile =>
    rw [h.checkName_eq_ok hnew, checkDefault_eq_ok hdefault, h.checkGap_eq_ok happart]
    change r.checkConstraint p = _
    unfold checkConstraint
    rw [hconstraint]
    dsimp only
    rw [hcompile]

/-- A placeholder that is not at fault passes the check. -/
theorem checkPlaced_eq_ok (h : Remembers front earlier gap)
    (hnone : ∀ e, ¬r.FaultBehind front p e) : r.checkPlaced earlier gap p = .ok () := by
  have hnew : ¬p.Repeats front := fun hrepeats => hnone _ (.repeated hrepeats)
  have hdefault : ¬r.Conflicts p := fun hconflicts => hnone _ (.conflicting hnew hconflicts)
  have happart : ∀ q, ¬front.EndsIn q := fun q hq => hnone _ (.adjacent hnew hdefault hq)
  unfold checkPlaced
  rw [h.checkName_eq_ok hnew, checkDefault_eq_ok hdefault, h.checkGap_eq_ok happart]
  change r.checkConstraint p = _
  unfold checkConstraint
  split
  · rfl
  · rename_i constraint hconstraint
    split
    · rfl
    · rename_i reason hcompile
      exact absurd (.unreadable hnew hdefault happart hconstraint hcompile) (hnone _)

/-- The check of a placeholder fails with what is wrong with it. -/
theorem checkPlaced_eq_error_iff (h : Remembers front earlier gap) :
    r.checkPlaced earlier gap p = .error e ↔ r.FaultBehind front p e := by
  refine ⟨fun herror => ?_, fun hfault => hfault.checkPlaced_eq h⟩
  by_contra hno
  have hnone : ∀ d, ¬r.FaultBehind front p d := by
    intro d hfault
    rw [hfault.checkPlaced_eq h, Except.error.injEq] at herror
    exact hno (herror ▸ hfault)
  rw [checkPlaced_eq_ok h hnone] at herror
  cases herror

/-- The check of a placeholder passes if nothing is wrong with it. -/
theorem checkPlaced_eq_ok_iff (h : Remembers front earlier gap) :
    r.checkPlaced earlier gap p = .ok () ↔ ∀ e, ¬r.FaultBehind front p e := by
  refine ⟨fun hok e hfault => ?_, checkPlaced_eq_ok h⟩
  rw [hfault.checkPlaced_eq h] at hok
  cases hok

/-- A placeholder is checked before those behind it. -/
theorem checkAfter_cons (rest : List Template.Placed) :
    r.checkAfter earlier (⟨gap, p⟩ :: rest) =
      (r.checkPlaced earlier gap p >>= fun _ => r.checkAfter (p.name :: earlier) rest) := by
  unfold checkPlaced
  rw [checkAfter]
  cases checkName earlier p <;> cases r.checkDefault p <;> cases checkGap earlier gap p <;> rfl

/-- The check of the placeholders among some parts passes if none of them is at fault, and finds the
first fault otherwise. -/
theorem checkAfter_layoutAfter (h : Remembers front earlier gap) {rest : Template}
    (htexts : ∀ text, .literal text ∈ rest → text ≠ []) :
    (r.checkAfter earlier (Template.layoutAfter gap rest).placed = .ok () ↔
      r.FaultlessBehind front rest) ∧
    ∀ e, r.checkAfter earlier (Template.layoutAfter gap rest).placed = .error e ↔
      r.FirstFaultBehind front rest e := by
  induction rest generalizing front earlier gap with
  | nil =>
    refine ⟨iff_of_true rfl faultlessBehind_nil, fun e => iff_of_false (fun h => nomatch h) ?_⟩
    rintro ⟨middle, p, back, hrest, -⟩
    simp at hrest
  | cons part rest ih =>
    have hrest : ∀ text, .literal text ∈ rest → text ≠ [] := fun text htext =>
      htexts text (List.mem_cons_of_mem part htext)
    cases part with
    | literal text =>
      obtain ⟨hok, herror⟩ := ih (h.literal (htexts text List.mem_cons_self)) hrest
      exact ⟨hok.trans faultlessBehind_literal.symm,
        fun e => (herror e).trans firstFaultBehind_literal.symm⟩
    | placeholder p =>
      obtain ⟨hok, herror⟩ := ih (h.placeholder p) hrest
      rw [faultlessBehind_placeholder, ← checkPlaced_eq_ok_iff h, ← hok]
      change (r.checkAfter earlier (⟨gap, p⟩ :: (Template.layoutAfter [] rest).placed) = _ ↔ _) ∧
        ∀ e, r.checkAfter earlier (⟨gap, p⟩ :: (Template.layoutAfter [] rest).placed) = _ ↔ _
      rw [checkAfter_cons]
      cases hcheck : r.checkPlaced earlier gap p with
      | ok =>
        refine ⟨⟨fun hlater => ⟨rfl, hlater⟩, fun hboth => hboth.2⟩, fun e => ?_⟩
        have hnone := (checkPlaced_eq_ok_iff h).mp hcheck
        rw [firstFaultBehind_placeholder, ← herror e]
        constructor
        · exact fun hlater => .inr ⟨hnone, hlater⟩
        · rintro (hfault | ⟨-, hlater⟩)
          · exact absurd hfault (hnone e)
          · exact hlater
      | error d =>
        refine ⟨iff_of_false (fun hok => nomatch hok) (fun hboth => nomatch hboth.1), fun e => ?_⟩
        have hfault := (checkPlaced_eq_error_iff h).mp hcheck
        rw [firstFaultBehind_placeholder, ← checkPlaced_eq_error_iff h, hcheck]
        constructor
        · rintro ⟨⟩
          exact .inl rfl
        · rintro (heq | ⟨hnone, -⟩)
          · cases heq
            rfl
          · exact absurd hfault (hnone d)

end

section

variable {r : Route} {query : Values} {t : Template} {text : Text}

/-- The literal parts of a template hold text. -/
theorem ne_nil_of_parse (ht : Template.parse text = .ok t) :
    ∀ literal, .literal literal ∈ t → literal ≠ [] := fun literal hliteral =>
  (Template.canonical_of_parse ht).parts (.literal literal) hliteral

/-- A template passes the check of a route if none of its placeholders is at fault. -/
theorem check_eq_ok_iff (ht : Template.parse text = .ok t) :
    r.check t.layout = .ok () ↔ r.Faultless t :=
  (checkAfter_layoutAfter .start (ne_nil_of_parse ht)).1

/-- Behind a placeholder that is not at fault, the next one is only without fault if there is text
between them. -/
theorem Faultless.apart (h : r.Faultless t) : t.Apart := by
  rintro front p q back rfl
  have hnone := h (front ++ [.placeholder p]) q back (by simp)
  rw [List.nil_append] at hnone
  have hends : Template.EndsIn (front ++ [.placeholder p]) p := List.getLast?_concat
  by_cases hrepeats : q.Repeats (front ++ [.placeholder p])
  · exact hnone _ (.repeated hrepeats)
  · by_cases hconflicts : r.Conflicts q
    · exact hnone _ (.conflicting hrepeats hconflicts)
    · exact hnone _ (.adjacent hrepeats hconflicts hends)

/-- A placeholder that is not at fault has no second default. -/
theorem Faultless.defaultsApart (h : r.Faultless t) : r.DefaultsApart t.placeholders := by
  intro p hp hdefault
  obtain ⟨front, back, rfl⟩ := List.append_of_mem (Template.mem_of_mem_placeholders hp)
  have hnone := h front p back rfl
  rw [List.nil_append] at hnone
  rw [Dict.get?_eq_none_iff]
  intro hcontains
  by_cases hrepeats : p.Repeats front
  · exact hnone _ (.repeated hrepeats)
  · exact hnone _ (.conflicting hrepeats ⟨hdefault, hcontains⟩)

end

end Route

end PathRouting
