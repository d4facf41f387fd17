import PathRouting.Proofs.Regex.Enclosing
import PathRouting.Proofs.Segment.Expression

/-!
# Values with constraints

A constraint that can be put in parentheses makes up the group of its parameter, and nothing of it
gets out: the group holds the expression that the constraint is by itself, with higher numbers of
groups. If the parameter is optional, nothing may stand in place of it.
-/

namespace PathRouting

open Regex

namespace Segment

/-- The text of the values of a parameter with a constraint. -/
def constrainedBody (constraint : Text) (isOptional : Bool) : Text :=
  "(?:".toList ++ constraint ++ if isOptional then ")|".toList else ")".toList

/-- The expression of the values of a parameter, given that of its constraint. -/
def constrainedValue (isOptional : Bool) (e : Expr) : Expr :=
  if isOptional then .alt e .empty else e

/-- The groups of the values are those of the constraint. -/
@[simp] theorem groups_constrainedValue (isOptional : Bool) (e : Expr) :
    (constrainedValue isOptional e).groups = e.groups := by
  cases isOptional with
  | false => rfl
  | true => exact List.append_nil e.groups

/-- A value is what the constraint matches, or nothing if the parameter is optional. -/
theorem run_constrainedValue {isOptional : Bool} {e : Expr} {input : Array Char} {x y : Spot} :
    (constrainedValue isOptional e).Run input x y ↔
      e.Run input x y ∨ (isOptional = true ∧ y = x) := by
  cases isOptional with
  | false => exact ⟨.inl, fun h => h.resolve_right fun h => Bool.false_ne_true h.1⟩
  | true => exact or_congr_right ⟨fun h => ⟨rfl, h⟩, fun h => h.2⟩

/-- How the value of a segment is read, given the constraints of parameters. -/
inductive ReadBy (constraint? : Text → Option Text) (s : Segment) (k : Nat) : ValueRead → Prop
  /-- The value has no constraint. -/
  | plain (h : ∀ name, s.name = some name → constraint? name = none) :
    ReadBy constraint? s k (s.plainRead k)
  /-- The value is read by its constraint. -/
  | constrained {name constraint : Text} {parsed : Parsed} {next : Nat} (hname : s.name = some name)
    (hconstraint : constraint? name = some constraint)
    (hparse : parse pathFlags constraint = .ok parsed) (hnext : 0 < next)
    (hgroups : ∀ g ∈ parsed.expr.groups, 0 < g ∧ g < next) :
    ReadBy constraint? s k ⟨[.group k (constrainedValue s.isOptional (parsed.expr.shift k))],
      (name, k) :: shiftNames k parsed.names, next + k⟩

end Segment

section

variable {r : Reading} {rest : Text}

/-- A constraint with its parentheses, and the bar behind it, is read as the body of a group. -/
theorem reads_constrainedBody {constraint : Text} {parsed : Parsed}
    (hparse : parse pathFlags constraint = .ok parsed) (henc : Enclosable pathFlags constraint)
    (isOptional : Bool) (hf : r.flags = pathFlags) (hlevel : r.level = .start) {k : Nat}
    (hindex : r.nextIndex = k + 1)
    (hsafe : Accepts r (Segment.constrainedBody constraint isOptional ++ ')' :: rest) ∨
      (NamesApart parsed.names r.names ∧ textHeight pathFlags constraint < nestingLimit)) :
    ∃ r' next,
      Reads r (Segment.constrainedBody constraint isOptional ++ ')' :: rest) r' (')' :: rest) ∧
      r'.outer = r.outer ∧
      r'.level.whole.1 = Segment.constrainedValue isOptional (parsed.expr.shift k) ∧
      r'.level.whole.2 ≤ textHeight pathFlags constraint + 2 ∧
      r'.names = (shiftNames k parsed.names).reverse ++ r.names ∧ r'.nextIndex = next + k ∧
      0 < next ∧ ∀ g ∈ parsed.expr.groups, 0 < g ∧ g < next := by
  have hv : r.flags.verbose = false := by rw [hf]; rfl
  cases isOptional with
  | false =>
    have htext : Segment.constrainedBody constraint false ++ ')' :: rest =
        "(?:".toList ++ (constraint ++ ')' :: ')' :: rest) := by
      simp [Segment.constrainedBody]
    rw [htext] at hsafe ⊢
    obtain ⟨-, next, hreads, hnext, hgroups⟩ :=
      reads_enclosed rfl hparse (.inl henc) hf hindex hsafe
    refine ⟨_, next, hreads, rfl, ?_, ?_, rfl, rfl, hnext, hgroups⟩
    · unfold Reading.push
      rw [hlevel]
      rfl
    · unfold Reading.push
      rw [hlevel]
      exact Nat.le_succ _
  | true =>
    have htext : Segment.constrainedBody constraint true ++ ')' :: rest =
        "(?:".toList ++ (constraint ++ ')' :: '|' :: ')' :: rest) := by
      simp [Segment.constrainedBody]
    rw [htext] at hsafe ⊢
    obtain ⟨-, next, hreads, hnext, hgroups⟩ :=
      reads_enclosed rfl hparse (.inl henc) hf hindex hsafe
    refine ⟨_, next, hreads.trans (.char hv rfl), rfl, ?_, ?_, rfl, rfl, hnext, hgroups⟩
    · unfold Reading.push
      rw [hlevel]
      change Expr.oneOf [parsed.expr.shift k, .empty] = .alt (parsed.expr.shift k) .empty
      have hshared : Expr.sharedStart (parsed.expr.shift k).factors Expr.empty.factors = [] := by
        cases (parsed.expr.shift k).factors <;> rfl
      unfold Expr.oneOf
      simp [hshared, Expr.branches]
    · unfold Reading.push
      rw [hlevel]
      change Nat.max (Nat.max 0 (textHeight pathFlags constraint + 1)) 0 + 1 ≤ _
      simp

/-- The group of a value with a constraint is read as such, if its names are new and there is room
for its height, or if reading is known to meet no error. -/
theorem reads_constrained {name constraint : Text} (hname : IsGroupName name) {parsed : Parsed}
    (hparse : parse pathFlags constraint = .ok parsed) (henc : Enclosable pathFlags constraint)
    (isOptional : Bool) {height : Nat} (hf : r.flags = pathFlags) (rest : Text)
    (hsafe : (Accepts r (Segment.capture name (Segment.constrainedBody constraint isOptional) ++ rest) ∧
        height = nestingLimit) ∨
      (name ∉ r.names.map Prod.fst ∧ NamesApart parsed.names ((name, r.nextIndex) :: r.names) ∧
        textHeight pathFlags constraint + 3 ≤ height ∧ height ≤ nestingLimit)) :
    ∃ r' next,
      Reads r (Segment.capture name (Segment.constrainedBody constraint isOptional) ++ rest) r' rest ∧
      r.Extends height r'
        [.group r.nextIndex (Segment.constrainedValue isOptional (parsed.expr.shift r.nextIndex))]
        ((name, r.nextIndex) :: shiftNames r.nextIndex parsed.names) ∧
      r'.nextIndex = next + r.nextIndex ∧ 0 < next ∧ ∀ g ∈ parsed.expr.groups, 0 < g ∧ g < next := by
  have hv : r.flags.verbose = false := by rw [hf]; rfl
  rw [Segment.capture_append] at hsafe ⊢
  have hfresh : name ∉ r.names.map Prod.fst := by
    rcases hsafe with ⟨hacc, -⟩ | ⟨hfresh, -⟩
    · exact hacc.notMem_names hv hname
    · exact hfresh
  have hopen := reads_open hv hname hfresh
    (Segment.constrainedBody constraint isOptional ++ ')' :: rest)
  obtain ⟨inner, next, hbody, houter, hwhole, hlow, hnames, hindex, hnext, hgroups⟩ :=
    reads_constrainedBody (r := r.opened name) hparse henc isOptional hf rfl rfl <|
      hsafe.imp (fun hacc => hopen.accepts hacc.1) fun hroom => ⟨hroom.2.1, by omega⟩
  have hframe : inner.outer = ⟨r.level, r.flags, some r.nextIndex⟩ :: r.outer := houter
  have hheight : inner.level.whole.2 < nestingLimit ∧ inner.level.whole.2 + 1 ≤ height := by
    rcases hsafe with ⟨hacc, rfl⟩ | hroom
    · have hlt := ((hopen.trans hbody).accepts hacc).height_lt hframe
      exact ⟨hlt, hlt⟩
    · omega
  have hclose := reads_closeAny hframe hheight.1 rest
  refine ⟨_, next, hopen.trans (hbody.trans hclose), ⟨rfl, rfl, rfl, ?_, fun p hp => ?_, ?_⟩, hindex,
    hnext, hgroups⟩
  · dsimp only
    rw [hwhole]
    rfl
  · rcases List.mem_cons.mp hp with rfl | hp
    · exact .inr hheight.2
    · exact .inl hp
  · change inner.names = _
    rw [hnames]
    change (shiftNames r.nextIndex parsed.names).reverse ++ (name, r.nextIndex) :: r.names = _
    simp

/-- A constraint that never turns the verbose mode on can be put in parentheses if reading goes on
with the group of its value. -/
theorem enclosable_of_accepts {name constraint : Text} (hname : IsGroupName name) {parsed : Parsed}
    (hparse : parse pathFlags constraint = .ok parsed) (hfree : VerboseFree pathFlags constraint)
    (isOptional : Bool) (hf : r.flags = pathFlags)
    (hacc : Accepts r (Segment.capture name (Segment.constrainedBody constraint isOptional) ++ rest)) :
    Enclosable pathFlags constraint := by
  have hv : r.flags.verbose = false := by rw [hf]; rfl
  rw [Segment.capture_append] at hacc
  have hbody := (reads_open hv hname (hacc.notMem_names hv hname) _).accepts hacc
  obtain ⟨tail, htext⟩ : ∃ tail, Segment.constrainedBody constraint isOptional ++ ')' :: rest =
      "(?:".toList ++ (constraint ++ ')' :: tail) := by
    cases isOptional with
    | false => exact ⟨')' :: rest, by simp [Segment.constrainedBody]⟩
    | true => exact ⟨'|' :: ')' :: rest, by simp [Segment.constrainedBody]⟩
  rw [htext] at hbody
  exact Accepts.enclosable rfl hparse hfree (r := r.opened name) hf rfl hbody

end

namespace Segment

/-- The text of a value is that of values without a constraint, or of values with the constraint of
its parameter. -/
def BuiltBy (constraint? : Text → Option Text) (s : Segment) : Prop :=
  ∀ name, s.name = some name → s.pattern = capture name (match constraint? name with
    | none => plainBody s.isOptional
    | some constraint => constrainedBody constraint s.isOptional)

/-- A value is read by its constraint if the constraint can be put in parentheses. -/
theorem Shaped.readsValue_by {constraint? : Text → Option Text} {s : Segment} (hs : s.Shaped)
    (hbuilt : s.BuiltBy constraint?)
    (hparse : ∀ name constraint, s.name = some name → constraint? name = some constraint →
      (∃ parsed, parse pathFlags constraint = .ok parsed) ∧ Enclosable pathFlags constraint) :
    s.ReadsValue (ReadBy constraint?) := by
  have hplain : (∀ name, s.name = some name → constraint? name = none) →
      s.ReadsValue (ReadBy constraint?) := by
    intro hnone r rest hf hacc
    have hunconstrained : s.Unconstrained := by
      intro name hname
      rw [hbuilt name hname, hnone name hname]
    obtain ⟨r', v, hreads, hext, hnext, rfl⟩ := hs.readsValue_plain hunconstrained r rest hf hacc
    exact ⟨r', _, hreads, hext, hnext, .plain hnone⟩
  cases hname : s.name with
  | none =>
    refine hplain fun name hname' => ?_
    rw [hname] at hname'
    cases hname'
  | some name =>
    cases hconstraint : constraint? name with
    | none =>
      refine hplain fun name' hname' => ?_
      rw [hname, Option.some.injEq] at hname'
      rw [← hname']
      exact hconstraint
    | some constraint =>
      intro r rest hf hacc
      obtain ⟨⟨parsed, hparsed⟩, henc⟩ := hparse name constraint hname hconstraint
      have hpattern := hbuilt name hname
      rw [hconstraint] at hpattern
      dsimp only at hpattern
      rw [hpattern] at hacc ⊢
      obtain ⟨r', next, hreads, hext, hindex, hnext, hgroups⟩ :=
        reads_constrained (hs.group name hname).1 hparsed henc s.isOptional hf rest
          (.inl ⟨hacc, rfl⟩)
      exact ⟨r', _, hreads, hext, hindex, .constrained hname hconstraint hparsed hnext hgroups⟩

end Segment

end PathRouting
