import PathRouting.Proofs.Segment.Runs

/-!
# Characters that are never taken

An expression takes no character that is in none of its sets.
-/

namespace PathRouting.Regex

variable {c : Char}

/-- No set of an expression holds a character. -/
def Expr.avoids (c : Char) : Expr → Bool
  | empty => true
  | set s => !s.contains c
  | look _ => true
  | seq a b => a.avoids c && b.avoids c
  | alt a b => a.avoids c && b.avoids c
  | loop _ _ _ e => e.avoids c
  | group _ e => e.avoids c

/-- What an expression takes holds no character that the expression avoids. -/
theorem Expr.Run.exists_passes_of_avoids {e : Expr} {input : Array Char} {x y : Spot}
    (h : e.Run input x y) (he : e.avoids c = true) : ∃ t, x.Passes input t y ∧ c ∉ t := by
  induction e generalizing x y with
  | empty =>
    obtain rfl := h
    exact ⟨[], .refl _, List.not_mem_nil⟩
  | set s =>
    obtain ⟨d, hd, hpass, -⟩ := Spot.passes_set h
    refine ⟨[d], hpass, fun hmem => ?_⟩
    obtain rfl := List.mem_singleton.mp hmem
    rw [avoids, hd] at he
    cases he
  | look l =>
    obtain ⟨-, rfl⟩ := h
    exact ⟨[], .refl _, List.not_mem_nil⟩
  | seq a b iha ihb =>
    obtain ⟨ha, hb⟩ := (Bool.and_eq_true _ _).mp he
    obtain ⟨z, hz, h⟩ := h
    obtain ⟨t, ht, hct⟩ := iha hz ha
    obtain ⟨u, hu, hcu⟩ := ihb h hb
    exact ⟨t ++ u, ht.trans hu, fun hmem => (List.mem_append.mp hmem).elim hct hcu⟩
  | alt a b iha ihb =>
    obtain ⟨ha, hb⟩ := (Bool.and_eq_true _ _).mp he
    exact h.elim (iha · ha) (ihb · hb)
  | loop min max greedy e ih =>
    obtain ⟨n, -, -, h⟩ := h
    refine h.keeps (r := fun x y => ∃ t, x.Passes input t y ∧ c ∉ t)
      (fun x => ⟨[], .refl x, List.not_mem_nil⟩) ?_ fun x y hxy => ih hxy he
    rintro x y z ⟨t, ht, hct⟩ ⟨u, hu, hcu⟩
    exact ⟨t ++ u, ht.trans hu, fun hmem => (List.mem_append.mp hmem).elim hct hcu⟩
  | group index e ih =>
    obtain ⟨z, hz, rfl⟩ := h
    obtain ⟨t, ht, hct⟩ := ih hz he
    exact ⟨t, ht.congr rfl rfl, hct⟩

/-- No set of the expression that a text is read as holds a character. -/
def Avoids (f : Flags) (expression : Text) (c : Char) : Prop :=
  ∃ parsed, parse f expression = .ok parsed ∧ parsed.expr.avoids c = true

instance (f : Flags) (expression : Text) (c : Char) : Decidable (Avoids f expression c) :=
  decidable_of_iff ((parse f expression).toOption.any (·.expr.avoids c) = true) <| by
    unfold Avoids
    cases parse f expression <;> simp [Except.toOption]

/-- What an expression matches at a place holds no character that the expression avoids. -/
theorem MatchesAt.notMem {f : Flags} {expression front value back : Text}
    (hc : Avoids f expression c)
    (h : MatchesAt f expression (front ++ value ++ back) front.length
      (front.length + value.length)) : c ∉ value := by
  obtain ⟨parsed, hparse, havoids⟩ := hc
  obtain ⟨parsed', hparse', saved, hrun⟩ := h
  rw [hparse, Except.ok.injEq] at hparse'
  subst hparse'
  obtain ⟨t, hpass, hct⟩ := hrun.exists_passes_of_avoids havoids
  have hleft := hpass.left
  have hlength : value.length = t.length := Nat.add_left_cancel hpass.place
  have hvalue : value ++ back = t ++ Spot.left ⟨front.length + value.length, saved⟩
      (front ++ value ++ back).toArray := by
    rw [← hleft, Spot.left, List.append_assoc]
    exact List.drop_left.symm
  rwa [(List.append_inj hvalue hlength).1]

end PathRouting.Regex
