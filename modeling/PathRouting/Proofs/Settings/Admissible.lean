import PathRouting.Proofs.Regex.Reading
import PathRouting.Proofs.Settings.Reading

/-!
# Tokens that a definition cannot have

A definition has no numbers, and it is refused where no token can be read. Every step of reading one
takes admissible tokens only, whatever follows them.
-/

namespace PathRouting

namespace Settings

open Json (Token)

namespace Parse

variable {α β : Type}

/-- Whether a token can be part of a definition. -/
def isAdmissible : Token → Bool
  | .number => false
  | .malformed => false
  | _ => true

/-- A step takes admissible tokens only. -/
def Takes (step : Parse α) : Prop :=
  ∀ ⦃tokens a rest⦄, step.run tokens = .ok (a, rest) →
    ∃ taken, tokens = taken ++ rest ∧ ∀ t ∈ taken, isAdmissible t

/-- A result takes no tokens. -/
theorem takes_pure (a : α) : Takes (pure a) := by
  rintro tokens _ _ ⟨⟩
  exact ⟨[], rfl, nofun⟩

/-- The tokens that are left can be looked at. -/
theorem takes_get : Takes get := by
  rintro tokens _ _ ⟨⟩
  exact ⟨[], rfl, nofun⟩

/-- A refusal takes no tokens. -/
theorem takes_throw (e : BodyError) : Takes (throw e : Parse α) :=
  nofun

/-- Two steps one after another take what both of them take. -/
theorem Takes.bind {step : Parse α} {next : α → Parse β} (h : Takes step)
    (hnext : ∀ a, Takes (next a)) : Takes (step >>= next) := by
  intro tokens b rest hrun
  rw [StateT.run_bind] at hrun
  obtain ⟨⟨a, between⟩, hstep, hrest⟩ := Regex.bind_eq_ok hrun
  obtain ⟨taken, rfl, htaken⟩ := h hstep
  obtain ⟨more, rfl, hmore⟩ := hnext a hrest
  exact ⟨taken ++ more, (List.append_assoc ..).symm, List.forall_mem_append.mpr ⟨htaken, hmore⟩⟩

/-- What a step makes of the next token, if it refuses the tokens that are not admissible. -/
theorem takes_next_bind {f : Token → Parse α} (h : ∀ t, Takes (f t))
    (hnumber : ∀ tokens p, (f .number).run tokens ≠ .ok p)
    (hmalformed : ∀ tokens p, (f .malformed).run tokens ≠ .ok p) : Takes (next >>= f) := by
  intro tokens a rest hrun
  cases tokens with
  | nil => cases hrun
  | cons t tokens =>
    rw [run_bind (run_next t tokens)] at hrun
    have ht : isAdmissible t := by
      cases t with
      | number => exact absurd hrun (hnumber tokens _)
      | malformed => exact absurd hrun (hmalformed tokens _)
      | _ => rfl
    obtain ⟨taken, rfl, htaken⟩ := h t hrun
    exact ⟨t :: taken, rfl, List.forall_mem_cons.mpr ⟨ht, htaken⟩⟩

/-- A text takes its token. -/
theorem takes_text : Takes text := by
  refine takes_next_bind (fun t => ?_) nofun nofun
  cases t <;> first | exact takes_pure _ | exact nofun

/-- A text or its absence takes its token. -/
theorem takes_optionalText : Takes optionalText := by
  refine takes_next_bind (fun t => ?_) nofun nofun
  cases t <;> first | exact takes_pure _ | exact nofun

/-- The name of an entry takes its token. -/
theorem takes_entryName : Takes entryName := by
  refine takes_next_bind (fun t => ?_) nofun nofun
  cases t <;> first | exact takes_pure _ | exact nofun

/-- A given token is taken if it is admissible. -/
theorem takes_expect {t : Token} (ht : isAdmissible t) : Takes (expect t) := by
  have hnumber : Token.number ≠ t := by rintro rfl; cases ht
  have hmalformed : Token.malformed ≠ t := by rintro rfl; cases ht
  refine takes_next_bind (fun u => ?_) ?_ ?_
  · split
    · exact takes_throw _
    · exact takes_pure _
  · rw [if_pos hnumber]
    exact nofun
  · rw [if_pos hmalformed]
    exact nofun

/-- Before the next item of a collection there is at most a comma. -/
theorem takes_hasNext (close : Token) (isFirst : Bool) : Takes (hasNext close isFirst) := by
  have hpeek : Takes peek := takes_get.bind fun _ => takes_pure _
  refine hpeek.bind fun t => ?_
  split
  · exact takes_pure _
  split
  · exact takes_pure _
  refine (takes_expect rfl).bind fun _ => hpeek.bind fun t => ?_
  split
  · exact takes_throw _
  · exact takes_pure _

/-- Entries take admissible tokens if their values do. -/
theorem takes_entries {value : Parse α} (h : Takes value) (fuel : Nat) (isFirst : Bool) :
    Takes (entries value fuel isFirst) := by
  induction fuel generalizing isFirst with
  | zero => exact takes_throw _
  | succ fuel ih =>
    refine (takes_hasNext _ isFirst).bind fun hasMore => ?_
    split
    · exact takes_entryName.bind fun _ => (takes_expect rfl).bind fun _ =>
        h.bind fun _ => (ih false).bind fun _ => takes_pure _
    · exact (takes_expect rfl).bind fun _ => takes_pure _

/-- A map takes admissible tokens if its values do. -/
theorem takes_dict {value : Parse α} (h : Takes value) : Takes (dict value) := by
  refine takes_next_bind (fun t => ?_) nofun nofun
  cases t with
  | openBrace => exact takes_get.bind fun _ => (takes_entries h _ true).bind fun _ => takes_pure _
  | _ => exact nofun

/-- A check takes no tokens. -/
theorem takes_check (e : Except Fault α) : Takes (check e) := by
  cases e with
  | error fault => exact takes_throw _
  | ok a => exact takes_pure a

/-- The value of a field takes admissible tokens. -/
theorem takes_fieldValue (d : Draft) (f : Field) : Takes (fieldValue d f) := by
  cases f with
  | name => exact takes_optionalText.bind fun _ => takes_pure _
  | template => exact takes_text.bind fun _ => takes_pure _
  | defaults => exact (takes_dict takes_optionalText).bind fun _ => takes_pure _
  | constraints => exact (takes_dict takes_text).bind fun _ => takes_pure _

/-- The fields of a definition take admissible tokens. -/
theorem takes_fields (fuel : Nat) (isFirst : Bool) (d : Draft) : Takes (fields fuel isFirst d) := by
  induction fuel generalizing isFirst d with
  | zero => exact takes_throw _
  | succ fuel ih =>
    rw [fields_succ]
    refine (takes_hasNext _ isFirst).bind fun hasMore => ?_
    split
    · exact takes_entryName.bind fun _ => (takes_check _).bind fun f =>
        (takes_expect rfl).bind fun _ => (takes_fieldValue d f).bind fun bigger =>
          ih false bigger
    · exact (takes_check _).bind fun _ => (takes_expect rfl).bind fun _ => takes_pure _

/-- The next item of a list takes admissible tokens if its value does. -/
theorem takes_item? {value : Parse α} (h : Takes value) (isFirst : Bool) :
    Takes (item? isFirst value) := by
  refine (takes_hasNext _ isFirst).bind fun hasMore => ?_
  split
  · rw [map_eq_pure_bind]
    exact h.bind fun _ => takes_pure _
  · exact takes_pure _

/-- The fields of a definition in order take admissible tokens. -/
theorem takes_fieldsInOrder : Takes fieldsInOrder := by
  have hend (d : Draft) : Takes (do
      let settings ← check d.finish
      expect .closeBracket
      return settings) :=
    (takes_check _).bind fun _ => (takes_expect rfl).bind fun _ => takes_pure _
  refine (takes_item? takes_optionalText true).bind fun name =>
    (takes_item? takes_text _).bind fun template => ?_
  cases template with
  | none => exact (takes_pure _).bind hend
  | some template =>
    refine (takes_item? (takes_dict takes_optionalText) false).bind fun defaults => ?_
    cases defaults with
    | none => exact (takes_pure _).bind fun _ => (takes_pure _).bind hend
    | some defaults =>
      exact (takes_item? (takes_dict takes_text) false).bind fun _ => (takes_pure _).bind hend

/-- A definition takes admissible tokens. -/
theorem takes_definition : Takes definition := by
  refine takes_next_bind (fun t => ?_) nofun nofun
  cases t with
  | openBrace => exact takes_get.bind fun _ => takes_fields _ true {}
  | openBracket => exact takes_fieldsInOrder
  | _ => exact nofun

/-- The tokens of a definition are admissible. -/
theorem isAdmissible_of_ofTokens {tokens : List Token} {s : Settings} (h : ofTokens tokens = .ok s) :
    ∀ t ∈ tokens, isAdmissible t := by
  obtain ⟨⟨s', rest⟩, hrun, hrest⟩ := Regex.bind_eq_ok h
  obtain ⟨taken, rfl, htaken⟩ := takes_definition hrun
  cases rest with
  | nil => rwa [List.append_nil]
  | cons t rest => cases hrest

/-- Tokens that are not all admissible make up no definition. -/
theorem toOption_ofTokens_eq_none {tokens : List Token} {t : Token} (ht : t ∈ tokens)
    (hbad : isAdmissible t = false) : (ofTokens tokens).toOption = none := by
  cases h : ofTokens tokens with
  | error e => rfl
  | ok s => exact absurd (isAdmissible_of_ofTokens h t ht) (ne_true_of_eq_false hbad)

end Parse

end Settings

end PathRouting
