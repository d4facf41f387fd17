import Mathlib.Data.List.Basic
import Mathlib.Tactic.Common
import PathRouting.Proofs.Dict
import PathRouting.Settings.Body

/-!
# Reading the fields of a definition

What a value is as a text or as a map depends on the value alone. So the entries of an object make up a
definition, or none, before any of them is read, and this is the definition that the tokens of the
object are read as, entry by entry.
-/

namespace PathRouting

namespace Json

/-- The text that a value is. -/
def text? : Json → Option Text
  | string t => some t
  | _ => none

/-- The text or the absence of one that a value is. -/
def optionalText? : Json → Option (Option Text)
  | string t => some (some t)
  | null => some none
  | _ => none

/-- The map that a value is, given what the values in it are. -/
def dict? {α : Type} (shape : Json → Option α) : Json → Option (Dict α)
  | object entries => (entries.mapM fun p => (shape p.2).map (p.1, ·)).map Dict.ofList
  | _ => none

/-- The object of a dictionary is the dictionary if its values are what they are made of. -/
theorem dict?_ofDict {α : Type} {shape : Json → Option α} {f : α → Json}
    (h : ∀ a, shape (f a) = some a) (d : Dict α) : (ofDict f d).dict? shape = some d := by
  have hpairs (pairs : List (Text × α)) :
      (pairs.map fun p => (p.1, f p.2)).mapM (fun p => (shape p.2).map (p.1, ·)) = some pairs := by
    induction pairs with
    | nil => rfl
    | cons p pairs ih =>
      rw [List.map_cons, List.mapM_cons, h, ih]
      rfl
  exact (congrArg (Option.map Dict.ofList) (hpairs d.toList)).trans (congrArg some d.ofList_toList)

end Json

namespace Settings

open Json (Token)

/-- A result that is there is the outcome. -/
theorem eq_ok_of_toOption {ε α : Type} {x : Except ε α} {a : α} (h : x.toOption = some a) :
    x = .ok a := by
  cases x with
  | error e => cases h
  | ok b => exact congrArg _ (Option.some.inj h)

/-- A step goes on from the result of another one. -/
theorem toOption_bind {ε α β : Type} (x : Except ε α) (f : α → Except ε β) :
    (x >>= f).toOption = x.toOption.bind fun a => (f a).toOption := by
  cases x <;> rfl

/-- What is made of a result is there if the result is. -/
theorem toOption_bind_pure {ε α β : Type} (x : Except ε α) (f : α → β) :
    (do return f (← x)).toOption = x.toOption.map f := by
  cases x <;> rfl

/-- The results of a list are there if all of them are. -/
theorem toOption_mapM {ε α β : Type} (f : α → Except ε β) (l : List α) :
    (l.mapM f).toOption = l.mapM fun a => (f a).toOption := by
  induction l with
  | nil => rfl
  | cons a l ih =>
    simp only [List.mapM_cons, toOption_bind, ih]
    rfl

/-- The result of steps is there if those of all steps are. -/
theorem toOption_foldlM {ε α β : Type} (f : β → α → Except ε β) (b : β) (l : List α) :
    (l.foldlM f b).toOption = l.foldlM (fun b a => (f b a).toOption) b := by
  induction l generalizing b with
  | nil => rfl
  | cons a l ih =>
    simp only [List.foldlM_cons, toOption_bind, ih]
    rfl

/-- The draft with the value of a field. -/
def Draft.with? (d : Draft) (v : Json) : Field → Option Draft
  | .name => v.optionalText?.map fun t => { d with name := some t }
  | .template => v.text?.map fun t => { d with template := some t }
  | .defaults => (v.dict? Json.optionalText?).map fun m => { d with defaults := some m }
  | .constraints => (v.dict? Json.text?).map fun m => { d with constraints := some m }

/-- The draft with another entry of an object. -/
def Draft.withEntry? (d : Draft) (p : Text × Json) : Option Draft :=
  (d.field p.1).toOption.bind (d.with? p.2)

/-- The definition that the entries of an object make up. -/
def definition? (entries : List (Text × Json)) : Option Settings :=
  (entries.foldlM Draft.withEntry? {}).bind (·.finish.toOption)

namespace Parse

variable {α β : Type}

/-- The tokens of every value are read as what the value is, or not at all. -/
def Follows (value : Parse α) (shape : Json → Option α) : Prop :=
  ∀ v rest, (value.run (v.tokens ++ rest)).toOption = (shape v).map (·, rest)

/-- What follows a step starts with the tokens that the step leaves. -/
theorem run_bind {step : Parse α} {next : α → Parse β} {tokens rest : List Token} {a : α}
    (h : step.run tokens = .ok (a, rest)) : (step >>= next).run tokens = (next a).run rest := by
  rw [StateT.run_bind, h]
  rfl

/-- A step after another one goes on with what is left. -/
theorem toOption_run_bind (step : Parse α) (next : α → Parse β) (tokens : List Token) :
    ((step >>= next).run tokens).toOption =
      (step.run tokens).toOption.bind fun p => ((next p.1).run p.2).toOption := by
  rw [StateT.run_bind, toOption_bind]

/-- A step that uses a value goes on behind the tokens of the value. -/
theorem Follows.toOption_run_bind {value : Parse α} {shape : Json → Option α}
    (h : Follows value shape) (next : α → Parse β) (v : Json) (rest : List Token) :
    ((value >>= next).run (v.tokens ++ rest)).toOption =
      (shape v).bind fun a => ((next a).run rest).toOption := by
  rw [Parse.toOption_run_bind, h, Option.bind_map]
  rfl

/-- What is made of a value is read as the value is. -/
theorem Follows.map {value : Parse α} {shape : Json → Option α} (h : Follows value shape)
    (f : α → β) : Follows (do return f (← value)) fun v => (shape v).map f := by
  intro v rest
  rw [h.toOption_run_bind, Option.map_map]
  cases shape v <;> rfl

/-- A text is read as one. -/
theorem follows_text : Follows text Json.text? := by
  intro v rest
  cases v <;> rfl

/-- A text or its absence is read as such. -/
theorem follows_optionalText : Follows optionalText Json.optionalText? := by
  intro v rest
  cases v <;> rfl

/-- Another entry of an object is read as far as its value. -/
theorem hasNext_name (isFirst : Bool) (name : Text) (rest : List Token) :
    (hasNext .closeBrace isFirst).run ((if isFirst then [] else [.comma]) ++ .string name :: rest) =
      .ok (true, .string name :: rest) := by
  cases isFirst <;> rfl

/-- At the end of an object there is no other entry. -/
theorem hasNext_closeBrace (isFirst : Bool) (rest : List Token) :
    (hasNext .closeBrace isFirst).run (.closeBrace :: rest) = .ok (false, .closeBrace :: rest) := by
  cases isFirst <;> rfl

/-- The name of an entry is read from its token. -/
theorem run_entryName (name : Text) (rest : List Token) :
    entryName.run (.string name :: rest) = .ok (name, rest) :=
  rfl

/-- A colon is read where one is expected. -/
theorem run_expect_colon (rest : List Token) :
    (expect .colon).run (.colon :: rest) = .ok ((), rest) :=
  rfl

/-- The entries of an object have at least as many tokens as they are. -/
theorem length_le_length_entryTokens (isFirst : Bool) (entries : List (Text × Json)) :
    entries.length ≤ (Json.entryTokens isFirst entries).length := by
  induction entries generalizing isFirst with
  | nil => exact Nat.zero_le _
  | cons p entries ih =>
    obtain ⟨name, v⟩ := p
    have := ih false
    rw [Json.entryTokens, List.length_append, List.length_append, List.length_cons, List.length_cons,
      List.length_cons]
    omega

/-- The number of tokens that are left bounds the number of entries that are read. -/
theorem length_lt_length_entryTokens (entries : List (Text × Json)) (rest : List Token) :
    entries.length < (Json.entryTokens true entries ++ .closeBrace :: rest).length + 1 := by
  have := length_le_length_entryTokens true entries
  rw [List.length_append]
  omega

/-- The next token is read. -/
theorem run_next (t : Token) (rest : List Token) : next.run (t :: rest) = .ok (t, rest) :=
  rfl

/-- The tokens that are left can be counted. -/
theorem run_get (tokens : List Token) :
    (get : Parse (List Token)).run tokens = .ok (tokens, tokens) :=
  rfl

/-- The entries of a map are read one after another. -/
theorem toOption_run_entries {value : Parse α} {shape : Json → Option α} (h : Follows value shape)
    {pairs : List (Text × Json)} {fuel : Nat} (hfuel : pairs.length < fuel) (isFirst : Bool)
    (rest : List Token) :
    ((entries value fuel isFirst).run
        (Json.entryTokens isFirst pairs ++ .closeBrace :: rest)).toOption =
      (pairs.mapM fun p => (shape p.2).map (p.1, ·)).map (·, rest) := by
  induction pairs generalizing fuel isFirst with
  | nil =>
    obtain ⟨fuel, rfl⟩ := Nat.exists_eq_add_one.mpr hfuel
    rw [Json.entryTokens, List.nil_append, entries, run_bind (hasNext_closeBrace isFirst rest)]
    rfl
  | cons pair pairs ih =>
    obtain ⟨name, v⟩ := pair
    -- Each entry takes one unit of fuel, and one is left for the end of the object.
    obtain ⟨fuel, rfl⟩ := Nat.exists_eq_add_one.mpr (Nat.zero_lt_of_lt hfuel)
    have hrest := ih (Nat.lt_of_succ_lt_succ hfuel) false
    rw [Json.entryTokens, entries, List.mapM_cons]
    simp only [List.append_assoc, List.cons_append]
    rw [run_bind (hasNext_name isFirst name _), if_pos rfl, run_bind (run_entryName name _),
      run_bind (run_expect_colon _), h.toOption_run_bind]
    cases shape v with
    | none => rfl
    | some a =>
      rw [Option.bind_some, toOption_run_bind, hrest]
      cases pairs.mapM fun p => (shape p.2).map (p.1, ·) <;> rfl

/-- A map is read as one. -/
theorem follows_dict {value : Parse α} {shape : Json → Option α} (h : Follows value shape) :
    Follows (dict value) (Json.dict? shape) := by
  intro v rest
  cases v with
  | object pairs =>
    have hentries := toOption_run_entries h (length_lt_length_entryTokens pairs rest) true rest
    rw [Json.tokens, List.append_assoc, List.cons_append, List.singleton_append, dict,
      run_bind (run_next _ _)]
    dsimp only
    rw [run_bind (run_get _), toOption_run_bind, hentries, Json.dict?]
    cases pairs.mapM fun p => (shape p.2).map (p.1, ·) <;> rfl
  | null | boolean | integer | floating | string | array => rfl

/-- Reads the value of a field into what has been read before. -/
def fieldValue (d : Draft) : Field → Parse Draft
  | .name => do return { d with name := some (← optionalText) }
  | .template => do return { d with template := some (← text) }
  | .defaults => do return { d with defaults := some (← dict optionalText) }
  | .constraints => do return { d with constraints := some (← dict text) }

/-- The fields of a definition are read one after another. -/
theorem fields_succ (fuel : Nat) (isFirst : Bool) (d : Draft) :
    fields (fuel + 1) isFirst d = (do
      if ← hasNext .closeBrace isFirst then
        let f ← check (d.field (← entryName))
        expect .colon
        fields fuel false (← fieldValue d f)
      else
        let settings ← check d.finish
        expect .closeBrace
        return settings) := by
  rw [fields]
  refine bind_congr fun hasMore => ?_
  split
  · refine bind_congr fun name => bind_congr fun f => bind_congr fun _ => ?_
    cases f <;> simp only [fieldValue, bind_assoc, pure_bind]
  · rfl

/-- The value of a field is read as such. -/
theorem follows_fieldValue (d : Draft) (f : Field) :
    Follows (fieldValue d f) fun v => d.with? v f := by
  cases f with
  | name => exact follows_optionalText.map _
  | template => exact follows_text.map _
  | defaults => exact (follows_dict follows_optionalText).map _
  | constraints => exact (follows_dict follows_text).map _

/-- A check takes no tokens. -/
theorem toOption_run_check (e : Except Fault α) (tokens : List Token) :
    ((check e).run tokens).toOption = e.toOption.map (·, tokens) := by
  cases e <;> rfl

/-- The fields of a definition are read one after another. -/
theorem toOption_run_fields {pairs : List (Text × Json)} {fuel : Nat} (hfuel : pairs.length < fuel)
    (isFirst : Bool) (d : Draft) (rest : List Token) :
    ((fields fuel isFirst d).run (Json.entryTokens isFirst pairs ++ .closeBrace :: rest)).toOption =
      ((pairs.foldlM Draft.withEntry? d).bind (·.finish.toOption)).map (·, rest) := by
  induction pairs generalizing fuel isFirst d with
  | nil =>
    obtain ⟨fuel, rfl⟩ := Nat.exists_eq_add_one.mpr hfuel
    rw [Json.entryTokens, List.nil_append, fields, run_bind (hasNext_closeBrace isFirst rest),
      if_neg Bool.false_ne_true, toOption_run_bind, toOption_run_check]
    change _ = d.finish.toOption.map _
    cases d.finish <;> rfl
  | cons pair pairs ih =>
    obtain ⟨name, v⟩ := pair
    obtain ⟨fuel, rfl⟩ := Nat.exists_eq_add_one.mpr (Nat.zero_lt_of_lt hfuel)
    rw [Json.entryTokens, fields_succ, List.foldlM_cons]
    simp only [List.append_assoc, List.cons_append]
    rw [run_bind (hasNext_name isFirst name _), if_pos rfl, run_bind (run_entryName name _),
      toOption_run_bind, toOption_run_check, Draft.withEntry?]
    cases d.field name with
    | error fault => rfl
    | ok f =>
      change (((expect .colon >>= fun _ => fieldValue d f >>= fun bigger => fields fuel false bigger).run
        _).toOption = _)
      rw [run_bind (run_expect_colon _), (follows_fieldValue d f).toOption_run_bind]
      change _ = (((d.with? v f).bind fun bigger => pairs.foldlM Draft.withEntry? bigger).bind _).map _
      cases d.with? v f with
      | none => rfl
      | some bigger => exact ih (Nat.lt_of_succ_lt_succ hfuel) false bigger

/-- The tokens of an object are read as the definition that its entries make up. -/
theorem toOption_ofTokens_object (entries : List (Text × Json)) :
    (ofTokens (Json.object entries).tokens).toOption = definition? entries := by
  have hfields := toOption_run_fields (length_lt_length_entryTokens entries []) true {} []
  have hrun : (definition.run (Json.object entries).tokens).toOption =
      (definition? entries).map (·, []) := by
    rw [Json.tokens, List.cons_append, definition, run_bind (run_next _ _)]
    dsimp only
    rw [run_bind (run_get _)]
    exact hfields
  unfold ofTokens
  rw [toOption_bind, hrun]
  cases definition? entries <;> rfl

end Parse

end Settings

end PathRouting
