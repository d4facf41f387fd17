import PathRouting.Proofs.Settings.Admissible
import PathRouting.Proofs.Settings.Reading
import PathRouting.Settings.Entry

/-!
# A definition as a body and as an entry

An object can be sent as the body of a request, and a mapping with the same content can be an entry of a
routes file. Both are read as the definition that the object makes up, with one exception: a map that a
definition may leave out can be null in a routes file, but not in a body.
-/

namespace PathRouting

namespace Json

mutual

/-- The value with the same content as a value of JSON. -/
def toValue : Json → Yaml.Value
  | null => .null
  | boolean b => .boolean b
  | integer n => .integer n
  | floating x => .floating x
  | string t => .string t
  | array items => .sequence (itemValues items)
  | object entries => .mapping (entryValues entries)

/-- The values with the same contents as the items of a list. -/
def itemValues : List Json → List Yaml.Value
  | [] => []
  | v :: rest => v.toValue :: itemValues rest

/-- The entries with the same contents as those of an object. -/
def entryValues : List (Text × Json) → List (Yaml.Value × Yaml.Value)
  | [] => []
  | (name, v) :: rest => (.string name, v.toValue) :: entryValues rest

end

/-- An entry with its name as a key. -/
def entryValue (p : Text × Json) : Yaml.Value × Yaml.Value :=
  (.string p.1, p.2.toValue)

/-- The entries of an object are those of a mapping one by one. -/
theorem entryValues_eq_map (entries : List (Text × Json)) :
    entryValues entries = entries.map entryValue := by
  induction entries with
  | nil => rfl
  | cons p entries ih => rw [entryValues, ih, List.map_cons, entryValue]

end Json

namespace Settings

open Json (Token)
open Yaml (Value)

/-- A text writes a value of JSON if it is cut into the tokens of the value. A number that is out of
range is no token, so that a text with such a number writes its value even though no token can be read
where the number stands. -/
def Writes (t : Text) (v : Json) : Prop :=
  Token.scan t = v.tokens ∨
    ∃ front back, v.tokens = front ++ .number :: back ∧ Token.scan t = front ++ [.malformed]

/-- Every text that writes a value is read as the tokens of the value are. -/
theorem Writes.toOption_parse {t : Text} {v : Json} (h : Writes t v) :
    (parse t).toOption = (ofTokens v.tokens).toOption := by
  unfold parse
  rcases h with hscan | ⟨front, back, htokens, hscan⟩
  · rw [hscan]
  · rw [hscan, htokens,
      Parse.toOption_ofTokens_eq_none (List.mem_append_right _ List.mem_cons_self) rfl,
      Parse.toOption_ofTokens_eq_none (List.mem_append_right _ List.mem_cons_self) rfl]

example (x : Binary64) :
    Writes "\x7b\"name\": 1e999\x7d".toList (.object [("name".toList, .floating x)]) :=
  .inr ⟨[.openBrace, .string "name".toList, .colon], [.closeBrace], rfl, by decide +kernel⟩

/-- A value has the text that it is. -/
theorem toOption_textOf (expected : Expected) (v : Json) :
    (textOf expected v.toValue).toOption = v.text? := by
  cases v <;> rfl

/-- A value has the text, or the absence of one, that it is. -/
theorem toOption_optionalTextOf (v : Json) : (optionalTextOf v.toValue).toOption = v.optionalText? := by
  cases v <;> rfl

/-- A value other than null has the map that it is. -/
theorem toOption_dictOf {α : Type} {read : Value → Except Fault α} {shape : Json → Option α}
    (h : ∀ v : Json, (read v.toValue).toOption = shape v) {v : Json} (hv : v ≠ .null) :
    (dictOf read v.toValue).toOption = v.dict? shape := by
  cases v with
  | null => exact absurd rfl hv
  | object entries =>
    change Except.toOption (Dict.ofList <$> (Json.entryValues entries).mapM _) = _
    rw [map_eq_pure_bind, toOption_bind_pure, toOption_mapM, Json.entryValues_eq_map, List.mapM_map]
    refine congrArg (Option.map Dict.ofList) (congrArg (List.mapM · entries) (funext fun p => ?_))
    exact (toOption_bind_pure (read p.2.toValue) (p.1, ·)).trans (congrArg _ (h p.2))
  | boolean | integer | floating | string | array => rfl

/-- A field is found by its name only. -/
theorem Field.eq_text_of_ofText? {t : Text} {f : Field} (h : Field.ofText? t = some f) :
    t = f.text.toList := by
  have hfound := List.find?_some h
  exact (beq_iff_eq.mp hfound).symm

/-- A name that is accepted is the name of the field. -/
theorem Draft.eq_text_of_field {d : Draft} {name : Text} {f : Field} (h : d.field name = .ok f) :
    name = f.text.toList := by
  unfold field at h
  cases hname : Field.ofText? name with
  | none => rw [hname] at h; cases h
  | some g =>
    rw [hname] at h
    dsimp only at h
    split at h
    · cases h
    · cases h
      exact Field.eq_text_of_ofText? hname

/-- Whether an entry gives no value for one of the maps of a definition. -/
def isNullMap : Text × Json → Bool
  | (name, .null) => name == Field.defaults.text.toList || name == Field.constraints.text.toList
  | _ => false

/-- An entry with the empty map in the place of no value for a map. -/
def fillMap (p : Text × Json) : Text × Json :=
  if isNullMap p then (p.1, .object []) else p

/-- If the name of an entry is accepted, a null map is a null value of a field that is a map. -/
theorem isNullMap_iff {d : Draft} {p : Text × Json} {f : Field} (hfield : d.field p.1 = .ok f) :
    isNullMap p = true ↔ p.2 = .null ∧ (f = .defaults ∨ f = .constraints) := by
  obtain ⟨name, v⟩ := p
  obtain rfl := Draft.eq_text_of_field hfield
  cases v with
  | null => cases f <;> simp [isNullMap, Field.text]
  | boolean | integer | floating | string | array | object => exact iff_of_false nofun nofun

/-- The field of an entry is read as its value is, unless the value of a map is null. -/
theorem toOption_readField (d : Draft) {p : Text × Json} (hp : isNullMap p = false) :
    (readField d (Json.entryValue p)).toOption = d.withEntry? p := by
  unfold Draft.withEntry?
  change (d.field p.1 >>= _).toOption = _
  rw [toOption_bind]
  cases hfield : d.field p.1 with
  | error fault => rfl
  | ok f =>
    have hnull (hf : f = .defaults ∨ f = .constraints) : p.2 ≠ .null := fun hv =>
      ne_true_of_eq_false hp ((isNullMap_iff hfield).mpr ⟨hv, hf⟩)
    change _ = d.with? p.2 f
    cases f with
    | name => exact (toOption_bind_pure _ _).trans (congrArg _ (toOption_optionalTextOf p.2))
    | template => exact (toOption_bind_pure _ _).trans (congrArg _ (toOption_textOf .text p.2))
    | defaults =>
      exact (toOption_bind_pure _ _).trans
        (congrArg _ (toOption_dictOf toOption_optionalTextOf (hnull (.inl rfl))))
    | constraints =>
      exact (toOption_bind_pure _ _).trans
        (congrArg _ (toOption_dictOf (toOption_textOf .text) (hnull (.inr rfl))))

/-- The fields of entries are read as their values are, unless the value of a map is null. -/
theorem toOption_foldlM_readField {entries : List (Text × Json)}
    (h : ∀ p ∈ entries, isNullMap p = false) (d : Draft) :
    ((entries.map Json.entryValue).foldlM readField d).toOption =
      entries.foldlM Draft.withEntry? d := by
  rw [List.foldlM_map, toOption_foldlM]
  induction entries generalizing d with
  | nil => rfl
  | cons p entries ih =>
    rw [List.forall_mem_cons] at h
    rw [List.foldlM_cons, List.foldlM_cons, toOption_readField d h.1]
    exact bind_congr (ih h.2)

/-- An entry is read as the definition that its values make up, unless a map is null. -/
theorem toOption_ofValue {entries : List (Text × Json)} (h : entries.any isNullMap = false) :
    (RouteEntry.ofValue (Json.object entries).toValue).toOption =
      (definition? entries).map .definition := by
  change (RouteEntry.definition <$> ofEntries (Json.entryValues entries)).toOption = _
  unfold ofEntries definition?
  rw [map_eq_pure_bind, toOption_bind_pure, toOption_bind, Json.entryValues_eq_map,
    toOption_foldlM_readField (by simpa using h)]

/-- A null map is read from an entry as the empty one is. -/
theorem readField_fillMap (d : Draft) (p : Text × Json) :
    readField d (Json.entryValue (fillMap p)) = readField d (Json.entryValue p) := by
  unfold fillMap
  split
  · rename_i hp
    obtain ⟨name, v⟩ := p
    change (d.field name >>= _) = (d.field name >>= _)
    cases hfield : d.field name with
    | error fault => rfl
    | ok f =>
      obtain ⟨rfl, rfl | rfl⟩ := (isNullMap_iff hfield).mp hp
      · rfl
      · rfl
  · rfl

/-- Null maps are read from an entry as empty ones are. -/
theorem ofValue_fillMap (entries : List (Text × Json)) :
    RouteEntry.ofValue (Json.object (entries.map fillMap)).toValue =
      RouteEntry.ofValue (Json.object entries).toValue := by
  change (RouteEntry.definition <$> ofEntries (Json.entryValues _)) =
    RouteEntry.definition <$> ofEntries (Json.entryValues _)
  unfold ofEntries
  simp only [Json.entryValues_eq_map, List.foldlM_map, readField_fillMap]

/-- A null map is not the value of its field. -/
theorem Draft.withEntry?_eq_none (d : Draft) {p : Text × Json} (hp : isNullMap p = true) :
    d.withEntry? p = none := by
  obtain ⟨name, v⟩ := p
  unfold withEntry?
  cases hfield : d.field name with
  | error fault => rfl
  | ok f =>
    obtain ⟨rfl, rfl | rfl⟩ := (isNullMap_iff hfield).mp hp
    · rfl
    · rfl

/-- A null map makes up no definition. -/
theorem definition?_eq_none {entries : List (Text × Json)} (h : entries.any isNullMap = true) :
    definition? entries = none := by
  obtain ⟨p, hp, hnull⟩ := List.any_eq_true.mp h
  obtain ⟨front, back, rfl⟩ := List.append_of_mem hp
  unfold definition?
  rw [List.foldlM_append]
  cases front.foldlM Draft.withEntry? ({} : Draft) with
  | none => rfl
  | some d =>
    change ((p :: back).foldlM Draft.withEntry? d).bind _ = none
    rw [List.foldlM_cons, Draft.withEntry?_eq_none d hnull]
    rfl

/-- The two ways to register a route agree. An object of JSON describes the same route as the body of a
request and as an entry of a routes file, or none in both places, as long as neither its defaults nor its
constraints are null. With a null map it is refused as a body, and as an entry it is read as if the map
were empty. -/
theorem front_ends_agree {entries : List (Text × Json)} {body : Text}
    (h : Writes body (.object entries)) :
    (entries.any isNullMap = false →
      (parse body).toOption.map toRoute =
        (RouteEntry.ofValue (Json.object entries).toValue).toOption.map RouteEntry.toRoute) ∧
    (entries.any isNullMap = true →
      (parse body).toOption = none ∧
      RouteEntry.ofValue (Json.object entries).toValue =
        RouteEntry.ofValue (Json.object (entries.map fillMap)).toValue) := by
  have hbody : (parse body).toOption = definition? entries :=
    h.toOption_parse.trans (Parse.toOption_ofTokens_object entries)
  refine ⟨fun hnone => ?_, fun hsome => ⟨?_, (ofValue_fillMap entries).symm⟩⟩
  · rw [hbody, toOption_ofValue hnone, Option.map_map]
    rfl
  · rw [hbody, definition?_eq_none hsome]

/-- The entries of an object without null maps, although its name and one of its defaults are null. -/
def pageEntries : List (Text × Json) :=
  [("name".toList, .null), ("template".toList, .string "news/\x7bpage\x7d".toList),
    ("defaults".toList, .object [("page".toList, .null)])]

/-- A text that writes the object. -/
def pageBody : Text :=
  "\x7b\"name\":null, \"template\":\"news/\x7bpage\x7d\", \"defaults\":\x7b\"page\":null\x7d\x7d".toList

/-- The entries of an object whose defaults are null. -/
def nullDefaultsEntries : List (Text × Json) :=
  [("template".toList, .string "news".toList), ("defaults".toList, .null)]

/-- A text that writes the object. -/
def nullDefaultsBody : Text :=
  "\x7b\"template\": \"news\", \"defaults\": null\x7d".toList

/-- The route with an optional page is described by the body as well as by the entry. The object with
null defaults describes its route as an entry only. -/
theorem pageEntries_agree :
    (∃ r, (parse pageBody).toOption.map toRoute = some r ∧
      (RouteEntry.ofValue (Json.object pageEntries).toValue).toOption.map RouteEntry.toRoute = some r) ∧
    (parse nullDefaultsBody).toOption = none ∧
    ∃ r, (RouteEntry.ofValue (Json.object nullDefaultsEntries).toValue).toOption.map
      RouteEntry.toRoute = some r := by
  have hpageBody : Writes pageBody (.object pageEntries) := .inl (by decide +kernel)
  have hpage := (front_ends_agree hpageBody).1 rfl
  have hnullBody : Writes nullDefaultsBody (.object nullDefaultsEntries) := .inl (by decide +kernel)
  have hnull := (front_ends_agree hnullBody).2 rfl
  refine ⟨?_, hnull.1, ?_⟩
  · have hentry : ((RouteEntry.ofValue (Json.object pageEntries).toValue).toOption.map
        RouteEntry.toRoute).isSome := by decide +kernel
    obtain ⟨r, hr⟩ := Option.isSome_iff_exists.mp hentry
    exact ⟨r, hpage.trans hr, hr⟩
  · have hentry : ((RouteEntry.ofValue
        (Json.object (nullDefaultsEntries.map fillMap)).toValue).toOption.map
          RouteEntry.toRoute).isSome := by decide +kernel
    rw [hnull.2]
    exact Option.isSome_iff_exists.mp hentry

/-- With null defaults the two ways to register a route do not agree. -/
theorem nullDefaults_differ :
    ¬∀ (entries : List (Text × Json)) (body : Text), (entries.map Prod.fst).Nodup →
      Writes body (.object entries) →
      (parse body).toOption.map toRoute =
        (RouteEntry.ofValue (Json.object entries).toValue).toOption.map RouteEntry.toRoute := by
  intro h
  have hwrites : Writes nullDefaultsBody (.object nullDefaultsEntries) := .inl (by decide +kernel)
  exact absurd (h nullDefaultsEntries nullDefaultsBody (by decide) hwrites) (by decide +kernel)

end Settings

end PathRouting
