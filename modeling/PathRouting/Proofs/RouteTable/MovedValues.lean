import PathRouting.Proofs.Route.Acceptance
import PathRouting.Proofs.Route.Rows
import PathRouting.Proofs.RouteTable.Precedence
import PathRouting.Proofs.Template.OuterSlashes
import PathRouting.Proofs.Text.Query

/-!
# Values of the query string in place of the path

The values of the last components of a path may be given in the query string instead. A path is
percent encoded and a query string is written as a form does, but each of them is decoded once, so the
values are the same.
-/

namespace PathRouting

/-- A text that is not empty is encoded as a piece. -/
theorem Percent.isPiece_encode {t : Text} (h : t ≠ []) : (encode t).IsPiece where
  ne_nil := fun hnil => h (encode_eq_nil_iff.mp hnil)
  head := fun hhead => slash_notMem_encode t (List.mem_of_mem_head? hhead)
  last := fun hlast => slash_notMem_encode t (List.mem_of_getLast? hlast)

/-- An encoded text holds no question mark. -/
theorem Percent.question_notMem_encode (t : Text) : '?' ∉ encode t :=
  fun h => absurd (mem_encode h) (by decide)

/-- Slashes around a text make no difference to the other characters that it holds. -/
theorem Text.mem_trim_iff {c : Char} (hc : c ≠ '/') {t : Text} : c ∈ trim '/' t ↔ c ∈ t := by
  obtain ⟨front, back, ht, hfront, hback⟩ := exists_append_trim '/' t
  constructor
  · intro h
    rw [ht]
    exact List.mem_append_left _ (List.mem_append_right _ h)
  · intro h
    rw [ht, List.mem_append, List.mem_append] at h
    rcases h with (h | h) | h
    · exact absurd (hfront c h) hc
    · exact h
    · exact absurd (hback c h) hc

namespace RouteTable

variable {r : Route} {table : RouteTable} {text path : Text} {ps : List Placeholder}
  {assign : Text → Text} {k : Nat} {pairs : List (Text × Text)}

/-- A path without a question mark is normalized by leaving out the slashes around it. -/
theorem normalizePath_of_notMem (h : '?' ∉ path) : normalizePath path = Text.trim '/' path := by
  have hall : path.takeWhile (· != '?') = path := List.takeWhile_eq_self_iff.mpr fun c hc => by
    rw [bne_iff_ne]
    rintro rfl
    exact h hc
  unfold normalizePath
  rw [hall]

/-- The path is the row of its pieces. -/
theorem normalizePath_eq_row (hlast : text.getLast? ≠ some '/') (hquestion : '?' ∉ text)
    (hassign : ∀ p ∈ ps, assign p.name ≠ [])
    (hpath : Text.trim '/' path =
      Text.trim '/' (text ++ ps.flatMap fun p => '/' :: Percent.encode (assign p.name))) :
    normalizePath path = ['/'].intercalate
      (Text.pieces (Text.trimStart '/' text) (ps.map fun p => Percent.encode (assign p.name))) := by
  have hpieces : ∀ u ∈ ps.map fun p => Percent.encode (assign p.name), u.IsPiece :=
    List.forall_mem_map.mpr fun p hp => Percent.isPiece_encode (hassign p hp)
  have hnone : '?' ∉ path := by
    have hne : '?' ≠ '/' := by decide
    rw [← Text.mem_trim_iff hne, hpath, Text.mem_trim_iff hne, List.mem_append, List.mem_flatMap]
    rintro (h | ⟨p, -, h⟩)
    · exact hquestion h
    · exact Percent.question_notMem_encode _ (List.mem_of_ne_of_mem hne h)
  rw [normalizePath_of_notMem hnone, hpath, ← Text.trim_append_flatMap hlast hpieces,
    List.flatMap_map]

/-- A query string with other names besides has the values of its pairs. -/
theorem nonempty?_parse_encode {names : List Text} {rest : List Placeholder}
    (hpairs : (pairs.filter fun q => q.1 ∈ names).Perm (rest.map fun p => (p.name, assign p.name)))
    (hnames : ∀ p ∈ rest, p.name ∈ names ∧ assign p.name ≠ []) :
    ∀ p ∈ rest, Values.nonempty? (Query.parse? (some (Query.encode pairs))) p.name =
      some (assign p.name) := by
  intro p hp
  obtain ⟨hname, hne⟩ := hnames p hp
  have hget : (Query.parse? (some (Query.encode pairs))).get? p.name = some (assign p.name) := by
    change (Query.parse (Query.encode pairs)).get? p.name = _
    rw [Query.parse_encode]
    refine Dict.get?_ofList_of_forall ?_ fun v hv => ?_
    · exact List.mem_of_mem_filter (hpairs.mem_iff.mpr (List.mem_map_of_mem hp))
    · have hmem := hpairs.mem_iff.mp (List.mem_filter.mpr ⟨hv, decide_eq_true hname⟩)
      obtain ⟨q, -, heq⟩ := List.mem_map.mp hmem
      obtain ⟨hname, rfl⟩ := Prod.mk.inj heq
      rw [hname]
  unfold Values.nonempty?
  rw [hget]
  exact if_pos (by simpa using hne)

/-- Values may move from the end of a path to the query string. Where a route without constraints is
literal text with placeholders behind it, each of them a component of its own, and a table holds only
this route, a path with the encoded values of the first placeholders gets the values of all of them
if the query string is made of the names and values of the others, in any order and among any other
names. The expression of the route must not become too large for that query string. -/
theorem resolve_moved (hr : r.ConstraintFree) (hps : ∀ p ∈ ps, p.Canonical)
    (htemplate : Text.trim '/' r.template =
      Text.trim '/' (doubleBraces text ++ ps.flatMap fun p => '/' :: p.render))
    (hlast : text.getLast? ≠ some '/') (hquestion : '?' ∉ text)
    (hadd : RouteTable.empty.add r = .ok table) (hassign : ∀ p ∈ ps, assign p.name ≠ [])
    (hpath : Text.trim '/' path = Text.trim '/'
      (text ++ (ps.take k).flatMap fun p => '/' :: Percent.encode (assign p.name)))
    (hpairs : (pairs.filter fun q => q.1 ∈ ps.map (·.name)).Perm
      ((ps.drop k).map fun p => (p.name, assign p.name)))
    (hsize : r.compile (Query.parse? (some (Query.encode pairs))) ≠
      .error (.invalidTemplate r.template (.expression .size))) :
    ∃ m, table.resolve path (Query.parse? (some (Query.encode pairs))) = some m ∧
      m.values = .ofList (ps.map fun p => (p.name, assign p.name)) := by
  obtain ⟨-, ⟨c, hc⟩, rfl⟩ := add_eq_ok_iff.mp hadd
  obtain ⟨d, hd⟩ := Route.exists_compile_of_compile hr.enclosable hr.roomy hc hsize
  have ht : Template.parse (Text.trim '/' r.template) =
      .ok (Template.row (Text.trimStart '/' text) ps) := by
    rw [htemplate]
    exact Template.parse_trim_row hps hlast
  have hquery := nonempty?_parse_encode hpairs fun p hp =>
    ⟨List.mem_map_of_mem (List.mem_of_mem_drop hp), hassign p (List.mem_of_mem_drop hp)⟩
  have hvalues := valuesIn?_row hr ht hd hassign hquery
  have hnormal := normalizePath_eq_row hlast hquestion
    (fun p hp => hassign p (List.mem_of_mem_take hp)) hpath
  rw [← hnormal] at hvalues
  have hmatch : matchRoute? (normalizePath path) (Query.parse? (some (Query.encode pairs))) r =
      some ⟨{ r with defaults := d.defaults }, .ofList (ps.map fun p => (p.name, assign p.name))⟩ := by
    unfold matchRoute?
    rw [hd, Except.toOption, Option.bind_eq_bind, Option.bind_some, hvalues]
    rfl
  exact ⟨_, List.findSome?_singleton.trans hmatch, rfl⟩

/-- A route with text before its parameters and a default for one of them. -/
def fileRoute : Route :=
  { template := "/files/{owner}/{file}/{version=1}".toList }

/-- The parameters of the route. -/
def filePlaceholders : List Placeholder :=
  [⟨"owner".toList, .none⟩, ⟨"file".toList, .none⟩, ⟨"version".toList, .value "1".toList⟩]

/-- Texts for the parameters of the route, with the signs that part a path or a query string. -/
def fileValues (name : Text) : Text :=
  if name = "owner".toList then "a&b".toList
  else if name = "file".toList then "x/y+z=100%".toList else "v 2/é".toList

/-- The names and texts of two parameters, with another name between them. -/
def filePairs : List (Text × Text) :=
  [("version".toList, "v 2/é".toList), ("sort by".toList, "a&b=c".toList),
    ("file".toList, "x/y+z=100%".toList)]

/-- The text of the first parameter stands in the path, those of the others in the query string. -/
theorem fileTable_resolve_moved : ∃ table m, RouteTable.empty.add fileRoute = .ok table ∧
    table.resolve "/files/a%26b".toList
        (Query.parse? (some
          "version=v+2%2F%C3%A9&sort+by=a%26b%3Dc&file=x%2Fy%2Bz%3D100%25".toList)) = some m ∧
    m.values = .ofList [("owner".toList, "a&b".toList), ("file".toList, "x/y+z=100%".toList),
      ("version".toList, "v 2/é".toList)] := by
  have hany : (RouteTable.empty.add fileRoute).toOption.any (fun _ => true) = true := by
    decide +kernel
  obtain ⟨table, hadd, -⟩ := exists_ok_of_any_toOption hany
  have ht : Template.parse "files/{owner}/{file}/{version=1}".toList = .ok
      [.literal "files/".toList, .placeholder ⟨"owner".toList, .none⟩, .literal "/".toList,
        .placeholder ⟨"file".toList, .none⟩, .literal "/".toList,
        .placeholder ⟨"version".toList, .value "1".toList⟩] := by decide +kernel
  have hpart : ∀ p ∈ filePlaceholders, Part.placeholder p ∈
      [.literal "files/".toList, .placeholder ⟨"owner".toList, .none⟩, .literal "/".toList,
        .placeholder ⟨"file".toList, .none⟩, .literal "/".toList,
        .placeholder ⟨"version".toList, .value "1".toList⟩] := by decide
  have hps : ∀ p ∈ filePlaceholders, p.Canonical := fun p hp =>
    (Template.canonical_of_parse ht).parts _ (hpart p hp)
  have hencode : Query.encode filePairs =
      "version=v+2%2F%C3%A9&sort+by=a%26b%3Dc&file=x%2Fy%2Bz%3D100%25".toList := by decide +kernel
  have hsize : (fileRoute.compile (Query.parse? (some (Query.encode filePairs)))).map (·.pattern) ≠
      .error (.invalidTemplate fileRoute.template (.expression .size)) := by decide +kernel
  obtain ⟨m, hresolve, hvalues⟩ := resolve_moved (k := 1) (fun _ _ _ _ => rfl) hps
    (show Text.trim '/' fileRoute.template = Text.trim '/' (doubleBraces "files".toList ++ _) by
      decide +kernel)
    (by decide) (by decide) hadd (show ∀ p ∈ filePlaceholders, fileValues p.name ≠ [] by decide)
    (show Text.trim '/' "/files/a%26b".toList = _ by decide +kernel)
    (show (filePairs.filter _).Perm _ by decide +kernel) fun herror => hsize (by rw [herror]; rfl)
  rw [hencode] at hresolve
  exact ⟨table, m, hadd, hresolve, hvalues⟩

end RouteTable

end PathRouting
