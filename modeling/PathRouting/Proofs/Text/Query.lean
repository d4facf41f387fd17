import PathRouting.Proofs.Text.Percent
import PathRouting.Proofs.Text.Splitting
import PathRouting.Text.Query

/-!
# Encoded query strings

A form writes its pairs as a query string: a space as a plus sign, letters, digits and four marks as
they are, and all other characters as their percent encoded bytes. The pairs are read back from what
was written, whatever they hold, as no name or value is written with one of the signs that part them.
-/

namespace PathRouting.Query

/-- Whether a character of a form is written as it is: a letter, a digit or one of four marks. -/
def isPlain (c : Char) : Bool :=
  Text.isLetter c || Text.isDigit c || c == '*' || c == '-' || c == '.' || c == '_'

/-- A character of a form as it is written. -/
def encodeChar (c : Char) : Text :=
  if c = ' ' then ['+']
  else if isPlain c then [c]
  else (String.utf8EncodeChar c).flatMap Percent.encodeByte

/-- A name or a value as it is written. -/
def encodeText (t : Text) : Text :=
  t.flatMap encodeChar

/-- A pair as it is written. -/
def encodePair (p : Text × Text) : Text :=
  encodeText p.1 ++ '=' :: encodeText p.2

/-- The query string of a row of pairs. -/
def encode (pairs : List (Text × Text)) : Text :=
  ['&'].intercalate (pairs.map encodePair)

/-- Characters that are written as they are in a form are so elsewhere, the asterisk apart. -/
theorem isUnreserved_of_isPlain {c : Char} (h : isPlain c = true) :
    c = '*' ∨ Percent.isUnreserved c = true := by
  unfold isPlain at h
  unfold Percent.isUnreserved
  simp only [Bool.or_eq_true, beq_iff_eq] at h ⊢
  tauto

/-- What names and values are written with. -/
theorem mem_encodeText {t : Text} {c : Char} (h : c ∈ encodeText t) :
    c = '+' ∨ c = '*' ∨ c = '%' ∨ Percent.isUnreserved c = true := by
  obtain ⟨d, -, hd⟩ := List.mem_flatMap.mp h
  unfold encodeChar at hd
  split at hd
  · exact .inl (List.mem_singleton.mp hd)
  · split at hd
    · rename_i hplain
      obtain rfl := List.mem_singleton.mp hd
      exact (isUnreserved_of_isPlain hplain).elim (.inr ∘ .inl) (.inr ∘ .inr ∘ .inr)
    · obtain ⟨b, -, hb⟩ := List.mem_flatMap.mp hd
      exact .inr (.inr (Percent.mem_encodeByte hb))

/-- No name or value is written with an ampersand. -/
theorem ampersand_notMem_encodeText (t : Text) : '&' ∉ encodeText t :=
  fun h => absurd (mem_encodeText h) (by decide)

/-- No name or value is written with an equals sign. -/
theorem equals_notMem_encodeText (t : Text) : '=' ∉ encodeText t :=
  fun h => absurd (mem_encodeText h) (by decide)

/-- A text in which plus signs stand for spaces. -/
def spaced (t : Text) : Text :=
  t.map fun c => if c = '+' then ' ' else c

/-- Plus signs apart, a text stays as it is. -/
theorem spaced_of_notMem {t : Text} (h : '+' ∉ t) : spaced t = t := by
  unfold spaced
  refine (List.map_congr_left fun c hc => if_neg ?_).trans (List.map_id t)
  rintro rfl
  exact h hc

/-- A written character is read as its bytes, whatever follows. -/
theorem decodeBytes_encodeChar (c : Char) (rest : List UInt8) :
    Percent.decodeBytes (Utf8.encode (spaced (encodeChar c)) ++ rest) =
      String.utf8EncodeChar c ++ Percent.decodeBytes rest := by
  have hone : ∀ d : Char, d.toNat < 128 → d ≠ '%' →
      Percent.decodeBytes (Utf8.encode [d] ++ rest) =
        String.utf8EncodeChar d ++ Percent.decodeBytes rest := by
    intro d hd hne
    obtain ⟨b, hb, hsign⟩ := Percent.utf8EncodeChar_of_lt hd hne
    have hbytes : Utf8.encode [d] = [b] := by
      rw [← hb]
      exact List.flatMap_singleton ..
    rw [hbytes, hb]
    exact Percent.decodeBytes_cons hsign rest
  unfold encodeChar
  split
  · rename_i hspace
    rw [hspace]
    exact hone ' ' (by decide) (by decide)
  · split
    · rename_i hplain
      have hsame : spaced [c] = [c] := spaced_of_notMem fun h => by
        rw [← List.mem_singleton.mp h] at hplain
        exact absurd hplain (by decide)
      rw [hsame]
      refine hone c ?_ ?_
      · rcases isUnreserved_of_isPlain hplain with rfl | h
        · decide
        · exact Percent.toNat_lt_of_isUnreserved h
      · rintro rfl
        exact absurd hplain (by decide)
    · rw [spaced_of_notMem, Percent.decodeBytes_flatMap_encodeByte]
      intro h
      obtain ⟨b, -, hb⟩ := List.mem_flatMap.mp h
      exact absurd (Percent.mem_encodeByte hb) (by decide)

/-- A written name or value is decoded to itself. -/
theorem decode_encodeText (t : Text) : decode (encodeText t) = t := by
  have hbytes : Percent.decodeBytes (Utf8.encode (spaced (encodeText t))) = Utf8.encode t := by
    induction t with
    | nil => rfl
    | cons c t ih =>
      have hspaced : spaced (encodeText (c :: t)) =
          spaced (encodeChar c) ++ spaced (encodeText t) := by
        unfold spaced encodeText
        rw [List.flatMap_cons, List.map_append]
      rw [hspaced, Utf8.encode_append, decodeBytes_encodeChar, ih]
      rfl
  unfold decode
  change Utf8.decodeLossy (Percent.decodeBytes (Utf8.encode (spaced (encodeText t)))) = t
  rw [hbytes, Utf8.decodeLossy_encode]

/-- A written pair is decoded to itself. -/
theorem decodePair_encodePair (p : Text × Text) : decodePair (encodePair p) = p := by
  unfold decodePair encodePair
  rw [Text.splitFirst_append (equals_notMem_encodeText p.1)]
  dsimp only
  rw [decode_encodeText, decode_encodeText]

/-- No pair is written with an ampersand. -/
theorem ampersand_notMem_encodePair (p : Text × Text) : '&' ∉ encodePair p := by
  unfold encodePair
  rw [List.mem_append, List.mem_cons, not_or, not_or]
  exact ⟨ampersand_notMem_encodeText p.1, by decide, ampersand_notMem_encodeText p.2⟩

/-- The pairs of a query string are those of which it was made. -/
theorem pairs_encode (row : List (Text × Text)) : pairs (encode row) = row := by
  have hkept : ∀ t ∈ row.map encodePair, (!t.isEmpty) = true := by
    intro t ht
    obtain ⟨p, -, rfl⟩ := List.mem_map.mp ht
    rw [Bool.not_eq_true', List.isEmpty_eq_false_iff]
    exact List.append_ne_nil_of_right_ne_nil _ (List.cons_ne_nil _ _)
  have hpieces : (Text.splitAll '&' (encode row)).filter (!·.isEmpty) = row.map encodePair := by
    cases row with
    | nil => rfl
    | cons p row =>
      have hsplit : (encode (p :: row)).splitOn '&' = (p :: row).map encodePair := by
        refine List.splitOn_intercalate '&' (fun t ht => ?_) (List.cons_ne_nil _ _)
        obtain ⟨q, -, rfl⟩ := List.mem_map.mp ht
        exact ampersand_notMem_encodePair q
      rw [Text.splitAll_eq_splitOn, hsplit, List.filter_eq_self.mpr hkept]
  unfold pairs
  rw [hpieces, List.map_map]
  exact (List.map_congr_left fun p _ => decodePair_encodePair p).trans (List.map_id row)

/-- A query string of pairs is read as their dictionary. -/
theorem parse_encode (row : List (Text × Text)) : parse (encode row) = .ofList row := by
  unfold parse
  rw [pairs_encode]

end PathRouting.Query
