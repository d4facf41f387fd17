import Mathlib.Data.List.Basic
import Mathlib.Tactic.IntervalCases
import PathRouting.Text.Percent

/-!
# Encoded texts

Decoding undoes encoding: the bytes of a text are the bytes of its characters one after another, and
an encoded text has the same bytes as the text once its percent signs are resolved. An encoded text
holds no slash and is empty only if the text is.
-/

namespace PathRouting

namespace Utf8

/-- The bytes of a character are read as the character, whatever follows. -/
theorem decodeFrom_utf8EncodeChar (c : Char) (rest : List UInt8) :
    decodeFrom none (String.utf8EncodeChar c ++ rest) = some c :: decodeFrom none rest := by
  have hofNat : Char.ofNat c.val.toNat = c := Char.ofNat_toNat c
  have hvalid : c.val.toNat < 0xD800 ∨ 0xDFFF < c.val.toNat ∧ c.val.toNat < 0x110000 := c.valid
  unfold String.utf8EncodeChar
  dsimp only
  generalize hv : c.val.toNat = v at hofNat hvalid ⊢
  split
  · have hbyte : (UInt8.ofNat v).toNat = v := by simp; omega
    rw [List.singleton_append, decodeFrom, lead, hbyte, if_pos (by omega), hofNat]
  · split
    · have hfirst : (UInt8.ofNat (v / 64 % 32 + 192)).toNat = v / 64 + 192 := by simp; omega
      have hsecond : (UInt8.ofNat (v % 64 + 128)).toNat = v % 64 + 128 := by simp; omega
      have hlead : lead (UInt8.ofNat (v / 64 % 32 + 192)) = .more ⟨0, 0x80, 0xBF, v / 64⟩ := by
        rw [lead, hfirst, if_neg (by omega), if_neg (by omega), if_pos (by omega),
          Nat.add_sub_cancel]
      have hbits : v / 64 * 64 + (v % 64 + 128 - 128) = v := by omega
      simp only [List.cons_append, List.nil_append, decodeFrom, hlead, hsecond]
      rw [if_pos (by omega), hbits, hofNat]
    · split
      · have hfirst : (UInt8.ofNat (v / 4096 % 16 + 224)).toNat = v / 4096 + 224 := by simp; omega
        have hsecond : (UInt8.ofNat (v / 64 % 64 + 128)).toNat = v / 64 % 64 + 128 := by simp; omega
        have hthird : (UInt8.ofNat (v % 64 + 128)).toNat = v % 64 + 128 := by simp; omega
        have hlead : lead (UInt8.ofNat (v / 4096 % 16 + 224)) =
            .more ⟨1, if v / 4096 + 224 = 0xE0 then 0xA0 else 0x80,
              if v / 4096 + 224 = 0xED then 0x9F else 0xBF, v / 4096⟩ := by
          rw [lead, hfirst, if_neg (by omega), if_neg (by omega), if_neg (by omega),
            if_pos (by omega), Nat.add_sub_cancel]
        have hbits : (v / 4096 * 64 + (v / 64 % 64 + 128 - 128)) * 64 + (v % 64 + 128 - 128) = v := by
          omega
        simp only [List.cons_append, List.nil_append, decodeFrom, hlead, hsecond, hthird]
        rw [if_pos, if_pos (by omega), hbits, hofNat]
        constructor
        · split <;> omega
        · split <;> omega
      · have hfirst : (UInt8.ofNat (v / 262144 % 8 + 240)).toNat = v / 262144 + 240 := by
          simp; omega
        have hsecond : (UInt8.ofNat (v / 4096 % 64 + 128)).toNat = v / 4096 % 64 + 128 := by
          simp; omega
        have hthird : (UInt8.ofNat (v / 64 % 64 + 128)).toNat = v / 64 % 64 + 128 := by simp; omega
        have hfourth : (UInt8.ofNat (v % 64 + 128)).toNat = v % 64 + 128 := by simp; omega
        have hlead : lead (UInt8.ofNat (v / 262144 % 8 + 240)) =
            .more ⟨2, if v / 262144 + 240 = 0xF0 then 0x90 else 0x80,
              if v / 262144 + 240 = 0xF4 then 0x8F else 0xBF, v / 262144⟩ := by
          rw [lead, hfirst, if_neg (by omega), if_neg (by omega), if_neg (by omega),
            if_neg (by omega), if_pos (by omega), Nat.add_sub_cancel]
        have hbits : ((v / 262144 * 64 + (v / 4096 % 64 + 128 - 128)) * 64 +
            (v / 64 % 64 + 128 - 128)) * 64 + (v % 64 + 128 - 128) = v := by omega
        simp only [List.cons_append, List.nil_append, decodeFrom, hlead, hsecond, hthird, hfourth]
        rw [if_pos, if_pos (by omega), if_pos (by omega), hbits, hofNat]
        constructor
        · split <;> omega
        · split <;> omega

/-- A character of ASCII is a single byte. -/
theorem utf8EncodeChar_ascii {c : Char} (hc : c.toNat < 128) :
    String.utf8EncodeChar c = [UInt8.ofNat c.toNat] := by
  unfold String.utf8EncodeChar
  dsimp only
  rw [if_pos (show c.val.toNat ≤ 127 from Nat.le_of_lt_succ hc)]
  rfl

/-- The bytes of other characters are no characters of ASCII. -/
theorem le_of_mem_utf8EncodeChar {c : Char} (hc : 128 ≤ c.toNat) {b : UInt8}
    (hb : b ∈ String.utf8EncodeChar c) : 128 ≤ b.toNat := by
  have hlarge : 128 ≤ c.val.toNat := hc
  have hbyte : ∀ n, b = UInt8.ofNat n → b.toNat = n % 256 := by
    rintro n rfl
    simp
  unfold String.utf8EncodeChar at hb
  dsimp only at hb
  split at hb
  · omega
  · split at hb
    · simp only [List.mem_cons, List.not_mem_nil, or_false] at hb
      rcases hb with hb | hb
      all_goals
        have := hbyte _ hb
        omega
    · split at hb
      · simp only [List.mem_cons, List.not_mem_nil, or_false] at hb
        rcases hb with hb | hb | hb
        all_goals
          have := hbyte _ hb
          omega
      · simp only [List.mem_cons, List.not_mem_nil, or_false] at hb
        rcases hb with hb | hb | hb | hb
        all_goals
          have := hbyte _ hb
          omega

/-- The bytes of a text are read as its characters. -/
theorem decodeFrom_encode (t : Text) : decodeFrom none (encode t) = t.map some := by
  induction t with
  | nil => rfl
  | cons c t ih =>
    unfold encode at ih ⊢
    rw [List.flatMap_cons, decodeFrom_utf8EncodeChar, ih, List.map_cons]

/-- The bytes of a text are read as the text. -/
theorem decode?_encode (t : Text) : decode? (encode t) = some t := by
  unfold decode?
  rw [decodeFrom_encode]
  induction t with
  | nil => rfl
  | cons c t ih =>
    rw [List.map_cons, List.mapM_cons, ih]
    rfl

/-- The bytes of a text are read as the text where other bytes would be replaced. -/
theorem decodeLossy_encode (t : Text) : decodeLossy (encode t) = t := by
  unfold decodeLossy
  rw [decodeFrom_encode, List.map_map]
  exact List.map_id t

/-- The bytes of texts one after another. -/
theorem encode_append (t u : Text) : encode (t ++ u) = encode t ++ encode u :=
  List.flatMap_append

/-- What has been started is read as something, and so are bytes that are there. -/
theorem decodeFrom_ne_nil {u : Option Unfinished} {bytes : List UInt8}
    (h : u ≠ none ∨ bytes ≠ []) : decodeFrom u bytes ≠ [] := by
  fun_induction decodeFrom u bytes with
  | case1 => simp at h
  | case2 => exact List.cons_ne_nil _ _
  | case3 => exact List.cons_ne_nil _ _
  | case4 b rest u hlead ih => exact ih (.inl (Option.some_ne_none u))
  | case5 => exact List.cons_ne_nil _ _
  | case6 => exact List.cons_ne_nil _ _
  | case7 u b rest n hbounds bits further hfurther ih => exact ih (.inl (Option.some_ne_none _))
  | case8 => exact List.cons_ne_nil _ _

/-- Bytes that are there are not the bytes of the empty text. -/
theorem decode?_ne_some_nil {bytes : List UInt8} (h : bytes ≠ []) : decode? bytes ≠ some [] := by
  intro hnil
  unfold decode? at hnil
  obtain ⟨c, rest, hread⟩ := List.exists_cons_of_ne_nil (decodeFrom_ne_nil (u := none) (.inr h))
  rw [hread, List.mapM_cons] at hnil
  obtain ⟨d, -, hnil⟩ := Option.bind_eq_some_iff.mp hnil
  obtain ⟨ds, -, hnil⟩ := Option.bind_eq_some_iff.mp hnil
  cases hnil

/-- A text has bytes unless it is empty. -/
theorem encode_ne_nil {t : Text} (h : t ≠ []) : encode t ≠ [] := by
  obtain ⟨c, rest, rfl⟩ := List.exists_cons_of_ne_nil h
  have hc : String.utf8EncodeChar c ≠ [] := by
    rw [← List.length_pos_iff, String.length_utf8EncodeChar]
    exact c.utf8Size_pos
  unfold encode
  rw [List.flatMap_cons]
  exact List.append_ne_nil_of_left_ne_nil hc _

end Utf8

namespace Percent

/-- A byte other than a percent sign is kept. -/
theorem decodeBytes_cons {b : UInt8} (hb : b ≠ sign) (rest : List UInt8) :
    decodeBytes (b :: rest) = b :: decodeBytes rest := by
  match rest with
  | [] => rfl
  | [_] => rfl
  | _ :: _ :: _ => rw [decodeBytes, if_neg hb]

/-- A hexadecimal digit is one byte, from which its value is read. -/
theorem digit?_hexDigit {n : Nat} (hn : n < 16) :
    ∃ b, String.utf8EncodeChar (hexDigit (UInt8.ofNat n)) = [b] ∧
      digit? b = some (UInt8.ofNat n) := by
  refine ⟨UInt8.ofNat (hexDigit (UInt8.ofNat n)).toNat, ?_⟩
  interval_cases n <;> exact ⟨rfl, rfl⟩

/-- An encoded byte is decoded, whatever follows. -/
theorem decodeBytes_encodeByte (b : UInt8) (rest : List UInt8) :
    decodeBytes (Utf8.encode (encodeByte b) ++ rest) = b :: decodeBytes rest := by
  have hb : b.toNat < 256 := b.toNat_lt
  obtain ⟨high, hhigh, hhighDigit⟩ := digit?_hexDigit (show b.toNat / 16 < 16 by omega)
  obtain ⟨low, hlow, hlowDigit⟩ := digit?_hexDigit (show b.toNat % 16 < 16 by omega)
  have hdiv : b / 16 = UInt8.ofNat (b.toNat / 16) := by
    rw [← UInt8.toNat_inj]
    simp
    omega
  have hmod : b % 16 = UInt8.ofNat (b.toNat % 16) := by
    rw [← UInt8.toNat_inj]
    simp
    omega
  have hvalue : UInt8.ofNat (b.toNat / 16) * 16 + UInt8.ofNat (b.toNat % 16) = b := by
    rw [← UInt8.toNat_inj]
    simp
    omega
  have hbytes : Utf8.encode (encodeByte b) = [sign, high, low] := by
    unfold Utf8.encode encodeByte
    rw [List.flatMap_cons, List.flatMap_cons, List.flatMap_singleton, hdiv, hmod, hhigh, hlow]
    rfl
  rw [hbytes, List.cons_append, List.cons_append, List.singleton_append, decodeBytes, if_pos rfl,
    hhighDigit, hlowDigit]
  dsimp only
  rw [hvalue]

/-- Encoded bytes are decoded, whatever follows. -/
theorem decodeBytes_flatMap_encodeByte (bytes rest : List UInt8) :
    decodeBytes (Utf8.encode (bytes.flatMap encodeByte) ++ rest) = bytes ++ decodeBytes rest := by
  induction bytes with
  | nil => rfl
  | cons b bytes ih =>
    rw [List.flatMap_cons, Utf8.encode_append, List.append_assoc, decodeBytes_encodeByte, ih,
      List.cons_append]

/-- A character of ASCII is a single byte, which is the percent sign only for that character. -/
theorem utf8EncodeChar_of_lt {c : Char} (hc : c.toNat < 128) (hne : c ≠ '%') :
    ∃ b, String.utf8EncodeChar c = [b] ∧ b ≠ sign := by
  refine ⟨UInt8.ofNat c.toNat, Utf8.utf8EncodeChar_ascii hc, ?_⟩
  intro heq
  have htoNat := congrArg UInt8.toNat heq
  have hofNat : (UInt8.ofNat c.toNat).toNat = c.toNat := by
    simp
    omega
  rw [hofNat] at htoNat
  exact hne (Char.ext (UInt32.toNat_inj.mp htoNat))

/-- A character that is written as it is belongs to ASCII. -/
theorem toNat_lt_of_isUnreserved {c : Char} (hc : isUnreserved c = true) : c.toNat < 128 := by
  simp only [isUnreserved, Text.isLetter, Text.isDigit, Bool.or_eq_true, Bool.and_eq_true,
    decide_eq_true_eq, beq_iff_eq, Char.le_def, UInt32.le_iff_toNat_le] at hc
  have hz : 'z'.val.toNat = 122 := rfl
  have hZ : 'Z'.val.toNat = 90 := rfl
  have hnine : '9'.val.toNat = 57 := rfl
  change c.val.toNat < 128
  rcases hc with ((((hc | hc) | hc) | hc) | hc) | hc
  · omega
  · omega
  all_goals
    subst hc
    decide

/-- A character that is written as it is is a single byte other than a percent sign. -/
theorem utf8EncodeChar_of_isUnreserved {c : Char} (hc : isUnreserved c = true) :
    ∃ b, String.utf8EncodeChar c = [b] ∧ b ≠ sign := by
  refine utf8EncodeChar_of_lt (toNat_lt_of_isUnreserved hc) ?_
  rintro rfl
  exact absurd hc (by decide)

/-- The bytes of an encoded text are decoded to those of the text. -/
theorem decodeBytes_encode (t : Text) : decodeBytes (Utf8.encode (encode t)) = Utf8.encode t := by
  induction t with
  | nil => rfl
  | cons c t ih =>
    have htext : Utf8.encode (c :: t) = String.utf8EncodeChar c ++ Utf8.encode t := rfl
    have hencode : encode (c :: t) = (if isUnreserved c then [c]
        else (String.utf8EncodeChar c).flatMap encodeByte) ++ encode t := rfl
    rw [hencode, Utf8.encode_append, htext, ← ih]
    split
    · rename_i hc
      obtain ⟨b, hb, hne⟩ := utf8EncodeChar_of_isUnreserved hc
      have hone : Utf8.encode [c] = [b] := by
        rw [← hb]
        exact List.flatMap_singleton ..
      rw [hone, hb]
      exact decodeBytes_cons hne _
    · exact decodeBytes_flatMap_encodeByte _ _

/-- An encoded text is decoded to the text. -/
@[simp] theorem decode?_encode (t : Text) : decode? (encode t) = some t := by
  unfold decode?
  rw [decodeBytes_encode, Utf8.decode?_encode]

/-- No byte of a character is a percent sign, the sign itself apart. -/
theorem sign_notMem_utf8EncodeChar {c : Char} (hc : c ≠ '%') : sign ∉ String.utf8EncodeChar c := by
  intro hmem
  by_cases hascii : c.toNat < 128
  · obtain ⟨b, hb, hne⟩ := utf8EncodeChar_of_lt hascii hc
    rw [hb] at hmem
    exact hne (List.mem_singleton.mp hmem).symm
  · exact absurd (Utf8.le_of_mem_utf8EncodeChar (Nat.le_of_not_lt hascii) hmem) (by decide)

/-- A text without percent signs is decoded to itself. -/
theorem decode?_of_notMem {t : Text} (ht : '%' ∉ t) : decode? t = some t := by
  have hbytes : ∀ bytes : List UInt8, sign ∉ bytes → decodeBytes bytes = bytes := by
    intro bytes hbytes
    induction bytes with
    | nil => rfl
    | cons b bytes ih =>
      rw [List.mem_cons, not_or] at hbytes
      obtain ⟨hb, hbytes⟩ := hbytes
      rw [decodeBytes_cons (Ne.symm hb), ih hbytes]
  unfold decode?
  rw [hbytes, Utf8.decode?_encode]
  intro hmem
  obtain ⟨c, hc, hmem⟩ := List.mem_flatMap.mp hmem
  refine sign_notMem_utf8EncodeChar ?_ hmem
  rintro rfl
  exact ht hc

/-- Hexadecimal digits are written as they are. -/
theorem isUnreserved_hexDigit {n : UInt8} (hn : n.toNat < 16) : isUnreserved (hexDigit n) = true := by
  have hall : ∀ k < 16, isUnreserved (hexDigit (UInt8.ofNat k)) = true := by decide
  have hofNat : UInt8.ofNat n.toNat = n := UInt8.ofNat_toNat
  rw [← hofNat]
  exact hall n.toNat hn

/-- An encoded byte is a percent sign and characters that are written as they are. -/
theorem mem_encodeByte {b : UInt8} {c : Char} (h : c ∈ encodeByte b) :
    c = '%' ∨ isUnreserved c = true := by
  have hlt : b.toNat < 256 := b.toNat_lt
  unfold encodeByte at h
  simp only [List.mem_cons, List.not_mem_nil, or_false] at h
  rcases h with rfl | rfl | rfl
  · exact .inl rfl
  · refine .inr (isUnreserved_hexDigit ?_)
    rw [UInt8.toNat_div]
    exact Nat.div_lt_of_lt_mul hlt
  · refine .inr (isUnreserved_hexDigit ?_)
    rw [UInt8.toNat_mod]
    exact Nat.mod_lt _ (by decide)

/-- An encoded text is made of percent signs and characters that are written as they are. -/
theorem mem_encode {t : Text} {c : Char} (h : c ∈ encode t) : c = '%' ∨ isUnreserved c = true := by
  obtain ⟨d, -, hd⟩ := List.mem_flatMap.mp h
  split at hd
  · rename_i hunreserved
    obtain rfl := List.mem_singleton.mp hd
    exact .inr hunreserved
  · obtain ⟨b, -, hb⟩ := List.mem_flatMap.mp hd
    exact mem_encodeByte hb

/-- An encoded text holds no slash. -/
theorem slash_notMem_encode (t : Text) : '/' ∉ encode t :=
  fun h => absurd (mem_encode h) (by decide)

/-- Only the empty text is encoded as the empty text. -/
theorem encode_eq_nil_iff {t : Text} : encode t = [] ↔ t = [] := by
  constructor
  · intro h
    have hdecode := decode?_encode t
    rw [h] at hdecode
    exact (Option.some.inj hdecode).symm
  · rintro rfl
    rfl

/-- Bytes are decoded to bytes. -/
theorem decodeBytes_ne_nil {bytes : List UInt8} (h : bytes ≠ []) : decodeBytes bytes ≠ [] := by
  fun_cases decodeBytes bytes with
  | case1 => exact List.cons_ne_nil _ _
  | case2 => exact List.cons_ne_nil _ _
  | case3 => exact List.cons_ne_nil _ _
  | case4 => exact h

/-- Only the empty text is decoded to the empty text. -/
theorem decode?_ne_some_nil {t : Text} (h : t ≠ []) : decode? t ≠ some [] :=
  Utf8.decode?_ne_some_nil (decodeBytes_ne_nil (Utf8.encode_ne_nil h))

end Percent

end PathRouting
