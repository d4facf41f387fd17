import PathRouting.Proofs.Text.Percent
import PathRouting.Proofs.Unicode.CaseVariants

/-!
# The case of letters

Letters of ASCII in another case make no difference to what a text is decoded to but their own case.
They are single bytes that are part of no longer character, and a hexadecimal digit means the same in
both cases. So an encoded byte stays what it is, and a text can be decoded in all cases or in none.
-/

namespace PathRouting

/-- A text with its letters of ASCII in lower case. -/
def Text.lower (t : Text) : Text :=
  t.map Char.toLower

/-- A capital letter has its lower case 32 places on, and every other character is its own. -/
theorem toLower_cases (c : Char) :
    (65 ≤ c.toNat ∧ c.toNat ≤ 90 ∧ c.toLower.toNat = c.toNat + 32) ∨
      (¬(65 ≤ c.toNat ∧ c.toNat ≤ 90) ∧ c.toLower = c) := by
  have hupper : (c.val ≥ 'A'.val ∧ c.val ≤ 'Z'.val) ↔ 65 ≤ c.toNat ∧ c.toNat ≤ 90 := by
    rw [ge_iff_le, UInt32.le_iff_toNat_le, UInt32.le_iff_toNat_le]
    rfl
  unfold Char.toLower
  split
  · rename_i h
    obtain ⟨hlow, hhigh⟩ := hupper.mp h
    refine .inl ⟨hlow, hhigh, ?_⟩
    have hvalue : c.val.toNat ≤ 90 := hhigh
    change (c.val + 32).toNat = c.val.toNat + 32
    rw [UInt32.toNat_add]
    change (c.val.toNat + 32) % 2 ^ 32 = _
    omega
  · rename_i h
    exact .inr ⟨fun hbounds => h (hupper.mpr hbounds), rfl⟩

/-- A character that is no letter is the lower case of no other one. -/
theorem toLower_eq_iff {c d : Char} (hcapital : ¬(65 ≤ d.toNat ∧ d.toNat ≤ 90))
    (hsmall : ¬(97 ≤ d.toNat ∧ d.toNat ≤ 122)) : c.toLower = d ↔ c = d := by
  rcases toLower_cases c with ⟨hlow, hhigh, hlower⟩ | ⟨-, hlower⟩
  · constructor
    · rintro rfl
      omega
    · rintro rfl
      exact absurd ⟨hlow, hhigh⟩ hcapital
  · rw [hlower]

namespace Utf8

/-- A byte that is a capital letter as the small letter, and every other byte as it is. -/
def lowerByte (b : UInt8) : UInt8 :=
  if 0x41 ≤ b ∧ b ≤ 0x5A then b + 0x20 else b

/-- What holds of the bytes one by one holds of all of them. -/
theorem forall_byte {p : UInt8 → Prop} (h : ∀ n < 256, p (UInt8.ofNat n)) (b : UInt8) : p b := by
  have hb := h b.toNat b.toNat_lt
  rwa [UInt8.ofNat_toNat] at hb

/-- A byte beyond ASCII is no letter. -/
theorem lowerByte_of_le {b : UInt8} (h : 128 ≤ b.toNat) : lowerByte b = b := by
  unfold lowerByte
  rw [if_neg]
  rintro ⟨-, hhigh⟩
  have hbound : b.toNat ≤ 90 := UInt8.le_iff_toNat_le.mp hhigh
  omega

/-- A byte of ASCII becomes the lower case of its character, which is one of ASCII too. -/
theorem toNat_lowerByte {b : UInt8} (h : b.toNat < 128) :
    (lowerByte b).toNat = (Char.ofNat b.toNat).toLower.toNat ∧ (lowerByte b).toNat < 128 :=
  forall_byte (p := fun b => b.toNat < 128 →
    (lowerByte b).toNat = (Char.ofNat b.toNat).toLower.toNat ∧ (lowerByte b).toNat < 128)
    (by decide +kernel) b h

/-- The bytes of a character in lower case are its bytes in lower case. -/
theorem utf8EncodeChar_toLower (c : Char) :
    String.utf8EncodeChar c.toLower = (String.utf8EncodeChar c).map lowerByte := by
  by_cases hascii : c.toNat < 128
  · have hbyte : (UInt8.ofNat c.toNat).toNat = c.toNat := by
      simp
      omega
    obtain ⟨hlower, hlt⟩ := toNat_lowerByte (b := UInt8.ofNat c.toNat) (by rwa [hbyte])
    rw [hbyte, Char.ofNat_toNat] at hlower
    rw [hlower] at hlt
    rw [utf8EncodeChar_ascii hascii, utf8EncodeChar_ascii hlt, ← hlower, UInt8.ofNat_toNat]
    rfl
  · have hlarge : 128 ≤ c.toNat := Nat.le_of_not_lt hascii
    rcases toLower_cases c with ⟨-, hhigh, -⟩ | ⟨-, hlower⟩
    · omega
    · rw [hlower]
      refine ((List.map_congr_left fun b hb => ?_).trans (List.map_id _)).symm
      exact lowerByte_of_le (le_of_mem_utf8EncodeChar hlarge hb)

/-- The bytes of a text in lower case are its bytes in lower case. -/
theorem encode_lower (t : Text) : encode t.lower = (encode t).map lowerByte := by
  unfold encode Text.lower
  rw [List.flatMap_map, List.map_flatMap]
  exact List.flatMap_congr fun c _ => utf8EncodeChar_toLower c

/-- An unfinished character is none of ASCII, whatever follows. -/
structure Unfinished.Beyond (u : Unfinished) : Prop where
  /-- The next byte is none of ASCII. -/
  low : 128 ≤ u.low
  /-- The character is none of ASCII. -/
  bits : 128 ≤ (u.bits * 64 + (u.low - 128)) * 64 ^ u.further

/-- What a byte of ASCII starts is a character, and a byte that starts a longer one is none of ASCII. -/
theorem lead_cases (b : UInt8) :
    (b.toNat < 128 ∧ lead b = .char (Char.ofNat b.toNat)) ∨
      (128 ≤ b.toNat ∧ (lead b = .invalid ∨ ∃ u, lead b = .more u ∧ u.Beyond)) := by
  unfold lead
  dsimp only
  by_cases hascii : b.toNat < 0x80
  · rw [if_pos hascii]
    exact .inl ⟨hascii, rfl⟩
  · rw [if_neg hascii]
    refine .inr ⟨Nat.le_of_not_lt hascii, ?_⟩
    split
    · exact .inl rfl
    · split
      · exact .inr ⟨_, rfl, Nat.le_refl _, by dsimp only; omega⟩
      · split
        · refine .inr ⟨_, rfl, ?_, ?_⟩
          · dsimp only
            split <;> omega
          · dsimp only
            split <;> omega
        · split
          · refine .inr ⟨_, rfl, ?_, ?_⟩
            · dsimp only
              split <;> omega
            · dsimp only
              split <;> omega
          · exact .inl rfl

/-- A character that is read from more bytes than one is its own lower case. -/
theorem toLower_ofNat {n : Nat} (h : 128 ≤ n) : (Char.ofNat n).toLower = Char.ofNat n := by
  rcases toLower_cases (Char.ofNat n) with ⟨hlow, hhigh, -⟩ | ⟨-, hlower⟩
  · by_cases hvalid : n.isValidChar
    · rw [Unicode.toNat_ofNat_of_valid hvalid] at hhigh
      omega
    · rw [Char.ofNat, dif_neg hvalid]
      rfl
  · exact hlower

/-- A byte that cannot continue a character ends it, and is read on its own. -/
theorem decodeFrom_some_of_outside {u : Unfinished} {b : UInt8}
    (h : ¬(u.low ≤ b.toNat ∧ b.toNat ≤ u.high)) (rest : List UInt8) :
    decodeFrom (some u) (b :: rest) = none :: decodeFrom none (b :: rest) := by
  conv_lhs => rw [decodeFrom, if_neg h]
  rfl

/-- The characters of bytes in lower case are those of the bytes, in lower case. -/
theorem decodeFrom_lower {u : Option Unfinished} (hu : ∀ v ∈ u, v.Beyond) (bytes : List UInt8) :
    decodeFrom u (bytes.map lowerByte) = (decodeFrom u bytes).map (Option.map Char.toLower) := by
  induction bytes generalizing u with
  | nil => cases u <;> rfl
  | cons b rest ih =>
    have hnone := ih (u := none) (fun _ hv => absurd hv (by simp))
    have hfirst : decodeFrom none ((b :: rest).map lowerByte) =
        (decodeFrom none (b :: rest)).map (Option.map Char.toLower) := by
      rw [List.map_cons]
      rcases lead_cases b with ⟨hascii, hlead⟩ | ⟨hlarge, hlead | ⟨v, hlead, hv⟩⟩
      · obtain ⟨hlower, hlt⟩ := toNat_lowerByte hascii
        obtain ⟨-, hchar⟩ | ⟨hle, -⟩ := lead_cases (lowerByte b)
        · rw [hlower, Char.ofNat_toNat] at hchar
          rw [decodeFrom, decodeFrom, hchar, hlead, List.map_cons]
          exact congrArg _ hnone
        · omega
      · rw [lowerByte_of_le hlarge, decodeFrom, decodeFrom, hlead, List.map_cons]
        exact congrArg _ hnone
      · rw [lowerByte_of_le hlarge, decodeFrom, decodeFrom, hlead]
        exact ih fun w hw => by
          cases hw
          exact hv
    cases u with
    | none => exact hfirst
    | some u =>
      obtain ⟨hlow, hbits⟩ := hu u rfl
      by_cases hinside : u.low ≤ b.toNat ∧ b.toNat ≤ u.high
      · have hlarge : 128 ≤ b.toNat := hlow.trans hinside.1
        rw [List.map_cons, lowerByte_of_le hlarge, decodeFrom, decodeFrom, if_pos hinside,
          if_pos hinside]
        cases hfurther : u.further with
        | zero =>
          rw [hfurther, pow_zero] at hbits
          dsimp only
          rw [List.map_cons, hnone, Option.map_some, toLower_ofNat (by omega)]
        | succ further =>
          rw [hfurther] at hbits
          dsimp only
          refine ih fun w hw => ?_
          cases hw
          refine ⟨Nat.le_refl _, hbits.trans ?_⟩
          dsimp only
          rw [pow_succ', Nat.sub_self, Nat.add_zero, ← Nat.mul_assoc]
          exact Nat.mul_le_mul_right _ (Nat.mul_le_mul_right _ (by omega))
      · have houtside : ¬(u.low ≤ (lowerByte b).toNat ∧ (lowerByte b).toNat ≤ u.high) := by
          by_cases hascii : b.toNat < 128
          · have := (toNat_lowerByte hascii).2
            omega
          · rwa [lowerByte_of_le (Nat.le_of_not_lt hascii)]
        rw [List.map_cons, decodeFrom_some_of_outside houtside, decodeFrom_some_of_outside hinside,
          List.map_cons]
        exact congrArg _ hfirst

/-- The text of bytes in lower case is the text of the bytes in lower case. -/
theorem decode?_lower (bytes : List UInt8) :
    decode? (bytes.map lowerByte) = (decode? bytes).map Text.lower := by
  have hmap : ∀ cs : List (Option Char),
      (cs.map (Option.map Char.toLower)).mapM id = (cs.mapM id).map Text.lower := by
    intro cs
    induction cs with
    | nil => rfl
    | cons c cs ih =>
      rw [List.map_cons, List.mapM_cons, List.mapM_cons, ih]
      cases c with
      | none => rfl
      | some c => cases cs.mapM id <;> rfl
  unfold decode?
  rw [decodeFrom_lower (fun _ hv => absurd hv (by simp)), hmap]

end Utf8

namespace Percent

open Utf8 (lowerByte forall_byte)

/-- A hexadecimal digit has the same value in both cases. -/
theorem digit?_lowerByte (b : UInt8) : digit? (lowerByte b) = digit? b :=
  forall_byte (p := fun b => digit? (lowerByte b) = digit? b) (by decide +kernel) b

/-- A byte in lower case is in lower case. -/
theorem lowerByte_lowerByte (b : UInt8) : lowerByte (lowerByte b) = lowerByte b :=
  forall_byte (p := fun b => lowerByte (lowerByte b) = lowerByte b) (by decide +kernel) b

/-- A byte is a percent sign in lower case only if it is one. -/
theorem lowerByte_eq_sign_iff (b : UInt8) : lowerByte b = sign ↔ b = sign :=
  forall_byte (p := fun b => lowerByte b = sign ↔ b = sign) (by decide +kernel) b

/-- Bytes in lower case are decoded to the same bytes, up to their case. -/
theorem decodeBytes_lower (bytes : List UInt8) :
    (decodeBytes (bytes.map lowerByte)).map lowerByte = (decodeBytes bytes).map lowerByte := by
  fun_induction decodeBytes bytes with
  | case1 b c rest high low hlow hhigh ih =>
    have hdecode : decodeBytes ((sign :: b :: c :: rest).map lowerByte) =
        (high * 16 + low) :: decodeBytes (rest.map lowerByte) := by
      rw [List.map_cons, List.map_cons, List.map_cons, (lowerByte_eq_sign_iff sign).mpr rfl,
        decodeBytes, if_pos rfl, digit?_lowerByte, digit?_lowerByte, hlow, hhigh]
    rw [hdecode, List.map_cons, List.map_cons, ih]
  | case2 b c rest hnone ih =>
    have hdecode : decodeBytes ((sign :: b :: c :: rest).map lowerByte) =
        sign :: decodeBytes ((b :: c :: rest).map lowerByte) := by
      rw [List.map_cons, List.map_cons, List.map_cons, (lowerByte_eq_sign_iff sign).mpr rfl,
        decodeBytes, if_pos rfl, digit?_lowerByte, digit?_lowerByte]
      split
      · rename_i high low hhigh hlow
        exact absurd hlow (hnone high low hhigh)
      · rfl
    rw [hdecode]
    exact congrArg (lowerByte sign :: ·) ih
  | case3 a b c rest ha ih =>
    have hdecode : decodeBytes ((a :: b :: c :: rest).map lowerByte) =
        lowerByte a :: decodeBytes ((b :: c :: rest).map lowerByte) :=
      decodeBytes_cons (mt (lowerByte_eq_sign_iff a).mp ha) _
    rw [hdecode]
    change lowerByte (lowerByte a) :: _ = lowerByte a :: _
    rw [lowerByte_lowerByte]
    exact congrArg (lowerByte a :: ·) ih
  | case4 bytes hshort =>
    have hdecode : decodeBytes (bytes.map lowerByte) = bytes.map lowerByte := by
      obtain _ | ⟨a, _ | ⟨b, _ | ⟨c, rest⟩⟩⟩ := bytes
      · rfl
      · rfl
      · rfl
      · exact (hshort a b c rest rfl).elim
    rw [hdecode, List.map_map]
    exact List.map_congr_left fun b _ => lowerByte_lowerByte b

/-- A text in lower case is decoded to the same text, up to its case. -/
theorem decode?_lower (t : Text) : (decode? t.lower).map Text.lower = (decode? t).map Text.lower := by
  unfold decode?
  rw [← Utf8.decode?_lower, ← Utf8.decode?_lower, Utf8.encode_lower, decodeBytes_lower]

end Percent

end PathRouting
