import Mathlib.Data.List.Basic
import Mathlib.Tactic.Common
import PathRouting.Json.Token

/-!
# Written values as tokens

A text in quotes is read as the text, whatever characters it has. A value that is written without
numbers and truth values is cut into the tokens of the value.
-/

namespace PathRouting.Json

namespace Token

/-- A control character is written with four digits that are read as its code point. -/
theorem exists_escapeControl_eq {c : Char} (hc : c.toNat < 0x20) :
    ∃ first second third fourth, escapeControl c = ['\\', 'u', first, second, third, fourth] ∧
      unit? first second third fourth = some c.toNat := by
  have hall : ∀ n : Fin 0x20, escapeControl (Char.ofNat n) =
        ['\\', 'u', '0', '0', if n.val < 0x10 then '0' else '1', Nat.digitChar (n % 0x10)] ∧
      unit? '0' '0' (if n.val < 0x10 then '0' else '1') (Nat.digitChar (n % 0x10)) = some n.val := by
    decide
  obtain ⟨hescape, hunit⟩ := hall ⟨c.toNat, hc⟩
  rw [Char.ofNat_toNat] at hescape
  exact ⟨_, _, _, _, hescape, hunit⟩

/-- The code point of a character is that of a character. -/
theorem charOfCode?_toNat (c : Char) : Text.charOfCode? c.toNat = some c :=
  dif_pos c.valid

/-- Four digits that are not the first half of a character are read as a whole one. -/
theorem readStringFrom_unit {first second third fourth : Char} {n : Nat}
    (hunit : unit? first second third fourth = some n) (hhigh : isHigh n = false) (rest : Text) :
    readStringFrom none ('\\' :: 'u' :: first :: second :: third :: fourth :: rest) =
      before (Text.charOfCode? n) (readStringFrom none rest) := by
  simp [readStringFrom.eq_def none ('\\' :: _), hunit, hhigh]

/-- A character that has no meaning within quotes is read as it is. -/
theorem readStringFrom_cons {c : Char} (hquote : c ≠ '"') (hbackslash : c ≠ '\\')
    (hcontrol : ¬c.toNat < 0x20) (rest : Text) :
    readStringFrom none (c :: rest) = before (some c) (readStringFrom none rest) := by
  rw [readStringFrom]
  · rw [if_neg (not_or.mpr ⟨hcontrol, hbackslash⟩)]
  · exact fun _ _ _ _ _ h _ => hbackslash h
  · exact hquote
  · exact fun _ _ h _ => hbackslash h

/-- A character is read as it is written within quotes. -/
theorem readStringFrom_encodeChar (c : Char) (rest : Text) :
    readStringFrom none (encodeChar c ++ rest) = before (some c) (readStringFrom none rest) := by
  unfold encodeChar
  split
  · rename_i h
    rcases h with rfl | rfl <;> rfl
  rename_i hmeaning
  rw [not_or] at hmeaning
  -- The characters with an escape of their own come before the other control characters.
  repeat
    split
    · subst_vars
      rfl
  split
  · rename_i hcontrol
    obtain ⟨first, second, third, fourth, hescape, hunit⟩ := exists_escapeControl_eq hcontrol
    have hhigh : isHigh c.toNat = false := by
      unfold isHigh
      rw [Bool.and_eq_false_iff, decide_eq_false_iff_not]
      omega
    rw [hescape]
    exact (readStringFrom_unit hunit hhigh rest).trans (by rw [charOfCode?_toNat])
  · rename_i hcontrol
    exact readStringFrom_cons hmeaning.1 hmeaning.2 hcontrol rest

/-- A text in quotes is read as the text. -/
theorem readString_encode (t tail : Text) :
    readString (t.flatMap encodeChar ++ '"' :: tail) = some (t, tail) := by
  unfold readString
  induction t with
  | nil => rfl
  | cons c t ih =>
    rw [List.flatMap_cons, List.append_assoc, readStringFrom_encodeChar, ih]
    rfl

/-- A text is cut into tokens, whatever follows it. -/
structure Spells (t : Text) (tokens : List Token) : Prop where
  /-- Each token takes at least one character. -/
  length_le : tokens.length ≤ t.length
  /-- The tokens come first, and then those of what follows. -/
  scanFrom_append : ∀ fuel tail,
    scanFrom (fuel + tokens.length) (t ++ tail) = tokens ++ scanFrom fuel tail

namespace Spells

variable {t u : Text} {tokens more : List Token}

/-- The empty text has no tokens. -/
theorem nil : Spells [] [] :=
  ⟨Nat.le_refl 0, fun _ _ => rfl⟩

/-- Texts one after another have the tokens of the texts. -/
theorem append (h : Spells t tokens) (hu : Spells u more) : Spells (t ++ u) (tokens ++ more) := by
  refine ⟨?_, fun fuel tail => ?_⟩
  · rw [List.length_append, List.length_append]
    exact Nat.add_le_add h.length_le hu.length_le
  · rw [List.length_append, Nat.add_comm tokens.length, ← Nat.add_assoc, List.append_assoc,
      h.scanFrom_append, hu.scanFrom_append, List.append_assoc]

/-- A text that is read as one token. -/
theorem of_readAt {c : Char} {token : Token} (hblank : isBlank c = false)
    (hread : ∀ tail, readAt c (t ++ tail) = some (token, tail)) : Spells (c :: t) [token] := by
  refine ⟨Nat.succ_le_succ (Nat.zero_le _), fun fuel tail => ?_⟩
  rw [List.cons_append, List.length_singleton, scanFrom,
    List.dropWhile_cons_of_neg (ne_true_of_eq_false hblank)]
  dsimp only
  rw [hread]
  rfl

/-- A text is cut into the tokens that it spells. -/
theorem scan_eq (h : Spells t tokens) : scan t = tokens := by
  have hle : tokens.length ≤ t.length + 1 := Nat.le_succ_of_le h.length_le
  obtain ⟨fuel, hfuel⟩ := Nat.exists_eq_add_of_le' hle
  have hscan := h.scanFrom_append fuel []
  rw [List.append_nil] at hscan
  unfold scan
  rw [hfuel, hscan]
  cases fuel <;> exact List.append_nil _

end Spells

end Token

open Token

/-- A text in quotes is one token. -/
theorem spells_quote (t : Text) : Spells (quote t) [.string t] := by
  refine .of_readAt rfl fun tail => ?_
  change (readString (t.flatMap encodeChar ++ ['"'] ++ tail)).map _ = _
  rw [List.append_assoc, List.singleton_append, readString_encode]
  rfl

/-- The absence of a value is one token. -/
theorem spells_null : Spells null.render null.tokens :=
  .of_readAt rfl fun _ => rfl

/-- A text is one token. -/
theorem spells_string (t : Text) : Spells (string t).render (string t).tokens :=
  spells_quote t

/-- The entries of an object are cut into their tokens if their values are. -/
theorem spells_renderEntries {entries : List (Text × Json)}
    (h : ∀ p ∈ entries, Spells p.2.render p.2.tokens) (isFirst : Bool) :
    Spells (renderEntries isFirst entries) (entryTokens isFirst entries) := by
  induction entries generalizing isFirst with
  | nil =>
    rw [renderEntries, entryTokens]
    exact .nil
  | cons p entries ih =>
    obtain ⟨name, v⟩ := p
    rw [List.forall_mem_cons] at h
    have hcomma : Spells (if isFirst then [] else [','])
        (if isFirst then [] else [Token.comma]) := by
      cases isFirst with
      | true => exact .nil
      | false => exact .of_readAt rfl fun _ => rfl
    have hcolon : Spells [':'] [Token.colon] := .of_readAt rfl fun _ => rfl
    rw [renderEntries, entryTokens]
    have hentry := hcomma.append ((spells_quote name).append (hcolon.append h.1))
    have hall := hentry.append (ih h.2 false)
    simpa only [List.append_assoc, List.cons_append, List.nil_append] using hall

/-- An object is cut into its tokens if its values are. -/
theorem spells_object {entries : List (Text × Json)}
    (h : ∀ p ∈ entries, Spells p.2.render p.2.tokens) :
    Spells (object entries).render (object entries).tokens := by
  have hopen : Spells ['\x7b'] [Token.openBrace] := .of_readAt rfl fun _ => rfl
  have hclose : Spells ['\x7d'] [Token.closeBrace] := .of_readAt rfl fun _ => rfl
  rw [render, tokens]
  exact (hopen.append (spells_renderEntries h true)).append hclose

/-- The object of a dictionary is cut into its tokens if the values are. -/
theorem spells_ofDict {α : Type} {f : α → Json} (h : ∀ a, Spells (f a).render (f a).tokens)
    (d : Dict α) : Spells (ofDict f d).render (ofDict f d).tokens := by
  refine spells_object fun p hp => ?_
  obtain ⟨⟨key, a⟩, -, rfl⟩ := List.mem_map.mp hp
  exact h a

end PathRouting.Json
