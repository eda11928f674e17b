/-
  SmallSql.Proofs.Json.Quoted
  ────────────────────────────────
  A written string is read back: `readString` undoes `escaped` character by character, whatever the
  characters are, and stops at the closing quote.
-/
import SmallSql.Json.Quoted

namespace SmallSql.Json

/-! ## §1. Numbers of control characters. -/

theorem hexValue?_hexDigit : ∀ n < 16, hexValue? (hexDigit n) = some n := by decide

/-- The number of a control character is read back from its two digits. -/
theorem readHex_control {n : Nat} (h : n < 0x20) (rest : List Char) :
    readHex ('0' :: '0' :: hexDigit (n / 16) :: hexDigit (n % 16) :: rest) = .ok (n, rest) := by
  have hzero : hexValue? '0' = some 0 := by decide
  have hhigh := hexValue?_hexDigit (n / 16) (by omega)
  have hlow := hexValue?_hexDigit (n % 16) (by omega)
  have hn : ((0 * 16 + 0) * 16 + n / 16) * 16 + n % 16 = n := by omega
  have hnumber : hexNumber? '0' '0' (hexDigit (n / 16)) (hexDigit (n % 16)) = some n := by
    unfold hexNumber?
    rw [hzero, hhigh, hlow]
    exact congrArg some hn
  unfold readHex
  dsimp only
  rw [hnumber]

/-- A control character is no half of a pair. -/
theorem readUnicode_control {c : Char} (h : c.toNat < 0x20) (rest : List Char) :
    readUnicode ('0' :: '0' :: hexDigit (c.toNat / 16) :: hexDigit (c.toNat % 16) :: rest)
      = .ok (c, rest) := by
  have htrailing : isTrailing c.toNat = false := by
    unfold isTrailing
    simp only [Bool.and_eq_false_iff, decide_eq_false_iff_not]
    omega
  have hleading : isLeading c.toNat = false := by
    unfold isLeading
    simp only [Bool.and_eq_false_iff, decide_eq_false_iff_not]
    omega
  unfold readUnicode
  rw [readHex_control h]
  dsimp only
  rw [htrailing, hleading, Char.ofNat_toNat]
  rfl

/-! ## §2. Strings. -/

/-- Behind a backslash, an escape is read and then the rest of the string. -/
theorem readString_backslash {escape left content behind : List Char} {c : Char}
    (he : readEscape escape = .ok (c, left)) (h : readString left = .ok (content, behind)) :
    readString ('\\' :: escape) = .ok (c :: content, behind) := by
  rw [readString, if_neg (by decide), if_pos rfl]
  split
  · next hf =>
    rw [he] at hf
    cases hf
  · next d left' hd =>
    rw [he] at hd
    cases hd
    rw [h]

/-- An escape of one letter stands for its character. -/
theorem readString_simple {e c : Char} {rest content behind : List Char}
    (he : simpleEscape? e = some c) (h : readString rest = .ok (content, behind)) :
    readString ('\\' :: e :: rest) = .ok (c :: content, behind) := by
  apply readString_backslash _ h
  unfold readEscape
  dsimp only
  rw [he]

/-- The written form of a character is read as this character. -/
theorem readString_escaped (c : Char) {rest content behind : List Char}
    (h : readString rest = .ok (content, behind)) :
    readString (escaped c ++ rest) = .ok (c :: content, behind) := by
  unfold escaped
  by_cases h₁ : c = '"'
  · subst h₁
    exact readString_simple rfl h
  by_cases h₂ : c = '\\'
  · subst h₂
    exact readString_simple rfl h
  by_cases h₃ : c = '\x08'
  · subst h₃
    exact readString_simple rfl h
  by_cases h₄ : c = '\x0c'
  · subst h₄
    exact readString_simple rfl h
  by_cases h₅ : c = '\n'
  · subst h₅
    exact readString_simple rfl h
  by_cases h₆ : c = '\r'
  · subst h₆
    exact readString_simple rfl h
  by_cases h₇ : c = '\t'
  · subst h₇
    exact readString_simple rfl h
  rw [if_neg h₁, if_neg h₂, if_neg h₃, if_neg h₄, if_neg h₅, if_neg h₆, if_neg h₇]
  by_cases h₈ : c.toNat < 0x20
  · rw [if_pos h₈]
    apply readString_backslash _ h
    exact readUnicode_control h₈ rest
  · rw [if_neg h₈]
    show readString (c :: rest) = _
    rw [readString, if_neg h₁, if_neg h₂, if_neg h₈, h]

/-- **A written string is read back, and the text behind its closing quote is left.** -/
theorem readString_quoted (cs rest : List Char) :
    readString (cs.flatMap escaped ++ '"' :: rest) = .ok (cs, rest) := by
  induction cs with
  | nil =>
      show readString ('"' :: rest) = _
      rw [readString, if_pos rfl]
  | cons c cs ih =>
      rw [List.flatMap_cons, List.append_assoc]
      exact readString_escaped c ih

end SmallSql.Json
