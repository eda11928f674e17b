/-
  SmallSql.Json.Number
  ────────────────────────────────
  Numbers in JSON texts.  No stored value is a number, so only their extent and their form matter:
  where a number ends, whether it is written correctly, and whether it is within the range of a
  double, beyond which a reader refuses it.
-/
import SmallSql.Json.Magnitude

namespace SmallSql.Json

open Text (isDigit)

/-- What became of a number. -/
inductive NumberForm where
  | whole
  /-- Correctly written, but beyond the doubles. -/
  | huge
  /-- The text ends where a digit is missing. -/
  | cut
  /-- Another character stands where a digit is missing, or a zero is in front. -/
  | wrong
deriving DecidableEq, Repr

/-- The form of a number whose next digit is missing in front of `rest`. -/
def missingDigit (rest : List Char) : NumberForm := if rest.isEmpty then .cut else .wrong

/-- The digits at the front of a text, of which there has to be one. -/
def readDigits (cs : List Char) : Except NumberForm (List Char × List Char) :=
  match cs.takeWhile isDigit with
  | [] => .error (missingDigit cs)
  | digits => .ok (digits, cs.dropWhile isDigit)

theorem readDigits_length {cs digits rest : List Char} (h : readDigits cs = .ok (digits, rest)) :
    rest.length < cs.length := by
  unfold readDigits at h
  split at h
  · cases h
  · next hd =>
    cases h
    have hl := congrArg List.length (List.takeWhile_append_dropWhile (p := isDigit) (l := cs))
    have hp := List.length_pos_iff.2 hd
    rw [List.length_append] at hl
    omega

/-- The digits behind a point, if there is a point. -/
def readFraction : List Char → Except NumberForm (List Char × List Char)
  | '.' :: rest => readDigits rest
  | rest => .ok ([], rest)

theorem readFraction_length {cs digits rest : List Char}
    (h : readFraction cs = .ok (digits, rest)) : rest.length ≤ cs.length := by
  unfold readFraction at h
  split at h
  · exact Nat.le_succ_of_le (Nat.le_of_lt (readDigits_length h))
  · cases h; exact Nat.le_refl _

/-- The exponent, if there is one. -/
def readExponent : List Char → Except NumberForm (Int × List Char)
  | c :: rest =>
    if c = 'e' || c = 'E' then
      match readDigits (Cell.splitSign rest).2 with
      | .error form => .error form
      | .ok (digits, left) =>
        let magnitude : Int := Cell.digitsValue digits
        .ok (if (Cell.splitSign rest).1 then -magnitude else magnitude, left)
    else .ok (0, c :: rest)
  | [] => .ok (0, [])

theorem readExponent_length {cs rest : List Char} {n : Int} (h : readExponent cs = .ok (n, rest)) :
    rest.length ≤ cs.length := by
  unfold readExponent at h
  split at h
  · next c left =>
    split at h
    · split at h
      · cases h
      · next hd =>
        cases h
        have h₁ := readDigits_length hd
        have h₂ := Cell.splitSign_length left
        simp only [List.length_cons]
        omega
    · cases h; exact Nat.le_refl _
  · cases h; exact Nat.le_refl _

/-- Reads an unsigned number; what follows a number that is not read to its end is lost. -/
def readUnsigned (cs : List Char) : NumberForm × List Char :=
  match readDigits cs with
  | .error form => (form, [])
  | .ok (digits, afterDigits) =>
    if digits.head? = some '0' && digits.length != 1 then (.wrong, [])
    else match readFraction afterDigits with
      | .error form => (form, [])
      | .ok (fraction, afterFraction) => match readExponent afterFraction with
        | .error form => (form, [])
        | .ok (exponent, rest) =>
          let magnitude := Magnitude.ofDigits digits fraction exponent
          (if magnitude.isHuge then .huge else .whole, rest)

theorem readUnsigned_length (c : Char) (cs : List Char) :
    (readUnsigned (c :: cs)).2.length ≤ cs.length := by
  unfold readUnsigned
  split
  · exact Nat.zero_le _
  · next hd =>
    have h₁ := readDigits_length hd
    simp only [List.length_cons] at h₁
    split
    · exact Nat.zero_le _
    split
    · exact Nat.zero_le _
    · next hf =>
      have h₂ := readFraction_length hf
      split
      · exact Nat.zero_le _
      · next he =>
        have h₃ := readExponent_length he
        dsimp only
        omega

/-- Reads the number that begins with `c`, a minus or a digit, the text going on with `rest`. -/
def readNumber (c : Char) (rest : List Char) : NumberForm × List Char :=
  if c = '-' then readUnsigned rest else readUnsigned (c :: rest)

theorem readNumber_length (c : Char) (rest : List Char) :
    (readNumber c rest).2.length ≤ rest.length := by
  unfold readNumber
  split
  · cases rest with
    | nil => simp [readUnsigned, readDigits, missingDigit]
    | cons d rest => exact Nat.le_succ_of_le (readUnsigned_length d rest)
  · exact readUnsigned_length c rest

end SmallSql.Json
