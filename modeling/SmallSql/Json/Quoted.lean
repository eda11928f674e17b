/-
  SmallSql.Json.Quoted
  ────────────────────────────────
  Strings in JSON texts.  `quoted` writes one: a quote, a backslash and the characters below U+0020
  are escaped, all others stand for themselves.  `readString` reads every written form, among them
  escapes that `quoted` never uses, and says why a text is none; `skipString` only looks for the end
  and therefore passes over escapes that stand for no character.
-/
import SmallSql.Json.Fault
import SmallSql.Text.Bytes

namespace SmallSql.Json

/-! ## §1. Writing. -/

/-- A digit of a hexadecimal number, in lower case. -/
def hexDigit (n : Nat) : Char :=
  if n < 10 then Char.ofNat ('0'.toNat + n) else Char.ofNat ('a'.toNat + (n - 10))

/-- The written form of a character inside a string. -/
def escaped (c : Char) : List Char :=
  if c = '"' then ['\\', '"']
  else if c = '\\' then ['\\', '\\']
  else if c = '\x08' then ['\\', 'b']
  else if c = '\x0c' then ['\\', 'f']
  else if c = '\n' then ['\\', 'n']
  else if c = '\r' then ['\\', 'r']
  else if c = '\t' then ['\\', 't']
  else if c.toNat < 0x20 then
    ['\\', 'u', '0', '0', hexDigit (c.toNat / 16), hexDigit (c.toNat % 16)]
  else [c]

/-- The written form of a string, with its quotes. -/
def quoted (cs : List Char) : List Char := '"' :: (cs.flatMap escaped ++ ['"'])

/-! ## §2. Escapes. -/

/-- The value of a hexadecimal digit, in either case. -/
def hexValue? (c : Char) : Option Nat :=
  if '0' ≤ c ∧ c ≤ '9' then some (c.toNat - '0'.toNat)
  else if 'a' ≤ c ∧ c ≤ 'f' then some (c.toNat - 'a'.toNat + 10)
  else if 'A' ≤ c ∧ c ≤ 'F' then some (c.toNat - 'A'.toNat + 10)
  else none

/-- The number that four hexadecimal digits write. -/
def hexNumber? (a b c d : Char) : Option Nat := do
  return (((← hexValue? a) * 16 + (← hexValue? b)) * 16 + (← hexValue? c)) * 16 + (← hexValue? d)

/-- Reads four hexadecimal digits.  The text ends too early only if less than four bytes are
left. -/
def readHex (cs : List Char) : Except Fault (Nat × List Char) :=
  let fault : Fault := if Text.byteSize (cs.take 4) < 4 then .unexpectedEnd else .malformed
  match cs with
  | a :: b :: c :: d :: rest => match hexNumber? a b c d with
    | some n => .ok (n, rest)
    | none => .error fault
  | _ => .error fault

theorem readHex_length {cs rest : List Char} {n : Nat} (h : readHex cs = .ok (n, rest)) :
    rest.length < cs.length := by
  unfold readHex at h
  simp only at h
  split at h
  · split at h
    · cases h; simp; omega
    · cases h
  · cases h

/-- The character that a one-letter escape stands for. -/
def simpleEscape? (c : Char) : Option Char :=
  if c = '"' then some '"'
  else if c = '\\' then some '\\'
  else if c = '/' then some '/'
  else if c = 'b' then some '\x08'
  else if c = 'f' then some '\x0c'
  else if c = 'n' then some '\n'
  else if c = 'r' then some '\r'
  else if c = 't' then some '\t'
  else none

/-- A number that is the first half of a pair. -/
def isLeading (n : Nat) : Bool := 0xD800 ≤ n && n ≤ 0xDBFF

/-- A number that is the second half of a pair. -/
def isTrailing (n : Nat) : Bool := 0xDC00 ≤ n && n ≤ 0xDFFF

/-- The second half of a pair: another escaped number. -/
def readTrailing : List Char → Except Fault (Nat × List Char)
  | [] => .error .unexpectedEnd
  | ['\\'] => .error .unexpectedEnd
  | '\\' :: 'u' :: rest => match readHex rest with
    | .error f => .error f
    | .ok (n, left) => if isTrailing n then .ok (n, left) else .error .malformed
  | _ => .error .malformed

theorem readTrailing_length {cs rest : List Char} {n : Nat} (h : readTrailing cs = .ok (n, rest)) :
    rest.length < cs.length := by
  unfold readTrailing at h
  split at h
  · cases h
  · cases h
  · split at h
    · cases h
    · next hr =>
      split at h
      · cases h
        have := readHex_length hr
        simp only [List.length_cons]
        omega
      · cases h
  · cases h

/-- The character of an escaped number, which may be the first half of a pair. -/
def readUnicode (cs : List Char) : Except Fault (Char × List Char) :=
  match readHex cs with
  | .error f => .error f
  | .ok (n, rest) =>
    if isTrailing n then .error .malformed
    else if isLeading n then
      match readTrailing rest with
      | .error f => .error f
      | .ok (m, left) => .ok (Char.ofNat (0x10000 + (n - 0xD800) * 0x400 + (m - 0xDC00)), left)
    else .ok (Char.ofNat n, rest)

theorem readUnicode_length {cs rest : List Char} {c : Char} (h : readUnicode cs = .ok (c, rest)) :
    rest.length < cs.length := by
  unfold readUnicode at h
  split at h
  · cases h
  · next n left hr =>
    have h₁ := readHex_length hr
    split at h
    · cases h
    split at h
    · split at h
      · cases h
      · next ht =>
        have h₂ := readTrailing_length ht
        obtain ⟨_, rfl⟩ : _ ∧ _ = rest := by simpa only [Except.ok.injEq, Prod.mk.injEq] using h
        omega
    · obtain ⟨_, rfl⟩ : _ ∧ _ = rest := by simpa only [Except.ok.injEq, Prod.mk.injEq] using h
      exact h₁

/-- Reads an escape after its backslash. -/
def readEscape : List Char → Except Fault (Char × List Char)
  | [] => .error .unexpectedEnd
  | c :: rest => match simpleEscape? c with
    | some d => .ok (d, rest)
    | none => if c = 'u' then readUnicode rest else .error .malformed

theorem readEscape_length {cs rest : List Char} {c : Char} (h : readEscape cs = .ok (c, rest)) :
    rest.length < cs.length := by
  unfold readEscape at h
  split at h
  · cases h
  · split at h
    · cases h; simp
    · split at h
      · have := readUnicode_length h
        simp only [List.length_cons]
        omega
      · cases h

/-- Passes over an escape after its backslash, whatever its number stands for. -/
def skipEscape : List Char → Except Fault (List Char)
  | [] => .error .unexpectedEnd
  | c :: rest =>
    if (simpleEscape? c).isSome then .ok rest
    else if c = 'u' then match readHex rest with
      | .error f => .error f
      | .ok (_, left) => .ok left
    else .error .malformed

theorem skipEscape_length {cs rest : List Char} (h : skipEscape cs = .ok rest) :
    rest.length < cs.length := by
  unfold skipEscape at h
  split at h
  · cases h
  · split at h
    · cases h; simp
    · split at h
      · split at h
        · cases h
        · next hr =>
          cases h
          have := readHex_length hr
          simp only [List.length_cons]
          omega
      · cases h

/-! ## §3. Strings. -/

/-- Reads a string after its opening quote: its content, and the text behind its closing quote. -/
def readString (cs : List Char) : Except Fault (List Char × List Char) :=
  match cs with
  | [] => .error .unexpectedEnd
  | c :: rest =>
    if c = '"' then .ok ([], rest)
    else if c = '\\' then
      match _h : readEscape rest with
      | .error f => .error f
      | .ok (d, left) => match readString left with
        | .error f => .error f
        | .ok (content, behind) => .ok (d :: content, behind)
    else if c.toNat < 0x20 then .error .malformed
    else match readString rest with
      | .error f => .error f
      | .ok (content, behind) => .ok (c :: content, behind)
termination_by cs.length
decreasing_by
  · have := readEscape_length _h
    simp only [List.length_cons]
    omega
  · simp

theorem readString_length {cs content behind : List Char}
    (h : readString cs = .ok (content, behind)) : behind.length < cs.length := by
  fun_induction readString cs generalizing content behind with
  | case1 => cases h
  | case2 => cases h; simp
  | case3 => cases h
  | case4 => cases h
  | case5 rest d left he content' behind' hr _ ih =>
    cases h
    have h₁ := readEscape_length he
    have h₂ := ih hr
    simp only [List.length_cons]
    omega
  | case6 => cases h
  | case7 => cases h
  | case8 c rest _ _ _ content' behind' hr ih =>
    cases h
    have h₂ := ih hr
    simp only [List.length_cons]
    omega

/-- Looks for the end of a string: the text behind its closing quote. -/
def skipString (cs : List Char) : Except Fault (List Char) :=
  match cs with
  | [] => .error .unexpectedEnd
  | c :: rest =>
    if c = '"' then .ok rest
    else if c = '\\' then
      match _h : skipEscape rest with
      | .error f => .error f
      | .ok left => skipString left
    else if c.toNat < 0x20 then .error .malformed
    else skipString rest
termination_by cs.length
decreasing_by
  · have := skipEscape_length _h
    simp only [List.length_cons]
    omega
  · simp

theorem skipString_length {cs behind : List Char} (h : skipString cs = .ok behind) :
    behind.length < cs.length := by
  fun_induction skipString cs with
  | case1 => cases h
  | case2 => cases h; simp
  | case3 => cases h
  | case4 rest left he _ ih =>
    have h₁ := skipEscape_length he
    have h₂ := ih h
    simp only [List.length_cons]
    omega
  | case5 => cases h
  | case6 c rest _ _ _ ih =>
    have h₂ := ih h
    simp only [List.length_cons]
    omega

end SmallSql.Json
