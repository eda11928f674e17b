/-
  SmallSql.Token.Lexer
  ────────────────────────────────
  From text to tokens.  A text is cut into lexemes, each with the gap of white space and comments in
  front of it and with the exact characters it was read from, so nothing of the text is lost:

      lexemes cs = .ok (ls, tail)  →  the gaps and texts of ls, then tail, spell cs

  Each kind of token has its own reader; `readToken` picks the reader by the first character.
  `readToken_append` says that a reader splits its input, and that it takes at least one character.
-/
import SmallSql.Token
import SmallSql.Text.Blank
import SmallSql.Text.Numeric

namespace SmallSql

/-! ## §1. Gaps. -/

/-- Where in a gap the reader stands. -/
inductive GapState where
  /-- Between white space and comments. -/
  | outside
  /-- In a comment that ends with its line. -/
  | line
  /-- In a comment that ends with a star and a slash. -/
  | block

/-- Takes white space and comments off the text.  A line comment includes its line end, and a
comment that is never closed reaches to the end of the text. -/
def splitGap : GapState → List Char → List Char × List Char
  | _, [] => ([], [])
  | .line, c :: rest =>
    let (gap, left) := splitGap (if c = '\n' then .outside else .line) rest
    (c :: gap, left)
  | .block, '*' :: '/' :: rest =>
    let (gap, left) := splitGap .outside rest
    ('*' :: '/' :: gap, left)
  | .block, c :: rest =>
    let (gap, left) := splitGap .block rest
    (c :: gap, left)
  | .outside, '-' :: '-' :: rest =>
    let (gap, left) := splitGap .line rest
    ('-' :: '-' :: gap, left)
  | .outside, '/' :: '*' :: rest =>
    let (gap, left) := splitGap .block rest
    ('/' :: '*' :: gap, left)
  | .outside, c :: rest =>
    if Text.isBlank c then
      let (gap, left) := splitGap .outside rest
      (c :: gap, left)
    else ([], c :: rest)

/-- A gap and what follows it are the text. -/
theorem splitGap_append (state : GapState) (cs : List Char) :
    (splitGap state cs).1 ++ (splitGap state cs).2 = cs := by
  fun_induction splitGap state cs <;> simp_all

/-! ## §2. One reader for each kind of token. -/

/-- The characters that a token was read from, the token, and the rest of the text. -/
structure Cut where
  text : List Char
  token : Token
  rest : List Char

/-- Takes digits off the text, and one point on the way if a digit follows it. -/
def splitNumber (pointSeen : Bool) : List Char → List Char × List Char
  | [] => ([], [])
  | c :: rest =>
    if Text.isDigit c then
      let (digits, left) := splitNumber pointSeen rest
      (c :: digits, left)
    else if c = '.' && !pointSeen && (rest.head?.any Text.isDigit) then
      let (digits, left) := splitNumber true rest
      (c :: digits, left)
    else ([], c :: rest)

/-- The digits of a number and what follows them are the text. -/
theorem splitNumber_append (pointSeen : Bool) (cs : List Char) :
    (splitNumber pointSeen cs).1 ++ (splitNumber pointSeen cs).2 = cs := by
  fun_induction splitNumber pointSeen cs <;> simp_all

/-- The character that a backslash and `c` stand for inside a string. -/
def unescape (c : Char) : Char :=
  if c = 'n' then '\n' else if c = 't' then '\t' else if c = 'r' then '\r' else c

/-- The inside of a string: its content, the characters up to and with the closing quote, and the
rest; for a string that is never closed, the content alone. -/
inductive StringEnd where
  | closed (content text rest : List Char)
  | unclosed (content : List Char)

namespace StringEnd

/-- Puts a decoded character, written as `written`, in front. -/
def push (c : Char) (written : List Char) : StringEnd → StringEnd
  | closed content text rest => closed (c :: content) (written ++ text) rest
  | unclosed content => unclosed (c :: content)

theorem push_eq_closed {c : Char} {written content text rest : List Char} {e : StringEnd}
    (h : e.push c written = closed content text rest) :
    ∃ content' text', e = closed content' text' rest ∧ content = c :: content'
      ∧ text = written ++ text' := by
  cases e with
  | closed content' text' rest' => cases h; exact ⟨content', text', rfl, rfl, rfl⟩
  | unclosed => cases h

end StringEnd

/-- Reads a string after its opening quote.  A doubled quote stands for the quote, a backslash for
what `unescape` makes of the next character; a backslash that ends the text stands for nothing. -/
def readString (quote : Char) : List Char → StringEnd
  | [] => .unclosed []
  | [c] => if c = quote then .closed [] [c] []
    else if c = '\\' then .unclosed [] else .unclosed [c]
  | c :: d :: rest =>
    if c = quote then
      if d = quote then (readString quote rest).push quote [c, d] else .closed [] [c] (d :: rest)
    else if c = '\\' then (readString quote rest).push (unescape d) [c, d]
    else (readString quote (d :: rest)).push c [c]

theorem readString_append {quote : Char} {cs content text rest : List Char}
    (h : readString quote cs = .closed content text rest) : text ++ rest = cs := by
  fun_induction readString quote cs generalizing content text rest with
  | case1 => cases h
  | case2 => cases h; rfl
  | case3 => cases h
  | case4 => cases h
  | case5 _ ih =>
    obtain ⟨_, _, he, _, rfl⟩ := StringEnd.push_eq_closed h
    simp [ih he]
  | case6 => cases h; rfl
  | case7 _ _ _ ih =>
    obtain ⟨_, _, he, _, rfl⟩ := StringEnd.push_eq_closed h
    simp [ih he]
  | case8 _ _ _ _ _ ih =>
    obtain ⟨_, _, he, _, rfl⟩ := StringEnd.push_eq_closed h
    simp [ih he]

/-- The character that closes a quoted name. -/
def closingQuote (opening : Char) : Char := if opening = '[' then ']' else opening

/-- A character that goes on a word. -/
def isWordChar (c : Char) : Bool := Text.isAlphanumeric c || c = '_'

/-- A character that begins a word. -/
def isWordStart (c : Char) : Bool := Text.isAlphabetic c || c = '_'

/-- A character of the comparison operators. -/
def isOperatorChar (c : Char) : Bool := c = '=' || c = '<' || c = '>' || c = '!'

/-- The token that a word spells. -/
def wordToken (word : List Char) : Token :=
  match Keyword.ofWord? word with
  | some k => .keyword k
  | none => .identifier (String.ofList word)

/-- The token that a run of operator characters spells. -/
def operatorToken (run : List Char) : Token :=
  match Comparison.ofSymbol? (String.ofList run) with
  | some c => .comparison c
  | none => .operator (String.ofList run)

/-- The token of a character that stands for itself. -/
def punctuation (c : Char) : Token :=
  if c = '*' then .star
  else if c = ',' then .comma
  else if c = '(' then .leftParen
  else if c = ')' then .rightParen
  else if c = ';' then .semicolon
  else .symbol c

/-- Reads the token that begins with `c`, the text going on with `rest`. -/
def readToken (c : Char) (rest : List Char) : Except SyntaxFault Cut :=
  if Text.isDigit c then
    let (digits, left) := splitNumber false rest
    .ok ⟨c :: digits, .number (String.ofList (c :: digits)), left⟩
  else if c = '\'' || c = '"' then
    match readString c rest with
    | .closed content text left => .ok ⟨c :: text, .string (String.ofList content), left⟩
    | .unclosed content => .error (.unterminatedString c content)
  else if c = '\x60' || c = '[' then
    let name := rest.takeWhile (fun d => d != closingQuote c)
    match rest.dropWhile (fun d => d != closingQuote c) with
    | d :: left => .ok ⟨c :: name ++ [d], .identifier (String.ofList name), left⟩
    | [] => .error (.unterminatedName c name)
  else if isWordStart c then
    let word := c :: rest.takeWhile isWordChar
    .ok ⟨word, wordToken word, rest.dropWhile isWordChar⟩
  else if isOperatorChar c then
    let run := c :: rest.takeWhile isOperatorChar
    .ok ⟨run, operatorToken run, rest.dropWhile isOperatorChar⟩
  else .ok ⟨[c], punctuation c, rest⟩

/-- A token's text and the rest are the text it was read from, and the token's text is not empty. -/
theorem readToken_append {c : Char} {rest : List Char} {cut : Cut}
    (h : readToken c rest = .ok cut) : cut.text ++ cut.rest = c :: rest ∧ cut.text ≠ [] := by
  unfold readToken at h
  split at h
  · cases h
    simp [splitNumber_append]
  split at h
  · split at h
    · next hr => cases h; simp [readString_append hr]
    · cases h
  split at h
  · simp only at h
    split at h
    · next d left hd =>
      cases h
      refine ⟨?_, by simp⟩
      have := List.takeWhile_append_dropWhile (p := fun d => d != closingQuote c) (l := rest)
      rw [hd] at this
      simp [this]
    · cases h
  split at h
  · cases h; simp
  split at h
  · cases h; simp
  · cases h; simp

/-! ## §3. Lexemes. -/

/-- A token with the gap in front of it and the characters it was read from. -/
structure Lexeme where
  gap : List Char
  text : List Char
  token : Token
deriving DecidableEq, Repr

/-- The characters of a lexeme, its gap included. -/
def Lexeme.written (l : Lexeme) : List Char := l.gap ++ l.text

/-- Takes one lexeme off the text, if more than a gap is left. -/
def nextLexeme (cs : List Char) : Except SyntaxFault (Option (Lexeme × List Char)) :=
  match splitGap .outside cs with
  | (_, []) => .ok none
  | (gap, c :: rest) =>
    match readToken c rest with
    | .ok cut => .ok (some (⟨gap, cut.text, cut.token⟩, cut.rest))
    | .error fault => .error fault

theorem nextLexeme_append {cs rest : List Char} {l : Lexeme}
    (h : nextLexeme cs = .ok (some (l, rest))) : l.written ++ rest = cs ∧ l.text ≠ [] := by
  unfold nextLexeme at h
  have hg := splitGap_append .outside cs
  split at h
  · cases h
  · next gap c left hs =>
    rw [hs] at hg
    split at h
    · next cut hc =>
      cases h
      have ⟨h₁, h₂⟩ := readToken_append hc
      refine ⟨?_, h₂⟩
      simp only [Lexeme.written, List.append_assoc, h₁]
      exact hg
    · cases h

/-- A lexeme is taken from a text that is longer than what it leaves. -/
theorem nextLexeme_length {cs rest : List Char} {l : Lexeme}
    (h : nextLexeme cs = .ok (some (l, rest))) : rest.length < cs.length := by
  have ⟨h₁, h₂⟩ := nextLexeme_append h
  have := List.length_pos_iff.2 h₂
  rw [← h₁, List.length_append, Lexeme.written, List.length_append]
  omega

/-- All lexemes of a text, and the gap behind the last. -/
def lexemes (cs : List Char) : Except SyntaxFault (List Lexeme × List Char) :=
  match _h : nextLexeme cs with
  | .error fault => .error fault
  | .ok none => .ok ([], cs)
  | .ok (some (l, rest)) =>
    match lexemes rest with
    | .error fault => .error fault
    | .ok (ls, tail) => .ok (l :: ls, tail)
termination_by cs.length
decreasing_by exact nextLexeme_length _h

/-- The gaps and texts of the lexemes, and the gap behind them, are the text. -/
theorem lexemes_append {cs tail : List Char} {ls : List Lexeme}
    (h : lexemes cs = .ok (ls, tail)) : ls.flatMap Lexeme.written ++ tail = cs := by
  fun_induction lexemes cs generalizing ls tail with
  | case1 => cases h
  | case2 => cases h; simp
  | case3 => cases h
  | case4 cs l rest hn ls' tail' hr ih =>
    cases h
    rw [List.flatMap_cons, List.append_assoc, ih hr]
    exact (nextLexeme_append hn).1

/-- The end of a text read lexeme by lexeme: an error leaves nothing to read. -/
def stepLexeme (cs : List Char) : Except SyntaxFault (Option Lexeme) × List Char :=
  match nextLexeme cs with
  | .ok (some (l, rest)) => (.ok (some l), rest)
  | .ok none => (.ok none, [])
  | .error fault => (.error fault, [])

/-! ## §4. Spans. -/

/-- The characters `start, …, stop - 1` of a text. -/
structure Span where
  start : Nat
  stop : Nat
deriving DecidableEq, Repr

/-- Where the texts of consecutive lexemes stand, the first gap beginning at `offset`. -/
def spansFrom (offset : Nat) : List Lexeme → List Span
  | [] => []
  | l :: ls =>
    let start := offset + l.gap.length
    let stop := start + l.text.length
    ⟨start, stop⟩ :: spansFrom stop ls

/-- The characters that consecutive lexemes cover, from the first token to the last: the gap in
front of the first is left out. -/
def sourceOf : List Lexeme → List Char
  | [] => []
  | l :: ls => l.text ++ ls.flatMap Lexeme.written

end SmallSql
