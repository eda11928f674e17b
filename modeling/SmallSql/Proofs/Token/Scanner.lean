/-
  SmallSql.Proofs.Token.Scanner
  ────────────────────────────────
  The lexer as a position that moves along a text.  A scanner moves on by one character at a time,
  and nothing stops it at the end of the text:

      0 ── ── ── position ── ── ── n          advance :  position + 1

  What keeps it inside is that its readers look before they move.  A reader that fails leaves the
  scanner where it stands.  `next_between` says that call by call the scanner gives what
  `nextLexeme` takes off the text, and where it stands then.
-/
import SmallSql.Proofs.Token.Lossless

namespace SmallSql

/-! ## §1. Positions in a text. -/

/-- A text and a position, which may lie behind its end. -/
structure Scanner where
  text : List Char
  position : Nat
deriving DecidableEq, Repr

namespace Scanner

/-- The character at the position. -/
def current? (s : Scanner) : Option Char := s.text[s.position]?

/-- The character behind the one at the position. -/
def peek? (s : Scanner) : Option Char := s.text[s.position + 1]?

/-- Moves on by one character, also where there is none. -/
def advance (s : Scanner) : Scanner := { s with position := s.position + 1 }

/-- How many characters there are from the position on. -/
def remaining (s : Scanner) : Nat := s.text.length - s.position

theorem remaining_advance_le (s : Scanner) : s.advance.remaining ≤ s.remaining := by
  unfold remaining advance
  dsimp only
  omega

theorem remaining_advance_lt {s : Scanner} {c : Char} (h : s.current? = some c) :
    s.advance.remaining < s.remaining := by
  have hlt : s.position < s.text.length := (List.getElem?_eq_some_iff.1 h).1
  unfold remaining advance
  dsimp only
  omega

/-! ## §2. Loops. -/

/-- Reads characters as long as `p` holds of them. -/
def scanWhile (p : Char → Bool) (s : Scanner) : List Char × Scanner :=
  match _h : s.current? with
  | none => ([], s)
  | some c =>
    if p c then
      let (taken, s') := scanWhile p s.advance
      (c :: taken, s')
    else ([], s)
termination_by s.remaining
decreasing_by exact remaining_advance_lt _h

/-- Passes over the rest of a line and its end. -/
def skipLine (s : Scanner) : Scanner :=
  match _h : s.current? with
  | none => s
  | some c => if c = '\n' then s.advance else skipLine s.advance
termination_by s.remaining
decreasing_by exact remaining_advance_lt _h

/-- Passes over the rest of a block comment, up to the mark that closes it or to the end. -/
def skipBlock (s : Scanner) : Scanner :=
  match _h : s.current? with
  | none => s
  | some c => if c = '*' ∧ s.peek? = some '/' then s.advance.advance else skipBlock s.advance
termination_by s.remaining
decreasing_by exact remaining_advance_lt _h

theorem remaining_scanWhile_le (p : Char → Bool) (s : Scanner) :
    (scanWhile p s).2.remaining ≤ s.remaining := by
  fun_induction scanWhile p s with
  | case1 => exact Nat.le_refl _
  | case2 s c _ _ _ s' hrest ih =>
      have hstep := s.remaining_advance_le
      rw [hrest] at ih
      exact Nat.le_trans ih hstep
  | case3 => exact Nat.le_refl _

theorem remaining_skipLine_le (s : Scanner) : (skipLine s).remaining ≤ s.remaining := by
  fun_induction skipLine s with
  | case1 => exact Nat.le_refl _
  | case2 s => exact s.remaining_advance_le
  | case3 s _ _ _ ih => exact Nat.le_trans ih s.remaining_advance_le

theorem remaining_skipBlock_le (s : Scanner) : (skipBlock s).remaining ≤ s.remaining := by
  fun_induction skipBlock s with
  | case1 => exact Nat.le_refl _
  | case2 s => exact Nat.le_trans s.advance.remaining_advance_le s.remaining_advance_le
  | case3 s _ _ _ ih => exact Nat.le_trans ih s.remaining_advance_le

/-- Where there is a character, the line does not end before it. -/
theorem remaining_skipLine_lt {s : Scanner} {c : Char} (h : s.current? = some c) :
    (skipLine s).remaining < s.remaining := by
  have hstep := remaining_advance_lt h
  rw [skipLine]
  split
  · next hnone =>
    rw [hnone] at h
    cases h
  · split
    · exact hstep
    · exact Nat.lt_of_le_of_lt (remaining_skipLine_le _) hstep

/-- Passes over white space and comments. -/
def skipGap (s : Scanner) : Scanner :=
  let s' := (scanWhile Text.isBlank s).2
  if _h : s'.current? = some '-' ∧ s'.peek? = some '-' then skipGap (skipLine s')
  else if _h : s'.current? = some '/' ∧ s'.peek? = some '*' then
    -- both characters of the mark were seen
    skipGap (skipBlock s'.advance.advance)
  else s'
termination_by s.remaining
decreasing_by
  · exact Nat.lt_of_lt_of_le (remaining_skipLine_lt _h.1) (remaining_scanWhile_le Text.isBlank s)
  · refine Nat.lt_of_lt_of_le ?_ (remaining_scanWhile_le Text.isBlank s)
    exact Nat.lt_of_le_of_lt
      (Nat.le_trans (remaining_skipBlock_le _) (remaining_advance_le _)) (remaining_advance_lt _h.1)

/-- Reads digits, and one point on the way if a digit follows it. -/
def scanNumber (pointSeen : Bool) (s : Scanner) : List Char × Scanner :=
  match _h : s.current? with
  | none => ([], s)
  | some c =>
    if Text.isDigit c then
      let (digits, s') := scanNumber pointSeen s.advance
      (c :: digits, s')
    else if c = '.' && !pointSeen && s.peek?.any Text.isDigit then
      let (digits, s') := scanNumber true s.advance
      (c :: digits, s')
    else ([], s)
termination_by s.remaining
decreasing_by all_goals exact remaining_advance_lt _h

/-- Reads a string behind its opening quote, `content` being what was read of it so far. -/
def scanString (quote : Char) (content : List Char) (s : Scanner) :
    Except SyntaxFault Token × Scanner :=
  match _h : s.current? with
  | none => (.error (.unterminatedString quote content), s)
  | some c =>
    if c = quote then
      if s.peek? = some quote then scanString quote (content ++ [quote]) s.advance.advance
      else (.ok (.string (String.ofList content)), s.advance)
    else if c = '\\' then
      match s.advance.current? with
      | some escaped => scanString quote (content ++ [unescape escaped]) s.advance.advance
      | none => scanString quote content s.advance
    else scanString quote (content ++ [c]) s.advance
termination_by s.remaining
decreasing_by
  · exact Nat.lt_of_le_of_lt s.advance.remaining_advance_le (remaining_advance_lt _h)
  · exact Nat.lt_of_le_of_lt s.advance.remaining_advance_le (remaining_advance_lt _h)
  · exact remaining_advance_lt _h
  · exact remaining_advance_lt _h

/-! ## §3. Tokens. -/

/-- Reads a quoted name behind its opening quote. -/
def scanName (opening : Char) (s : Scanner) : Except SyntaxFault Token × Scanner :=
  let (name, s') := scanWhile (fun c => c != closingQuote opening) s
  match s'.current? with
  | some _ => (.ok (.identifier (String.ofList name)), s'.advance)
  | none => (.error (.unterminatedName opening name), s')

/-- Reads the token at the position; none at the end of the text. -/
def scanToken (s : Scanner) : Except SyntaxFault (Option Token) × Scanner :=
  match s.current? with
  | none => (.ok none, s)
  | some c =>
    if Text.isDigit c then
      let (digits, s') := scanNumber false s
      (.ok (some (.number (String.ofList digits))), s')
    else if c = '\'' || c = '"' then
      let (token, s') := scanString c [] s.advance
      (token.map some, s')
    else if c = '\x60' || c = '[' then
      let (token, s') := scanName c s.advance
      (token.map some, s')
    else if isWordStart c then
      let (word, s') := scanWhile isWordChar s
      (.ok (some (wordToken word)), s')
    else if isOperatorChar c then
      let (run, s') := scanWhile isOperatorChar s
      (.ok (some (operatorToken run)), s')
    else (.ok (some (punctuation c)), s.advance)

/-- One call: the next token, or the end of the text, with its span. -/
def next (s : Scanner) : Except SyntaxFault (Option Token × Span) × Scanner :=
  let start := s.skipGap
  let (token, stop) := start.scanToken
  (token.map fun t => (t, ⟨start.position, stop.position⟩), stop)

/-! ## §4. What the loops read. -/

/-- Stands behind `before` and in front of `cs`. -/
def between (before cs : List Char) : Scanner := ⟨before ++ cs, before.length⟩

@[simp] theorem position_between (before cs : List Char) :
    (between before cs).position = before.length := rfl

theorem current?_between_nil (before : List Char) : (between before []).current? = none := by
  simp [between, current?]

theorem current?_between_cons (before : List Char) (c : Char) (rest : List Char) :
    (between before (c :: rest)).current? = some c := by
  simp [between, current?]

theorem peek?_between (before : List Char) (c : Char) (rest : List Char) :
    (between before (c :: rest)).peek? = rest.head? := by
  unfold between peek?
  rw [List.getElem?_append_right (by simp)]
  cases rest <;> simp

theorem advance_between (before : List Char) (c : Char) (rest : List Char) :
    (between before (c :: rest)).advance = between (before ++ [c]) rest := by
  simp [between, advance]

section Loops

variable (before : List Char)

theorem scanWhile_between (p : Char → Bool) (cs : List Char) :
    scanWhile p (between before cs)
      = (cs.takeWhile p, between (before ++ cs.takeWhile p) (cs.dropWhile p)) := by
  induction cs generalizing before with
  | nil =>
      rw [scanWhile]
      split
      · simp
      · next h => cases (current?_between_nil before).symm.trans h
  | cons c rest ih =>
      rw [scanWhile]
      split
      · next h => cases (current?_between_cons before c rest).symm.trans h
      · next h =>
        cases (current?_between_cons before c rest).symm.trans h
        rw [advance_between, ih]
        by_cases hc : p c = true
        · simp [hc]
        · simp [hc]

theorem skipLine_nil : skipLine (between before []) = between before [] := by
  rw [skipLine]
  split
  · rfl
  · next h => cases (current?_between_nil before).symm.trans h

theorem skipLine_cons (c : Char) (rest : List Char) : skipLine (between before (c :: rest))
    = if c = '\n' then between (before ++ [c]) rest
      else skipLine (between (before ++ [c]) rest) := by
  rw [skipLine]
  split
  · next h => cases (current?_between_cons before c rest).symm.trans h
  · next h =>
    cases (current?_between_cons before c rest).symm.trans h
    rw [advance_between]

theorem skipBlock_nil : skipBlock (between before []) = between before [] := by
  rw [skipBlock]
  split
  · rfl
  · next h => cases (current?_between_nil before).symm.trans h

theorem skipBlock_cons (c : Char) (rest : List Char) : skipBlock (between before (c :: rest))
    = if c = '*' ∧ rest.head? = some '/' then (between (before ++ [c]) rest).advance
      else skipBlock (between (before ++ [c]) rest) := by
  rw [skipBlock]
  split
  · next h => cases (current?_between_cons before c rest).symm.trans h
  · next h =>
    cases (current?_between_cons before c rest).symm.trans h
    rw [advance_between, peek?_between]

theorem skipGap_nil : skipGap (between before []) = between before [] := by
  rw [skipGap]
  simp [scanWhile_between, current?_between_nil]

theorem skipGap_blank {c : Char} (hc : Text.isBlank c = true) (rest : List Char) :
    skipGap (between before (c :: rest)) = skipGap (between (before ++ [c]) rest) := by
  have hscan : (scanWhile Text.isBlank (between before (c :: rest))).2
      = (scanWhile Text.isBlank (between (before ++ [c]) rest)).2 := by
    simp [scanWhile_between, hc]
  rw [skipGap, hscan]
  exact (skipGap.eq_1 _).symm

theorem scanWhile_blank_cons {c : Char} (hc : Text.isBlank c = false) (rest : List Char) :
    (scanWhile Text.isBlank (between before (c :: rest))).2 = between before (c :: rest) := by
  simp [scanWhile_between, hc]

theorem skipGap_line (rest : List Char) : skipGap (between before ('-' :: '-' :: rest))
    = skipGap (skipLine (between (before ++ ['-', '-']) rest)) := by
  have hline : skipLine (between before ('-' :: '-' :: rest))
      = skipLine (between (before ++ ['-', '-']) rest) := by
    simp [skipLine_cons]
  rw [skipGap, scanWhile_blank_cons before (by decide)]
  simp [current?_between_cons, peek?_between, hline]

theorem skipGap_block (rest : List Char) : skipGap (between before ('/' :: '*' :: rest))
    = skipGap (skipBlock (between (before ++ ['/', '*']) rest)) := by
  rw [skipGap, scanWhile_blank_cons before (by decide)]
  simp [current?_between_cons, peek?_between, advance_between]

theorem skipGap_token {c : Char} (hc : Text.isBlank c = false) {rest : List Char}
    (hline : ¬ (c = '-' ∧ rest.head? = some '-')) (hblock : ¬ (c = '/' ∧ rest.head? = some '*')) :
    skipGap (between before (c :: rest)) = between before (c :: rest) := by
  rw [skipGap, scanWhile_blank_cons before hc]
  simp only [current?_between_cons, peek?_between, Option.some.injEq]
  rw [dif_neg hline, dif_neg hblock]

end Loops

/-- Passes over the rest of a gap that was entered before. -/
def leaveGap : GapState → Scanner → Scanner
  | .outside, s => s.skipGap
  | .line, s => s.skipLine.skipGap
  | .block, s => s.skipBlock.skipGap

/-- A gap goes on behind the characters that were passed over. -/
theorem leaveGap_step {state : GapState} {before cs rest gap left : List Char}
    (state' : GapState) (taken : List Char)
    (hstep : leaveGap state (between before cs) = leaveGap state' (between (before ++ taken) rest))
    (hsplit : splitGap state' rest = (gap, left))
    (hrest : ∀ before : List Char, leaveGap state' (between before rest)
      = between (before ++ (splitGap state' rest).1) (splitGap state' rest).2) :
    leaveGap state (between before cs) = between (before ++ (taken ++ gap)) left := by
  rw [hstep, hrest, hsplit, List.append_assoc]

/-- The scanner passes over the gap that is split off. -/
theorem leaveGap_between (state : GapState) (cs : List Char) : ∀ before : List Char,
    leaveGap state (between before cs)
      = between (before ++ (splitGap state cs).1) (splitGap state cs).2 := by
  -- a gap is split character by character, while the scanner passes over a whole comment at once;
  -- so inside a comment the scanner is taken in the middle of its loop
  fun_induction splitGap state cs with
  | case1 state =>
      intro before
      cases state with
      | outside => simp [leaveGap, skipGap_nil]
      | line => simp [leaveGap, skipLine_nil, skipGap_nil]
      | block => simp [leaveGap, skipBlock_nil, skipGap_nil]
  | case2 c rest gap left hsplit ih =>
      intro before
      refine leaveGap_step _ [c] ?_ hsplit ih
      show skipGap (skipLine (between before (c :: rest))) = _
      rw [skipLine_cons]
      by_cases hc : c = '\n'
      · rw [if_pos hc, if_pos hc]
        rfl
      · rw [if_neg hc, if_neg hc]
        rfl
  | case3 rest gap left hsplit ih =>
      intro before
      refine leaveGap_step .outside ['*', '/'] ?_ hsplit ih
      simp [leaveGap, skipBlock_cons, advance_between]
  | case4 c rest hmark gap left hsplit ih =>
      intro before
      have hopen : ¬ (c = '*' ∧ rest.head? = some '/') := by
        rintro ⟨hc, hrest⟩
        obtain ⟨tail, htail⟩ := List.head?_eq_some_iff.1 hrest
        exact hmark tail hc htail
      refine leaveGap_step .block [c] ?_ hsplit ih
      show skipGap (skipBlock (between before (c :: rest))) = _
      rw [skipBlock_cons, if_neg hopen]
      rfl
  | case5 rest gap left hsplit ih =>
      intro before
      exact leaveGap_step .line ['-', '-'] (skipGap_line before rest) hsplit ih
  | case6 rest gap left hsplit ih =>
      intro before
      exact leaveGap_step .block ['/', '*'] (skipGap_block before rest) hsplit ih
  | case7 c rest _ _ hblank gap left hsplit ih =>
      intro before
      exact leaveGap_step .outside [c] (skipGap_blank before hblank rest) hsplit ih
  | case8 c rest hline hblock hblank =>
      intro before
      have hnotLine : ¬ (c = '-' ∧ rest.head? = some '-') := by
        rintro ⟨hc, hrest⟩
        obtain ⟨tail, htail⟩ := List.head?_eq_some_iff.1 hrest
        exact hline tail hc htail
      have hnotBlock : ¬ (c = '/' ∧ rest.head? = some '*') := by
        rintro ⟨hc, hrest⟩
        obtain ⟨tail, htail⟩ := List.head?_eq_some_iff.1 hrest
        exact hblock tail hc htail
      simpa [leaveGap] using
        skipGap_token before (Bool.eq_false_iff.2 hblank) hnotLine hnotBlock

/-! ## §5. What the readers read. -/

/-- At the end of the text a number ends. -/
theorem scanNumber_nil (pointSeen : Bool) (before : List Char) :
    scanNumber pointSeen (between before []) = ([], between before []) := by
  rw [scanNumber]
  split
  · rfl
  · next h => cases (current?_between_nil before).symm.trans h

/-- One step inside a number. -/
theorem scanNumber_cons (pointSeen : Bool) (before : List Char) (c : Char) (rest : List Char) :
    scanNumber pointSeen (between before (c :: rest))
      = if Text.isDigit c then
          let (digits, s') := scanNumber pointSeen (between (before ++ [c]) rest)
          (c :: digits, s')
        else if c = '.' && !pointSeen && rest.head?.any Text.isDigit then
          let (digits, s') := scanNumber true (between (before ++ [c]) rest)
          (c :: digits, s')
        else ([], between before (c :: rest)) := by
  rw [scanNumber]
  split
  · next h => cases (current?_between_cons before c rest).symm.trans h
  · next h =>
    cases (current?_between_cons before c rest).symm.trans h
    rw [advance_between, peek?_between]

theorem scanNumber_between (pointSeen : Bool) (cs : List Char) : ∀ before : List Char,
    scanNumber pointSeen (between before cs)
      = ((splitNumber pointSeen cs).1,
        between (before ++ (splitNumber pointSeen cs).1) (splitNumber pointSeen cs).2) := by
  fun_induction splitNumber pointSeen cs with
  | case1 =>
      intro before
      simp [scanNumber_nil]
  | case2 _ c rest hdigit digits left hsplit ih =>
      intro before
      rw [scanNumber_cons, if_pos hdigit, ih, hsplit]
      simp
  | case3 _ c rest hdigit hpoint digits left hsplit ih =>
      intro before
      rw [scanNumber_cons, if_neg hdigit, if_pos hpoint, ih, hsplit]
      simp
  | case4 _ c rest hdigit hpoint =>
      intro before
      rw [scanNumber_cons, if_neg hdigit, if_neg hpoint]
      simp

/-- What comes of a string of which `content` was read, and where the scanner then stands. -/
def stringRead (quote : Char) (content before cs : List Char) : StringEnd →
    Except SyntaxFault Token × Scanner
  | .closed more text rest =>
    (.ok (.string (String.ofList (content ++ more))), between (before ++ text) rest)
  | .unclosed more =>
    -- all characters were looked at
    (.error (.unterminatedString quote (content ++ more)), between (before ++ cs) [])

/-- Behind one more character, decoded or not, a string goes on. -/
theorem stringRead_push (quote c : Char) (content before taken rest : List Char)
    (e : StringEnd) :
    stringRead quote (content ++ [c]) (before ++ taken) rest e
      = stringRead quote content before (taken ++ rest) (e.push c taken) := by
  cases e with
  | closed => simp [stringRead, StringEnd.push]
  | unclosed => simp [stringRead, StringEnd.push]

/-- At the end of the text a string is not closed. -/
theorem scanString_nil (quote : Char) (content before : List Char) :
    scanString quote content (between before [])
      = (.error (.unterminatedString quote content), between before []) := by
  rw [scanString]
  split
  · rfl
  · next h => cases (current?_between_nil before).symm.trans h

/-- One step inside a string. -/
theorem scanString_cons (quote c : Char) (content before rest : List Char) :
    scanString quote content (between before (c :: rest))
      = if c = quote then
          if rest.head? = some quote then
            scanString quote (content ++ [quote]) (between (before ++ [c]) rest).advance
          else (.ok (.string (String.ofList content)), between (before ++ [c]) rest)
        else if c = '\\' then
          match (between (before ++ [c]) rest).current? with
          | some escaped => scanString quote (content ++ [unescape escaped])
              (between (before ++ [c]) rest).advance
          | none => scanString quote content (between (before ++ [c]) rest)
        else scanString quote (content ++ [c]) (between (before ++ [c]) rest) := by
  rw [scanString]
  split
  · next h => cases (current?_between_cons before c rest).symm.trans h
  · next h =>
    cases (current?_between_cons before c rest).symm.trans h
    rw [advance_between, peek?_between]

theorem scanString_between (quote : Char) (cs : List Char) : ∀ content before : List Char,
    scanString quote content (between before cs)
      = stringRead quote content before cs (readString quote cs) := by
  -- by the reader's recursion; what was read so far is the content and the text in front
  fun_induction readString quote cs with
  | case1 =>
      intro content before
      simp [scanString_nil, stringRead]
  | case2 =>
      intro content before
      simp [scanString_cons, stringRead]
  | case3 hquote =>
      intro content before
      -- the text ends with the backslash, which is passed over and adds nothing
      rw [scanString_cons, if_neg hquote, if_pos rfl]
      simp [current?_between_nil, scanString_nil, stringRead]
  | case4 c hquote hslash =>
      intro content before
      rw [scanString_cons, if_neg hquote, if_neg hslash, scanString_nil]
      simp [stringRead]
  | case5 rest ih =>
      intro content before
      rw [scanString_cons, if_pos rfl, List.head?_cons, if_pos rfl, advance_between,
        List.append_assoc, ih, stringRead_push]
      rfl
  | case6 d rest hnext =>
      intro content before
      have hother : ¬ (d :: rest).head? = some quote := fun h => hnext (Option.some.inj h)
      rw [scanString_cons, if_pos rfl, if_neg hother]
      simp [stringRead]
  | case7 d rest hquote ih =>
      intro content before
      rw [scanString_cons, if_neg hquote, if_pos rfl, current?_between_cons, advance_between,
        List.append_assoc]
      dsimp only
      rw [ih, stringRead_push]
      rfl
  | case8 c d rest hquote hslash ih =>
      intro content before
      rw [scanString_cons, if_neg hquote, if_neg hslash, ih, stringRead_push]
      rfl

/-- What comes of a token that begins the text, and where the scanner then stands. -/
def tokenRead (before cs : List Char) :
    Except SyntaxFault Cut → Except SyntaxFault (Option Token) × Scanner
  | .ok cut => (.ok (some cut.token), between (before ++ cut.text) cut.rest)
  | .error fault => (.error fault, between (before ++ cs) [])

/-- **A scanner reads the token that `readToken` reads**, and where that fails it has gone through
the whole text. -/
theorem scanToken_between (before : List Char) (c : Char) (rest : List Char) :
    scanToken (between before (c :: rest)) = tokenRead before (c :: rest) (readToken c rest) := by
  unfold scanToken readToken
  rw [current?_between_cons]
  dsimp only
  by_cases hdigit : Text.isDigit c = true
  · -- the number is read with its first digit
    rw [if_pos hdigit, if_pos hdigit, scanNumber_between]
    simp [splitNumber, hdigit, tokenRead]
  rw [if_neg hdigit, if_neg hdigit, advance_between]
  by_cases hquote : (c = '\'' || c = '"') = true
  · rw [if_pos hquote, if_pos hquote, scanString_between]
    cases readString c rest with
    | closed content text left => simp [stringRead, tokenRead, Except.map]
    | unclosed content => simp [stringRead, tokenRead, Except.map]
  rw [if_neg hquote, if_neg hquote]
  by_cases hopening : (c = '\x60' || c = '[') = true
  · rw [if_pos hopening, if_pos hopening]
    unfold scanName
    rw [scanWhile_between]
    have hcut := List.takeWhile_append_dropWhile (p := fun d => d != closingQuote c) (l := rest)
    dsimp only
    cases hrest : rest.dropWhile (fun d => d != closingQuote c) with
    | nil =>
        rw [hrest, List.append_nil] at hcut
        simp [current?_between_nil, tokenRead, Except.map, hcut]
    | cons d left => simp [current?_between_cons, advance_between, tokenRead, Except.map]
  rw [if_neg hopening, if_neg hopening]
  by_cases hword : isWordStart c = true
  · have hchar := isWordChar_of_isWordStart hword
    rw [if_pos hword, if_pos hword, scanWhile_between]
    simp [hchar, tokenRead]
  rw [if_neg hword, if_neg hword]
  by_cases hoperator : isOperatorChar c = true
  · rw [if_pos hoperator, if_pos hoperator, scanWhile_between]
    simp [hoperator, tokenRead]
  rw [if_neg hoperator, if_neg hoperator]
  rfl

/-- At the end of the text there is no token. -/
theorem scanToken_nil (before : List Char) :
    scanToken (between before []) = (.ok none, between before []) := by
  unfold scanToken
  rw [current?_between_nil]

/-- What comes of a call, and where the scanner then stands. -/
def lexemeRead (before cs : List Char) : Except SyntaxFault (Option (Lexeme × List Char)) →
    Except SyntaxFault (Option Token × Span) × Scanner
  | .ok none =>
    let stop := before.length + cs.length
    (.ok (none, ⟨stop, stop⟩), between (before ++ cs) [])
  | .ok (some (l, rest)) =>
    let start := before.length + l.gap.length
    (.ok (some l.token, ⟨start, start + l.text.length⟩), between (before ++ l.written) rest)
  | .error fault => (.error fault, between (before ++ cs) [])

/-- **A call gives the lexeme that `nextLexeme` takes off the text.** -/
theorem next_between (before cs : List Char) :
    next (between before cs) = lexemeRead before cs (nextLexeme cs) := by
  have hgap : skipGap (between before cs) = between (before ++ (splitGap .outside cs).1)
      (splitGap .outside cs).2 := leaveGap_between .outside cs before
  have happend := splitGap_append .outside cs
  unfold next nextLexeme
  rw [hgap]
  cases hsplit : splitGap .outside cs with
  | mk gap left =>
      rw [hsplit] at happend
      rw [← happend]
      cases left with
      | nil => simp [scanToken_nil, lexemeRead, Except.map]
      | cons c rest =>
          dsimp only
          rw [scanToken_between]
          cases readToken c rest with
          | error fault => simp [tokenRead, lexemeRead, Except.map]
          | ok cut => simp [tokenRead, lexemeRead, Except.map, Lexeme.written, Nat.add_assoc]

end Scanner

end SmallSql
