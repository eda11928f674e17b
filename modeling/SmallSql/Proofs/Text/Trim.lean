/-
  SmallSql.Proofs.Text.Trim
  ────────────────────────────────
  A text and the white space around it:

      text  =  white space  trimmed text  white space

  A text that neither begins nor ends with white space is what trimming leaves of it with white
  space around it.  Nothing is left to trim of a trimmed text, and its first word is that of the
  text; so the trimmed text announces the same command.
-/
import SmallSql.Command
import SmallSql.Proofs.Parsing

namespace SmallSql

/-! ## §1. White space around a text. -/

/-- Of white space before and a text behind, a text that neither begins nor ends with white space
keeps what is left of the text behind it. -/
theorem trim_append_of_ends {before body : List Char} (hbefore : Text.allBlank before = true)
    (hne : body ≠ []) (hfirst : ∀ c ∈ body.head?, Text.isBlank c = false)
    (hlast : ∀ c ∈ body.getLast?, Text.isBlank c = false) (after : List Char) :
    Text.trim (before ++ (body ++ after)) = body ++ Text.trimEnd after := by
  have hhead : ∀ c ∈ (body ++ after).head?, Text.isBlank c = false := by
    intro c hc
    cases body with
    | nil => exact absurd rfl hne
    | cons d rest => exact hfirst c hc
  have hstop : ∀ c ∈ body.reverse.head?, Text.isBlank c = false := by
    rwa [List.head?_reverse]
  have hreverse : body.reverse.dropWhile Text.isBlank = body.reverse :=
    (@takeWhile_run _ Text.isBlank [] body.reverse nofun hstop).2
  unfold Text.trim Text.trimStart Text.trimEnd
  rw [(takeWhile_run (List.all_eq_true.1 hbefore) hhead).2, List.reverse_append,
    List.dropWhile_append]
  split
  · next hnone =>
    rw [hreverse, List.isEmpty_iff.1 hnone, List.reverse_reverse]
    exact (List.append_nil body).symm
  · rw [List.reverse_append, List.reverse_reverse]

/-- Nothing is left of white space. -/
theorem trimEnd_of_allBlank {after : List Char} (h : Text.allBlank after = true) :
    Text.trimEnd after = [] := by
  have hblank : ∀ c ∈ after.reverse, Text.isBlank c = true := fun c hc =>
    List.all_eq_true.1 h c (List.mem_reverse.1 hc)
  have hnone := (@takeWhile_run _ Text.isBlank after.reverse [] hblank nofun).2
  rw [List.append_nil] at hnone
  unfold Text.trimEnd
  rw [hnone, List.reverse_nil]

/-- A text that neither begins nor ends with white space is what is left of it when white space is
put around it and taken off again. -/
theorem trim_append {before body after : List Char} (hbefore : Text.allBlank before = true)
    (hafter : Text.allBlank after = true) (hne : body ≠ [])
    (hfirst : ∀ c ∈ body.head?, Text.isBlank c = false)
    (hlast : ∀ c ∈ body.getLast?, Text.isBlank c = false) :
    Text.trim (before ++ (body ++ after)) = body := by
  rw [trim_append_of_ends hbefore hne hfirst hlast, trimEnd_of_allBlank hafter, List.append_nil]

/-! ## §2. The trimmed text. -/

/-- The text without the white space around it. -/
def trimmed (sql : String) : String := String.ofList (Text.trim sql.toList)

namespace Text

variable {cs : List Char}

theorem allBlank_cons {c : Char} {rest : List Char} :
    allBlank (c :: rest) = true ↔ isBlank c = true ∧ allBlank rest = true := by
  unfold allBlank
  rw [List.all_cons, Bool.and_eq_true]

theorem isBlank_head {tail : List Char} (h : allBlank tail = true) :
    ∀ c ∈ tail.head?, isBlank c = true := fun c hc =>
  List.all_eq_true.1 h c (List.mem_of_mem_head? hc)

/-- What is left of a text when a run is dropped does not begin with more of the run. -/
theorem head?_dropWhile {p : Char → Bool} : ∀ c ∈ (cs.dropWhile p).head?, p c = false := by
  intro c hc
  have := List.head?_dropWhile_not p cs
  rw [Option.mem_def.1 hc] at this
  simpa using this

/-- Behind the white space at its start, a text is its trimmed text and white space. -/
theorem exists_trimEnd (cs : List Char) :
    ∃ after, allBlank after = true ∧ cs = trimEnd cs ++ after := by
  refine ⟨(cs.reverse.takeWhile isBlank).reverse, ?_, ?_⟩
  · unfold allBlank
    rw [List.all_reverse]
    exact List.all_takeWhile
  · unfold trimEnd
    rw [← List.reverse_append, List.takeWhile_append_dropWhile, List.reverse_reverse]

/-- A text is its trimmed text with white space around it. -/
theorem exists_trim (cs : List Char) : ∃ before after, allBlank before = true
    ∧ allBlank after = true ∧ trimStart cs = trim cs ++ after
    ∧ cs = before ++ (trim cs ++ after) := by
  obtain ⟨after, hafter, hend⟩ := exists_trimEnd (trimStart cs)
  refine ⟨cs.takeWhile isBlank, after, List.all_takeWhile, hafter, hend, ?_⟩
  unfold trim
  rw [← hend]
  exact List.takeWhile_append_dropWhile.symm

/-- A trimmed text does not begin with white space. -/
theorem head?_trim : ∀ c ∈ (trim cs).head?, isBlank c = false := by
  obtain ⟨-, after, -, -, hstart, -⟩ := exists_trim cs
  intro c hc
  have hhead : ∀ d ∈ (trimStart cs).head?, isBlank d = false := head?_dropWhile
  apply hhead
  rw [hstart, List.head?_append, Option.mem_def.1 hc]
  rfl

/-- A trimmed text does not end with white space. -/
theorem getLast?_trim : ∀ c ∈ (trim cs).getLast?, isBlank c = false := by
  intro c hc
  unfold trim trimEnd at hc
  rw [List.getLast?_reverse] at hc
  exact head?_dropWhile c hc

/-- Nothing is left to trim of a trimmed text. -/
theorem trim_trim (cs : List Char) : trim (trim cs) = trim cs := by
  by_cases hne : trim cs = []
  · rw [hne]
    rfl
  · have h := @trim_append [] (trim cs) [] rfl rfl hne head?_trim getLast?_trim
    rwa [List.append_nil, List.nil_append] at h

/-- A text and its trimmed text have the same first word. -/
theorem firstWord_trim (cs : List Char) : firstWord (trim cs) = firstWord cs := by
  obtain ⟨before, after, -, hafter, hstart, -⟩ := exists_trim cs
  have hstop : ∀ c ∈ after.head?, (!isBlank c) = false := by
    intro c hc
    rw [isBlank_head hafter c hc]
    rfl
  have hself : trimStart (trim cs) = trim cs :=
    (@takeWhile_run _ isBlank [] (trim cs) nofun head?_trim).2
  unfold firstWord
  rw [hself, hstart, (takeWhile_append_of_stop hstop _).1]

end Text

/-- A text and its trimmed text announce the same command, or are refused in the same way. -/
theorem Command.ofText_trim (cs : List Char) :
    Command.ofText (Text.trim cs) = Command.ofText cs := by
  unfold Command.ofText
  rw [Text.trim_trim, Text.firstWord_trim]

end SmallSql
