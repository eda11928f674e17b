/-
  SmallSql.Proofs.Statement.Recognition
  ────────────────────────────────
  The readers accept the grammar and nothing else.  `Recognizes` describes a reader in both
  directions at once: it succeeds on an input if and only if the input begins with a run of its form
  behind which it may stop, and then it takes exactly that run,

      input  =  run of the form  ++  rest          rest begins with what `next` allows

  Values and lists go on as long as they can, so `next` is what ends them.  Readers are joined as
  the forms of a rule are: `Follows.step` puts one form in front of a rule.
-/
import Mathlib.Data.List.TakeWhile
import SmallSql.Proofs.Statement.Grammar
import SmallSql.Proofs.Statement.Tokens

namespace SmallSql.Statement

open SmallSql.Grammar
open SmallSql.Parser (token optional takeUntil finished separatedRun separatedFromRun)

variable {α β : Type}

/-! ## §1. Readers and forms. -/

/-- What may stand behind a run: a token, or the end of the text. -/
abbrev Lookahead := Option Token → Prop

/-- Anything may stand behind the run. -/
def Anything : Lookahead := fun _ => True

/-- Nothing may stand behind the run. -/
def AtEnd : Lookahead := fun t => t = none

/-- The reader takes the runs of the form, where they end as `next` says, and nothing else. -/
def Recognizes (p : LexemeParser α) (form : α → Form) (next : Lookahead) : Prop :=
  ∀ ⦃input rest : List Lexeme⦄ ⦃a : α⦄, p.run input = .ok (a, rest)
    ↔ ∃ phrase, input = phrase ++ rest ∧ form a phrase ∧ next (firstToken rest)

/-- The reader takes the runs that a rule describes. -/
def Follows (p : LexemeParser α) (rule : α → List Form → Prop) (next : Lookahead) : Prop :=
  Recognizes p (fun a ls => ∃ forms, rule a forms ∧ Sequence forms ls) next

section Joining

variable {p : LexemeParser α} {f : α → LexemeParser β} {form : α → Form}
  {rule : α → β → List Form → Prop} {next next' : Lookahead}

/-- One form in front of a rule.  What stands behind the run of the form is what the rule begins
with. -/
theorem Follows.step (hp : Recognizes p form next) (hf : ∀ a, Follows (f a) (rule a) next')
    (hnext : ∀ a b forms, rule a b forms → ∀ phrase rest, Sequence forms phrase →
      next (firstToken (phrase ++ rest))) :
    Follows (p >>= f) (fun b forms => ∃ a more, forms = form a :: more ∧ rule a b more) next' := by
  intro input rest b
  rw [Parser.run_bind_eq_ok]
  constructor
  · rintro ⟨a, mid, ha, hb⟩
    obtain ⟨first, rfl, hfirst, -⟩ := hp.1 ha
    obtain ⟨more, rfl, ⟨forms, hrule, hmore⟩, hrest⟩ := (hf a).1 hb
    exact ⟨first ++ more, (List.append_assoc _ _ _).symm,
      ⟨form a :: forms, ⟨a, forms, rfl, hrule⟩, first, more, rfl, hfirst, hmore⟩, hrest⟩
  · rintro ⟨phrase, rfl, ⟨_, ⟨a, forms, rfl, hrule⟩, first, more, rfl, hfirst, hmore⟩, hrest⟩
    rw [List.append_assoc]
    exact ⟨a, more ++ rest,
      hp.2 ⟨first, rfl, hfirst, hnext a b forms hrule more rest hmore⟩,
      (hf a).2 ⟨more, rfl, ⟨forms, hrule, hmore⟩, hrest⟩⟩

/-- A form that may end anywhere. -/
theorem Follows.andThen (hp : Recognizes p form Anything)
    (hf : ∀ a, Follows (f a) (rule a) next') :
    Follows (p >>= f) (fun b forms => ∃ a more, forms = form a :: more ∧ rule a b more) next' :=
  .step hp hf fun _ _ _ _ _ _ _ => trivial

/-- A form that ends in front of the token `t`, with which the rule begins. -/
theorem Follows.before (t : Token) (hp : Recognizes p form next) (ht : next (some t))
    (hf : ∀ a, Follows (f a) (rule a) next')
    (hrule : ∀ a b forms, rule a b forms → ∃ more, forms = Is t :: more) :
    Follows (p >>= f) (fun b forms => ∃ a more, forms = form a :: more ∧ rule a b more) next' := by
  refine .step hp hf fun a b forms hforms phrase rest hphrase => ?_
  obtain ⟨more, rfl⟩ := hrule a b forms hforms
  obtain ⟨l, left, rfl, rfl⟩ := hphrase.exists_cons
  exact ht

/-- A rule whose first form is a token begins with it, whatever its other forms are. -/
theorem begins_of_andThen {t : Token} {others : Unit → List Form → Prop} {forms : List Form}
    (h : ∃ a more, forms = Is t :: more ∧ others a more) : ∃ more, forms = Is t :: more := by
  obtain ⟨_, more, he, -⟩ := h
  exact ⟨more, he⟩

theorem begins_of_last {t : Token} {b b' : β} {forms : List Form}
    (h : ∃ _ : Unit, b = b' ∧ forms = [Is t]) : ∃ more, forms = Is t :: more := by
  obtain ⟨_, -, he⟩ := h
  exact ⟨[], he⟩

/-- The last form of a rule. -/
theorem Follows.last {g : α → β} (hp : Recognizes p form next) :
    Follows (p >>= fun a => pure (g a)) (fun b forms => ∃ a, b = g a ∧ forms = [form a]) next := by
  intro input rest b
  rw [Parser.run_bind_eq_ok]
  constructor
  · rintro ⟨a, mid, ha, hb⟩
    cases hb
    obtain ⟨phrase, rfl, hphrase, hrest⟩ := hp.1 ha
    exact ⟨phrase, rfl, ⟨_, ⟨a, rfl, rfl⟩, phrase, [], (List.append_nil _).symm, hphrase, rfl⟩,
      hrest⟩
  · rintro ⟨_, rfl, ⟨_, ⟨a, rfl, rfl⟩, phrase, _, rfl, hphrase, rfl⟩, hrest⟩
    rw [List.append_nil]
    exact ⟨a, rest, hp.2 ⟨phrase, rfl, hphrase, hrest⟩, rfl⟩

/-- A reader that fails in one case follows the rule in the other. -/
theorem Follows.unless {c : Prop} [Decidable c] {fault : List Lexeme → ReadFault}
    {g : α → LexemeParser β} {q : LexemeParser β} {rule : β → List Form → Prop}
    (hq : Follows q rule next) :
    Follows (if c then Parser.fail fault >>= g else q) (fun b forms => ¬ c ∧ rule b forms)
      next := by
  intro input rest b
  by_cases hc : c
  · rw [if_pos hc]
    constructor
    · intro h
      obtain ⟨a, mid, hfail, -⟩ := Parser.run_bind_eq_ok.1 h
      cases hfail
    · rintro ⟨_, _, ⟨_, ⟨hnot, -⟩, -⟩, -⟩
      exact absurd hc hnot
  · rw [if_neg hc, hq]
    simp only [hc, not_false_eq_true, true_and]

/-- The same rule in other words. -/
theorem Follows.congr {q : LexemeParser β} {rule rule' : β → List Form → Prop}
    (hq : Follows q rule next) (h : ∀ b forms, rule b forms ↔ rule' b forms) :
    Follows q rule' next := by
  intro input rest b
  rw [hq]
  simp only [h]

/-- A rule with one list of forms for each value is a form. -/
theorem Follows.recognizes {q : LexemeParser β} {rule : β → List Form → Prop}
    {forms : β → List Form} (hq : Follows q rule next)
    (h : ∀ b fs, rule b fs ↔ fs = forms b) :
    Recognizes q (fun b => Sequence (forms b)) next := by
  intro input rest b
  rw [hq]
  simp only [h, exists_eq_left]

end Joining

/-! ## §2. Single tokens. -/

/-- A reader of one token recognizes the runs of one token that it accepts. -/
theorem recognizes_token {view : Lexeme → Option α} {fault : List Lexeme → ReadFault}
    {form : α → Form} (h : ∀ a ls, form a ls ↔ ∃ l, ls = [l] ∧ view l = some a) :
    Recognizes (token view fault) form Anything := by
  intro input rest a
  constructor
  · intro hrun
    cases input with
    | nil => cases hrun
    | cons l left =>
        unfold token at hrun
        dsimp only at hrun
        split at hrun
        · next hl =>
          cases hrun
          exact ⟨[l], rfl, (h a [l]).2 ⟨l, rfl, hl⟩, trivial⟩
        · cases hrun
  · rintro ⟨phrase, rfl, hphrase, -⟩
    obtain ⟨l, rfl, hl⟩ := (h a phrase).1 hphrase
    exact Parser.run_token hl rest

/-- A reader that takes the token `t a` as `a`. -/
theorem recognizes_is {view : Lexeme → Option α} {fault : List Lexeme → ReadFault}
    {t : α → Token} (h : ∀ l a, view l = some a ↔ l.token = t a) :
    Recognizes (token view fault) (fun a => Is (t a)) Anything := by
  refine recognizes_token fun a ls => ?_
  simp only [is_iff, h]

theorem recognizes_exactly (t : Token) : Recognizes (exactly t) (fun _ => Is t) Anything :=
  recognizes_is fun l _ => by simp

theorem recognizes_identifier (what : String) : Recognizes (identifier what) Name Anything := by
  refine recognizes_is (t := .identifier) fun l name => ?_
  unfold nameOf?
  cases l.token <;> simp

theorem recognizes_entry (fault : List Lexeme → ReadFault) :
    Recognizes (token projectionEntry? fault) Entry Anything := by
  refine recognizes_token fun entry ls => ?_
  have hentry : ∀ l : Lexeme, projectionEntry? l = some entry
      ↔ l.token = entry.elim .star .identifier := by
    intro l
    unfold projectionEntry?
    cases entry <;> cases l.token <;> simp
  simp only [hentry]
  cases entry with
  | none => exact is_iff
  | some name => exact is_iff

/-- The token of an operator that was read, whether there is such a comparison or not. -/
def operatorToken : Except String Comparison → Token
  | .ok c => .comparison c
  | .error written => .operator written

theorem recognizes_comparison :
    Recognizes comparison (fun c => Is (.comparison c)) Anything := by
  intro input rest c
  unfold comparison
  rw [Parser.run_bind_eq_ok]
  have hview : ∀ l r, comparisonOf? l = some r ↔ l.token = operatorToken r := by
    intro l r
    unfold comparisonOf? operatorToken
    cases r <;> cases l.token <;> simp
  have htoken : Recognizes (token comparisonOf? (expected "comparison operator")) _ Anything :=
    recognizes_is hview
  constructor
  · rintro ⟨r, mid, hr, hc⟩
    -- an operator that there is not is taken, and then refused
    cases r with
    | error written => cases hc
    | ok c' =>
        cases hc
        exact htoken.1 hr
  · intro h
    exact ⟨.ok c, rest, htoken.2 h, rfl⟩

/-- The end of a statement, for each of the ways to close it. -/
def Ending : Closing → Form
  | .required => Is .semicolon
  | .optional => Optionally (Is .semicolon)

/-- Nothing more is left where the end is accepted. -/
theorem run_finished {fault : List Lexeme → ReadFault} {input rest : List Lexeme} :
    (finished fault).run input = .ok ((), rest) ↔ input = [] ∧ rest = [] := by
  cases input with
  | nil =>
      show Except.ok ((), []) = Except.ok ((), rest) ↔ _
      simp [eq_comm]
  | cons l left =>
      show Except.error (fault (l :: left)) = Except.ok ((), rest) ↔ _
      simp

/-- Nothing stands at the front of the empty input only. -/
theorem firstToken_eq_none {input : List Lexeme} : AtEnd (firstToken input) ↔ input = [] := by
  unfold AtEnd firstToken
  rw [Option.map_eq_none_iff, List.head?_eq_none_iff]

/-- A token at the front of the input is that of a first lexeme. -/
theorem exists_cons_of_firstToken {input : List Lexeme} {t : Token}
    (h : firstToken input = some t) : ∃ l rest, input = l :: rest ∧ l.token = t := by
  obtain ⟨l, hl, ht⟩ := Option.map_eq_some_iff.1 h
  obtain ⟨rest, rfl⟩ := List.head?_eq_some_iff.1 hl
  exact ⟨l, rest, rfl, ht⟩

theorem recognizes_close (closing : Closing) :
    Recognizes (close closing) (fun _ => Ending closing) AtEnd := by
  intro input rest u
  unfold close
  cases closing with
  | required =>
      have hsemicolon : Recognizes (token (fun l => if l.token = .semicolon then some () else none)
          (expected "';'")) (fun _ => Is .semicolon) Anything :=
        recognizes_is fun l _ => by simp
      dsimp only
      rw [Parser.run_bind_eq_ok]
      constructor
      · rintro ⟨_, mid, hmid, hend⟩
        obtain ⟨rfl, rfl⟩ := run_finished.1 hend
        obtain ⟨phrase, rfl, hphrase, -⟩ := hsemicolon.1 hmid
        exact ⟨phrase, rfl, hphrase, rfl⟩
      · rintro ⟨phrase, rfl, hphrase, hrest⟩
        rw [firstToken_eq_none] at hrest
        subst hrest
        exact ⟨(), [], hsemicolon.2 ⟨phrase, rfl, hphrase, trivial⟩, rfl⟩
  | optional =>
      dsimp only
      rw [Parser.run_bind_eq_ok]
      constructor
      · rintro ⟨taken, mid, hmid, hend⟩
        obtain ⟨rfl, rfl⟩ := run_finished.1 hend
        cases input with
        | nil => exact ⟨[], rfl, .inl rfl, rfl⟩
        | cons l left =>
            change (if isToken .semicolon l then _ else _) = _ at hmid
            split at hmid
            · next hl =>
              cases hmid
              exact ⟨[l], rfl, .inr (is_iff.2 ⟨l, rfl, of_decide_eq_true hl⟩), rfl⟩
            · cases hmid
      · rintro ⟨phrase, rfl, hphrase, hrest⟩
        rw [firstToken_eq_none] at hrest
        subst hrest
        rcases hphrase with rfl | hphrase
        · exact ⟨false, [], rfl, rfl⟩
        · obtain ⟨l, rfl, hl⟩ := is_iff.1 hphrase
          exact ⟨true, [], if_pos (decide_eq_true hl), rfl⟩

/-! ## §3. Values and lists. -/

/-- A token alone that is neither a string nor NULL stands for its characters. -/
theorem cellOf_single {l : Lexeme} (hstring : ∀ content, l.token ≠ .string content)
    (hnull : l.token ≠ .keyword .null) : cellOf [l] = .text (String.ofList l.text) := by
  unfold cellOf
  rw [List.map_singleton]
  split
  · next content he => exact absurd (List.singleton_inj.1 he) (hstring content)
  · next he => exact absurd (List.singleton_inj.1 he) hnull
  · rw [sourceOf, List.flatMap_nil, List.append_nil]

/-- Several tokens stand for the characters that they cover. -/
theorem cellOf_several (first second : Lexeme) (more : List Lexeme) :
    cellOf (first :: second :: more)
      = .text (String.ofList (sourceOf (first :: second :: more))) := by
  unfold cellOf
  split
  · next he => exact absurd (List.cons.inj he).2 (List.cons_ne_nil _ _)
  · next he => exact absurd (List.cons.inj he).2 (List.cons_ne_nil _ _)
  · rfl

/-- A run of lexemes denotes the cell that the reader makes of it. -/
theorem denotes_iff {cell : Cell} {ls : List Lexeme} :
    Denotes cell ls ↔ ls ≠ [] ∧ cell = cellOf ls := by
  constructor
  · intro h
    cases h with
    | string hl => exact ⟨List.cons_ne_nil _ _, (cellOf_token (c := .text _) hl).symm⟩
    | null hl => exact ⟨List.cons_ne_nil _ _, (cellOf_token (c := .null) hl).symm⟩
    | single hstring hnull =>
        exact ⟨List.cons_ne_nil _ _, (cellOf_single hstring hnull).symm⟩
    | several => exact ⟨List.cons_ne_nil _ _, (cellOf_several _ _ _).symm⟩
  · rintro ⟨hne, rfl⟩
    match ls, hne with
    | [l], _ =>
      by_cases hnull : l.token = .keyword .null
      · rw [cellOf_token (c := .null) hnull]
        exact .null hnull
      by_cases hstring : ∃ content, l.token = .string content
      · obtain ⟨content, hl⟩ := hstring
        rw [cellOf_token (c := .text content) hl]
        exact .string hl
      · rw [not_exists] at hstring
        rw [cellOf_single hstring hnull]
        exact .single hstring hnull
    | first :: second :: more, _ =>
      rw [cellOf_several]
      exact .several

/-- What ends a value: one of these tokens, or the end of the text. -/
def EndsValue (ends : List Token) : Lookahead := fun t => ∀ u ∈ t, u ∈ ends

theorem recognizes_value {stops : Token → Bool} {ends : List Token}
    (hstops : ∀ t, stops t = true ↔ t ∈ ends) :
    Recognizes (value stops) (Value ends) (EndsValue ends) := by
  intro input rest cell
  unfold value
  rw [Parser.run_bind_eq_ok]
  constructor
  · rintro ⟨run, mid, hrun, hcell⟩
    cases hrun
    split at hcell
    · cases hcell
    · next hne =>
      cases hcell
      refine ⟨_, List.takeWhile_append_dropWhile.symm, ⟨denotes_iff.2 ⟨?_, rfl⟩, ?_⟩, ?_⟩
      · rwa [Ne, ← List.isEmpty_iff]
      · intro l hl hends
        have hgoes : (!stops l.token) = true :=
          List.mem_takeWhile_imp (p := fun l : Lexeme => !stops l.token) hl
        rw [(hstops l.token).2 hends] at hgoes
        cases hgoes
      · intro t ht
        obtain ⟨l, hl, rfl⟩ := Option.map_eq_some_iff.1 ht
        have hstop := List.head?_dropWhile_not (fun l : Lexeme => !stops l.token) input
        rw [hl] at hstop
        rw [← hstops]
        simpa using hstop
  · rintro ⟨run, rfl, ⟨hdenotes, hinside⟩, hrest⟩
    obtain ⟨hne, rfl⟩ := denotes_iff.1 hdenotes
    have hgoes : ∀ l ∈ run, (!stops l.token) = true := by
      intro l hl
      rw [Bool.not_eq_true', ← Bool.not_eq_true, hstops]
      exact hinside l hl
    have hstop : ∀ l ∈ rest.head?, (!stops l.token) = false := by
      intro l hl
      rw [(hstops l.token).2 (hrest l.token (Option.mem_map_of_mem _ hl))]
      rfl
    obtain ⟨htake, hdrop⟩ := takeWhile_run hgoes hstop
    refine ⟨run, rest, ?_, ?_⟩
    · show Except.ok (_, _) = Except.ok (run, rest)
      rw [htake, hdrop]
    · rw [if_neg (mt List.isEmpty_iff.1 hne)]
      rfl

/-- Behind a list stands no comma. -/
def EndsList (next : Lookahead) : Lookahead := fun t => next t ∧ t ≠ some .comma

/-- What the separator test says of the front of the input. -/
theorem head_not_comma {rest : List Lexeme} (h : firstToken rest ≠ some .comma) :
    ∀ l ∈ rest.head?, isToken .comma l = false := by
  intro l hl
  refine decide_eq_false fun hcomma => h ?_
  rw [← hcomma]
  exact Option.mem_map_of_mem Lexeme.token hl

/-- Items behind which a comma may stand make lists. -/
theorem recognizes_commaList {item : LexemeParser α} {form : α → Form} {next : Lookahead}
    (hitem : Recognizes item form next) (hcomma : next (some .comma)) :
    Recognizes (commaList item) (Listed form) (EndsList next) := by
  intro input rest as
  show separatedRun (isToken .comma) item input = _ ↔ _
  constructor
  · intro h
    fun_induction separatedRun (isToken .comma) item input generalizing as rest with
    | case1 => cases h
    | case2 input a ha =>
        cases h
        obtain ⟨phrase, rfl, hphrase, hnext⟩ := hitem.1 ha
        exact ⟨phrase, rfl, .last hphrase, hnext, by simp [firstToken]⟩
    | case3 => cases h
    | case4 input a comma left ha hc as' left' hleft ih =>
        cases h
        obtain ⟨phrase, rfl, hphrase, -⟩ := hitem.1 ha
        obtain ⟨more, rfl, hmore, hnext⟩ := ih hleft
        refine ⟨phrase ++ comma :: more, ?_, .more hphrase (of_decide_eq_true hc) hmore, hnext⟩
        rw [List.append_assoc, List.cons_append]
    | case5 input a l left ha hl =>
        cases h
        obtain ⟨phrase, rfl, hphrase, hnext⟩ := hitem.1 ha
        refine ⟨phrase, rfl, .last hphrase, hnext, fun he => hl ?_⟩
        exact decide_eq_true (Option.some.inj he)
  · rintro ⟨phrase, rfl, hlist, hnext, hend⟩
    induction hlist with
    | last hphrase =>
        exact Parser.separatedRun_last (hitem.2 ⟨_, rfl, hphrase, hnext⟩) (head_not_comma hend)
    | @more a as ls more comma hphrase hc hrest ih =>
        rw [List.append_assoc, List.cons_append]
        refine Parser.separatedRun_more (hitem.2 ⟨ls, rfl, hphrase, ?_⟩) (decide_eq_true hc) ih
        show next (some comma.token)
        rwa [hc]

theorem recognizes_columnNames : Recognizes columnNames (Listed Name) (EndsList Anything) :=
  recognizes_commaList (recognizes_identifier _) trivial

theorem mem_ends_tupleValue (t : Token) :
    endsTupleValue t = true ↔ t ∈ [Token.comma, .rightParen] := by
  simp [endsTupleValue]

theorem mem_ends_assignedValue (t : Token) :
    endsAssignedValue t = true ↔ t ∈ [Token.comma, .keyword .where] := by
  simp [endsAssignedValue]

theorem mem_ends_comparedValue (t : Token) :
    endsComparedValue t = true ↔ t ∈ [Token.semicolon] := by
  simp [endsComparedValue]

theorem recognizes_tuple : Recognizes tuple Tuple Anything := by
  have hcells : Recognizes (commaList (value endsTupleValue))
      (Listed (Value [.comma, .rightParen])) (EndsList (EndsValue [.comma, .rightParen])) :=
    recognizes_commaList (recognizes_value mem_ends_tupleValue) (by simp [EndsValue])
  have hrule := Follows.andThen (recognizes_exactly .leftParen) fun _ =>
    Follows.before .rightParen hcells (by simp [EndsList, EndsValue])
      (fun cells => .last (recognizes_exactly .rightParen) (g := fun _ => cells))
      (by simp)
  exact hrule.recognizes (by simp)

theorem recognizes_assignment :
    Recognizes assignment Assigned (EndsValue [.comma, .keyword .where]) := by
  have hrule := Follows.andThen (recognizes_identifier "column name") fun column =>
    Follows.andThen (recognizes_exactly (.comparison .eq)) fun _ =>
      Follows.last (recognizes_value mem_ends_assignedValue) (g := fun cell => (column, cell))
  refine hrule.recognizes fun a forms => ?_
  constructor
  · rintro ⟨column, _, rfl, _, _, rfl, cell, rfl, rfl⟩
    rfl
  · rintro rfl
    exact ⟨a.1, _, rfl, (), _, rfl, a.2, rfl, rfl⟩

theorem recognizes_condition :
    Recognizes condition Compared (EndsValue [.semicolon]) := by
  have hrule := Follows.andThen (recognizes_identifier "column name") fun column =>
    Follows.andThen recognizes_comparison fun c =>
      Follows.last (recognizes_value mem_ends_comparedValue)
        (g := fun cell => (⟨column, c, cell⟩ : Condition))
  refine hrule.recognizes fun condition forms => ?_
  constructor
  · rintro ⟨column, _, rfl, c, _, rfl, cell, rfl, rfl⟩
    rfl
  · rintro rfl
    exact ⟨condition.column, _, rfl, condition.comparison, _, rfl, condition.value, rfl, rfl⟩

end SmallSql.Statement
