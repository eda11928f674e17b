/-
  SmallSql.Proofs.Statement.Place
  ────────────────────────────────
  Where the values of a statement stand: in the tuples of an INSERT, in the assignments of an
  UPDATE, in the condition of an UPDATE or a DELETE.

      … ( v , v ) , ( v ) ;        … SET c = v , c = v WHERE c = v ;

  In the lexemes of a statement each value has a run of its own, with the token that ends it behind
  it, and the run can be exchanged: another value there gives the same statement with another cell.
  That is shown form by form, from the value out to the rule.
-/
import Mathlib.Data.List.Basic
import SmallSql.Proofs.Statement.Derivation

namespace SmallSql

namespace Statement

/-! ## §1. Places. -/

/-- Where a value can stand in a statement. -/
inductive Place where
  /-- In a tuple of an INSERT; tuples and values are numbered from 0. -/
  | inTuple (row column : Nat)
  /-- In an assignment of an UPDATE. -/
  | assigned (i : Nat)
  /-- In the condition of an UPDATE or a DELETE. -/
  | compared
deriving DecidableEq, Repr

namespace Place

/-- The tokens that end a value in this place. -/
def ends : Place → List Token
  | inTuple .. => [.comma, .rightParen]
  | assigned _ => [.comma, .keyword .where]
  | compared => [.semicolon]

/-- A token that a value in this place stands right behind. -/
def Opens : Place → Token → Prop
  | inTuple .., t => t = .leftParen ∨ t = .comma
  | assigned _, t => t = .comparison .eq
  | compared, t => ∃ c, t = .comparison c

end Place

/-- The cell at a place, if the statement has that place. -/
def cellAt? : Statement → Place → Option Cell
  | insert _ _ rows, .inTuple row column => rows[row]?.bind (·[column]?)
  | update _ assignments _, .assigned i => assignments[i]?.map (·.2)
  | update _ _ condition, .compared | delete _ condition, .compared => some condition.value
  | _, _ => none

/-- The statement with another cell at a place. -/
def put (cell : Cell) : Statement → Place → Statement
  | insert table columns rows, .inTuple row column =>
    insert table columns (rows.modify row (·.set column cell))
  | update table assignments condition, .assigned i =>
    update table (assignments.modify i fun a => (a.1, cell)) condition
  | update table assignments condition, .compared =>
    update table assignments { condition with value := cell }
  | delete table condition, .compared => delete table { condition with value := cell }
  | statement, _ => statement

/-- What is put at a place that the statement has stands there. -/
theorem cellAt?_put {statement : Statement} {place : Place} {old : Cell} (cell : Cell)
    (h : statement.cellAt? place = some old) :
    (statement.put cell place).cellAt? place = some cell := by
  cases statement with
  | insert table columns rows =>
      cases place with
      | inTuple row column =>
          obtain ⟨tuple, htuple, hcell⟩ := Option.bind_eq_some_iff.1 h
          have hlt := (List.getElem?_eq_some_iff.1 hcell).1
          show ((rows.modify row (·.set column cell))[row]?.bind (·[column]?)) = some cell
          rw [List.getElem?_modify_eq, htuple]
          exact List.getElem?_set_self hlt
      | assigned | compared => cases h
  | update table assignments condition =>
      cases place with
      | assigned i =>
          obtain ⟨a, ha, -⟩ := Option.map_eq_some_iff.1 h
          show (assignments.modify i fun a => (a.1, cell))[i]?.map (·.2) = some cell
          rw [List.getElem?_modify_eq, ha]
          rfl
      | compared => rfl
      | inTuple => cases h
  | delete table condition =>
      cases place with
      | compared => rfl
      | inTuple | assigned => cases h
  | select | createDatabase | use | createTable | showDatabases | showTables | dropDatabase
    | dropTable => cases place <;> cases h

end Statement

namespace Grammar

open Statement (Place)

/-! ## §2. Forms with a hole. -/

/-- The same lexemes, but the first may have another gap. -/
inductive SameTokens : List Lexeme → List Lexeme → Prop
  | nil : SameTokens [] []
  | cons {l l' : Lexeme} (rest : List Lexeme) (h : l'.token = l.token) :
      SameTokens (l :: rest) (l' :: rest)

theorem SameTokens.refl (ls : List Lexeme) : SameTokens ls ls := by
  cases ls with
  | nil => exact .nil
  | cons l rest => exact .cons rest rfl

/-- What has the same tokens as two runs is two runs, each with the same tokens. -/
theorem SameTokens.of_append {first second other : List Lexeme}
    (h : SameTokens (first ++ second) other) :
    ∃ first' second', other = first' ++ second' ∧ SameTokens first first'
      ∧ SameTokens second second' := by
  cases first with
  | nil => exact ⟨[], other, rfl, .nil, h⟩
  | cons l rest =>
      cases h with
      | @cons _ l' _ ht => exact ⟨l' :: rest, second, rfl, .cons rest ht, .refl second⟩

/-- A run of this form has a value of this place in it, which can be exchanged: any other value
there gives a run of the form for the other cell. -/
structure Hole (place : Place) (form : Cell → Form) (cell : Cell)
    (before run after : List Lexeme) : Prop where
  value : Value place.ends cell run
  opened : ∀ l ∈ before.getLast?, place.Opens l.token
  stopped : ∀ l ∈ after.head?, l.token ∈ place.ends
  refill : ∀ {cell' : Cell} {run' after' : List Lexeme}, Value place.ends cell' run' →
    SameTokens after after' → form cell' (before ++ (run' ++ after'))

namespace Hole

variable {place : Place} {form : Cell → Form} {cell : Cell} {before run after p q : List Lexeme}

/-- A value by itself. -/
theorem whole (place : Place) (h : Value place.ends cell run) :
    Hole place (Value place.ends) cell [] run [] where
  value := h
  opened := nofun
  stopped := nofun
  refill h' hafter := by
    cases hafter
    rwa [List.nil_append, List.append_nil]

/-- A form around a form with a hole. -/
theorem inside (form' : Cell → Form) (h : Hole place form cell before run after)
    (hopened : before = [] → ∀ l ∈ p.getLast?, place.Opens l.token)
    (hstopped : after = [] → ∀ l ∈ q.head?, l.token ∈ place.ends)
    (hform : ∀ {cell' m q'}, form cell' m → SameTokens q q' → form' cell' (p ++ (m ++ q'))) :
    Hole place form' cell (p ++ before) run (after ++ q) where
  value := h.value
  opened := by
    cases before with
    | nil => rw [List.append_nil]; exact hopened rfl
    | cons l rest =>
        rw [List.getLast?_append_of_ne_nil _ (List.cons_ne_nil l rest)]
        exact h.opened
  stopped := by
    cases after with
    | nil => exact hstopped rfl
    | cons l rest => exact h.stopped
  refill hvalue hafter := by
    obtain ⟨after', q', rfl, hafter', hq'⟩ := hafter.of_append
    have hinner := hform (h.refill hvalue hafter') hq'
    simpa only [List.append_assoc] using hinner

end Hole

/-! ## §3. Lists and sequences around a hole. -/

/-- Each item of a list has a run of its own, with commas beside it, and can be exchanged. -/
theorem Listed.exists_item {α : Type} {form : α → Form} {as : List α} {ls : List Lexeme}
    (h : Listed form as ls) {i : Nat} {a : α} (ha : as[i]? = some a) :
    ∃ p phrase q, ls = p ++ (phrase ++ q) ∧ form a phrase
      ∧ (∀ l ∈ p.getLast?, l.token = .comma) ∧ (∀ l ∈ q.head?, l.token = .comma)
      ∧ ∀ {f : α → α} {m q' : List Lexeme}, form (f a) m → SameTokens q q' →
        Listed form (as.modify i f) (p ++ (m ++ q')) := by
  induction h generalizing i with
  | @last b ls hb =>
      cases i with
      | zero =>
          obtain rfl : b = a := Option.some.inj ha
          refine ⟨[], ls, [], by simp, hb, nofun, nofun, fun hm hq => ?_⟩
          cases hq
          rw [List.nil_append, List.append_nil, List.modify_zero_cons]
          exact .last hm
      | succ i => cases ha
  | @more b rest ls others comma hb hcomma hrest ih =>
      cases i with
      | zero =>
          obtain rfl : b = a := Option.some.inj ha
          refine ⟨[], ls, comma :: others, rfl, hb, nofun, ?_, fun hm hq => ?_⟩
          · rintro _ ⟨⟩
            exact hcomma
          · cases hq with
            | cons _ ht =>
                rw [List.nil_append, List.modify_zero_cons]
                exact .more hm (ht.trans hcomma) hrest
      | succ i =>
          obtain ⟨p, phrase, q, rfl, hphrase, hp, hq, hrefill⟩ := ih ha
          refine ⟨ls ++ comma :: p, phrase, q, by simp, hphrase, ?_, hq, fun hm hq' => ?_⟩
          · intro l hl
            cases p with
            | nil =>
                rw [List.getLast?_append_of_ne_nil _ (List.cons_ne_nil _ _),
                  List.getLast?_singleton] at hl
                cases hl
                exact hcomma
            | cons d p =>
                rw [List.getLast?_append_of_ne_nil _ (List.cons_ne_nil _ _),
                  List.getLast?_cons_cons] at hl
                exact hp l hl
          · rw [List.modify_succ_cons, List.append_assoc, List.cons_append]
            exact .more hb hcomma (hrefill hm hq')

/-- A sequence can be divided at each of its forms. -/
theorem Sequence.split (front : List Form) {back : List Form} {form : Form} {ls : List Lexeme}
    (h : Sequence (front ++ form :: back) ls) :
    ∃ p phrase q, ls = p ++ (phrase ++ q) ∧ Sequence front p ∧ form phrase ∧ Sequence back q := by
  induction front generalizing ls with
  | nil =>
      obtain ⟨phrase, q, rfl, hphrase, hq⟩ := h
      exact ⟨[], phrase, q, rfl, rfl, hphrase, hq⟩
  | cons first front ih =>
      obtain ⟨run, rest, rfl, hrun, hrest⟩ := h
      obtain ⟨p, phrase, q, rfl, hp, hphrase, hq⟩ := ih hrest
      exact ⟨run ++ p, phrase, q, by simp, ⟨run, p, rfl, hrun, hp⟩, hphrase, hq⟩

/-- What a sequence was divided into makes up the sequence. -/
theorem Sequence.join {front back : List Form} {form : Form} {p phrase q : List Lexeme}
    (hp : Sequence front p) (hphrase : form phrase) (hq : Sequence back q) :
    Sequence (front ++ form :: back) (p ++ (phrase ++ q)) := by
  induction front generalizing p with
  | nil =>
      obtain rfl : p = [] := hp
      exact ⟨phrase, q, rfl, hphrase, hq⟩
  | cons first front ih =>
      obtain ⟨run, rest, rfl, hrun, hrest⟩ := hp
      exact ⟨run, rest ++ (phrase ++ q), by simp, hrun, ih hrest⟩

/-- A sequence of forms that begins with a token does not depend on the gap of that token. -/
theorem Sequence.sameTokens {t : Token} {forms : List Form} {ls ls' : List Lexeme}
    (h : Sequence (Is t :: forms) ls) (hsame : SameTokens ls ls') :
    Sequence (Is t :: forms) ls' := by
  obtain ⟨phrase, rest, rfl, hphrase, hrest⟩ := h
  obtain ⟨l, rfl, hl⟩ := is_iff.1 hphrase
  cases hsame with
  | @cons _ l' _ ht => exact ⟨[l'], rest, rfl, is_iff.2 ⟨l', rfl, ht.trans hl⟩, hrest⟩

/-! ## §4. The places of a statement. -/

/-- The run of a value at this place, between what stands before and after it in these lexemes. -/
structure Located (place : Place) (form : Cell → Form) (cell : Cell) (ls : List Lexeme)
    (before run after : List Lexeme) : Prop extends Hole place form cell before run after where
  eq_append : ls = before ++ (run ++ after)
  before_ne_nil : before ≠ []

section Places

variable {place : Place} {form : Cell → Form} {cell : Cell}
  {ls before run after p q : List Lexeme}

/-- A form around a form in which a value has been found. -/
theorem Located.inside (form' : Cell → Form) (h : Located place form cell ls before run after)
    (hstopped : after = [] → ∀ l ∈ q.head?, l.token ∈ place.ends)
    (hform : ∀ {cell' m q'}, form cell' m → SameTokens q q' → form' cell' (p ++ (m ++ q'))) :
    Located place form' cell (p ++ (ls ++ q)) (p ++ before) run (after ++ q) where
  toHole := h.toHole.inside form' (fun he => absurd he h.before_ne_nil) hstopped hform
  eq_append := by rw [h.eq_append]; simp
  before_ne_nil := List.append_ne_nil_of_right_ne_nil _ h.before_ne_nil

/-- A part of a rule in which a value has been found, with the token that the rule has behind it. -/
theorem Located.exists_inRule {k : Command} {statement : Statement} {front back : List Form}
    {t : Token} (h : Located place form cell ls before run after) (hp : Sequence front p)
    (hq : Sequence (Is t :: back) q) (hends : after = [] → t ∈ place.ends)
    (hrule : ∀ c, Rule k (statement.put c place) (front ++ form c :: Is t :: back)) :
    ∃ before run after, after ≠ [] ∧ Located place (fun c => Derives k (statement.put c place))
      cell (p ++ (ls ++ q)) before run after := by
  obtain ⟨l, rest, rfl, hl⟩ := hq.exists_cons
  refine ⟨_, run, _, List.append_ne_nil_of_right_ne_nil after (List.cons_ne_nil l rest),
    h.inside _ (fun he m hm => ?_) fun hm hsame => ?_⟩
  · cases hm
    rw [hl]
    exact hends he
  · exact ⟨_, hrule _, hp.join hm (hq.sameTokens hsame)⟩

/-- A value of a tuple stands behind a parenthesis or a comma, and in front of one. -/
theorem exists_located_tuple {cells : List Cell} (row : Nat) {column : Nat} (h : Tuple cells ls)
    (hcell : cells[column]? = some cell) : ∃ before run after, after ≠ [] ∧
      Located (.inTuple row column) (fun c => Tuple (cells.set column c)) cell ls before run
        after := by
  obtain ⟨left, list, right, rfl, hleft, hlist, hright⟩ := h.split [Is .leftParen]
  obtain ⟨p, run, q, rfl, hrun, hp, hq, hrefill⟩ := Listed.exists_item hlist hcell
  obtain ⟨l, rest, rfl, hl⟩ := hright.exists_cons
  obtain ⟨l', rfl, hl'⟩ : ∃ l', left = [l'] ∧ l'.token = .leftParen := by
    obtain ⟨phrase, _, rfl, hphrase, rfl⟩ := hleft
    obtain ⟨l', rfl, hl'⟩ := is_iff.1 hphrase
    exact ⟨l', rfl, hl'⟩
  have hvalues : Hole (.inTuple row column) (fun c => Listed (Value [.comma, .rightParen])
      (cells.set column c)) cell (p ++ []) run ([] ++ q) := by
    refine (Hole.whole (.inTuple row column) hrun).inside _ (fun _ m hm => .inr (hp m hm))
      (fun _ m hm => ?_) fun {c} _ _ hm hsame => ?_
    · rw [hq m hm]
      exact List.mem_cons_self
    · -- to set a cell is to modify the item in its place, whatever it was
      rw [List.set_eq_modify]
      exact hrefill (f := fun _ => c) hm hsame
  have htuple := hvalues.inside (p := [l']) (q := l :: rest)
    (fun c => Tuple (cells.set column c))
    (fun _ m hm => by cases hm; exact .inl hl')
    (fun _ m hm => by cases hm; rw [hl]; simp [Place.ends])
    fun hm hsame => hleft.join hm (hright.sameTokens hsame)
  exact ⟨_, _, _, by simp, htuple, by simp, by simp⟩

/-- What stands behind two single tokens stands behind the second. -/
theorem Sequence.exists_pair {t t' : Token} {form : Form} (h : Sequence [Is t, Is t', form] ls) :
    ∃ l l' phrase, ls = [l, l'] ++ phrase ∧ l'.token = t' ∧ form phrase
      ∧ ∀ {form' : Form} {m : List Lexeme}, form' m →
        Sequence [Is t, Is t', form'] ([l, l'] ++ m) := by
  obtain ⟨_, _, rfl, hfirst, _, _, rfl, hsecond, phrase, _, rfl, hphrase, rfl⟩ := h
  obtain ⟨l, rfl, hl⟩ := is_iff.1 hfirst
  obtain ⟨l', rfl, hl'⟩ := is_iff.1 hsecond
  refine ⟨l, l', phrase, by simp, hl', hphrase, fun {form' m} hm => ?_⟩
  exact ⟨[l], l' :: m, rfl, hfirst, [l'], m, rfl, hsecond, m, [], by simp, hm, rfl⟩

/-- The value of an assignment is all that stands behind the equals sign. -/
theorem exists_located_assigned {a : String × Cell} {i : Nat} (h : Assigned a ls) :
    ∃ before run, Located (.assigned i) (fun c => Assigned (a.1, c)) a.2 ls before run [] := by
  obtain ⟨l, l', run, rfl, hl', hrun, hrefill⟩ := Sequence.exists_pair h
  have hole := (Hole.whole (.assigned i) hrun).inside (p := [l, l']) (q := [])
    (fun c => Assigned (a.1, c))
    (fun _ m hm => by cases hm; exact hl') (fun _ => nofun) fun {c m q'} hm hsame => by
      cases hsame
      rw [List.append_nil]
      exact hrefill hm
  exact ⟨_, run, hole, by simp, by simp⟩

/-- The value of a condition is all that stands behind the comparison. -/
theorem exists_located_compared {condition : Condition} (h : Compared condition ls) :
    ∃ before run, Located .compared (fun c => Compared { condition with value := c })
      condition.value ls before run [] := by
  obtain ⟨l, l', run, rfl, hl', hrun, hrefill⟩ := Sequence.exists_pair h
  have hole := (Hole.whole .compared hrun).inside (p := [l, l']) (q := [])
    (fun c => Compared { condition with value := c })
    (fun _ m hm => by cases hm; exact ⟨_, hl'⟩) (fun _ => nofun) fun {c m q'} hm hsame => by
      cases hsame
      rw [List.append_nil]
      exact hrefill hm
  exact ⟨_, run, hole, by simp, by simp⟩

/-- **Each value of a statement is found among its lexemes**: at every place that the statement has,
the lexemes have a value between a token that opens the place and one that ends it, and any other
value there gives the statement with the other cell. -/
theorem exists_located {k : Command} {statement : Statement} (h : Derives k statement ls)
    (hcell : statement.cellAt? place = some cell) :
    ∃ before run after, after ≠ [] ∧
      Located place (fun c => Derives k (statement.put c place)) cell ls before run after := by
  obtain ⟨forms, hrule, hforms⟩ := h
  cases hrule with
  | @insert table columns rows =>
      cases place with
      | inTuple row column =>
          obtain ⟨cells, hcells, hcell⟩ := Option.bind_eq_some_iff.1 hcell
          obtain ⟨p, tuples, q, rfl, hp, htuples, hq⟩ := hforms.split [Word .insert, Word .into,
            Name table, Is .leftParen, Listed Name columns, Is .rightParen, Word .values]
          obtain ⟨p', tuple, q', rfl, htuple, -, -, hrefill⟩ := Listed.exists_item htuples hcells
          obtain ⟨before, run, after, hne, hlocated⟩ :=
            exists_located_tuple row htuple hcell
          have hrows := hlocated.inside (p := p') (q := q')
            (fun c => Listed Tuple (rows.modify row (·.set column c)))
            (fun he => absurd he hne) fun {c _ _} => hrefill (f := (·.set column c))
          -- the tuple ends with its parenthesis, so the value is never what stands last
          have hne' : after ++ q' ≠ [] := List.append_ne_nil_of_left_ne_nil hne _
          exact hrows.exists_inRule hp hq (fun he => absurd he hne') fun _ => .insert
      | assigned | compared => cases hcell
  | @update table assignments condition hop =>
      cases place with
      | assigned i =>
          obtain ⟨a, ha, rfl⟩ := Option.map_eq_some_iff.1 hcell
          obtain ⟨p, list, q, rfl, hp, hlist, hq⟩ :=
            hforms.split [Word .update, Name table, Word .set]
          obtain ⟨p', phrase, q', rfl, hphrase, -, hcomma, hrefill⟩ := Listed.exists_item hlist ha
          obtain ⟨before, run, hlocated⟩ := exists_located_assigned (i := i) hphrase
          have hlist' := hlocated.inside (p := p') (q := q')
            (fun c => Listed Assigned (assignments.modify i fun a => (a.1, c)))
            (fun _ l hl => by rw [hcomma l hl]; exact List.mem_cons_self)
            fun {c _ _} => hrefill (f := fun a => (a.1, c))
          exact hlist'.exists_inRule hp hq (fun _ => by simp [Place.ends]) fun _ => .update hop
      | compared =>
          obtain rfl : condition.value = cell := Option.some.inj hcell
          obtain ⟨p, phrase, q, rfl, hp, hphrase, hq⟩ := hforms.split
            [Word .update, Name table, Word .set, Listed Assigned assignments, Word .where]
          obtain ⟨before, run, hlocated⟩ := exists_located_compared hphrase
          exact hlocated.exists_inRule hp hq (fun _ => List.mem_cons_self) fun _ => .update hop
      | inTuple => cases hcell
  | @delete table condition =>
      cases place with
      | compared =>
          obtain rfl : condition.value = cell := Option.some.inj hcell
          obtain ⟨p, phrase, q, rfl, hp, hphrase, hq⟩ :=
            hforms.split [Word .delete, Word .from, Name table, Word .where]
          obtain ⟨before, run, hlocated⟩ := exists_located_compared hphrase
          exact hlocated.exists_inRule hp hq (fun _ => List.mem_cons_self) fun _ => .delete
      | inTuple | assigned => cases hcell
  | selectAll | selectColumns | createTable | createDatabase | use | showDatabases | showTables
    | dropDatabase | dropTable => cases place <;> cases hcell

end Places

end Grammar

end SmallSql
