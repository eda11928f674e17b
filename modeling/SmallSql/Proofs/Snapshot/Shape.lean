/-
  SmallSql.Proofs.Snapshot.Shape
  ────────────────────────────────
  The shape of a catalog in atoms.  `IsCatalog c atoms` says that the atoms are JSON of the shape of
  the catalog `c`, whatever the widths of its rows:

      catalog    { databases? }           or  [ databases? ]
      database   { name, tables? }        or  [ name , tables? ]
      table      { name, columns, rows? } or  [ name , columns , rows? ]

  The members of an object stand in any order, each known one at most once, among others that hold
  anything that can be passed over.  A list that is missing is empty.

  Below the shapes stand the readers that all three kinds of object share, from both sides.
-/
import SmallSql.Proofs.Json.Skipping
import SmallSql.Proofs.Json.Written
import SmallSql.Snapshot

namespace SmallSql.Snapshot

open Json (Atom AtomParser Fault Yields Takes ListOf IsString Field Skippable listAtoms recordAtoms
  MembersYield OpensValue Spells spells_mark)

/-! ## §1. The shape of a catalog. -/

/-- A cell: null or a string. -/
inductive IsCell : Cell → List Atom → Prop
  | null : IsCell .null [.null]
  | text (s : String) : IsCell (.text s) [.string s]

/-- The members under other keys can be passed over. -/
def Strays (known : List String) (members : List (String × List Atom)) : Prop :=
  ∀ m ∈ members, m.1 ∉ known → Skippable m.2

/-- A table, whether or not its rows are in width. -/
inductive IsTable : Table → List Atom → Prop
  | object {t : Table} {rows? : Option (List Row)} {members : List (String × List Atom)}
      (hname : Field "name" IsString members (some t.name))
      (hcolumns : Field "columns" (ListOf IsString) members (some t.columns))
      (hrows : Field "rows" (ListOf (ListOf IsCell)) members rows?)
      (hdefault : t.rows = rows?.getD [])
      (hstrays : Strays ["name", "columns", "rows"] members) : IsTable t (recordAtoms members)
  | fields {t : Table} {rows? : Option (List Row)} {name columns : List Atom}
      {rows : List (List Atom)} (hname : IsString t.name name)
      (hcolumns : ListOf IsString t.columns columns)
      (hrows : List.Forall₂ (ListOf (ListOf IsCell)) rows?.toList rows)
      (hdefault : t.rows = rows?.getD []) : IsTable t (listAtoms (name :: columns :: rows))

/-- A database of such tables. -/
inductive IsDatabase : Database → List Atom → Prop
  | object {db : Database} {tables? : Option (List Table)} {members : List (String × List Atom)}
      (hname : Field "name" IsString members (some db.name))
      (htables : Field "tables" (ListOf IsTable) members tables?)
      (hdefault : db.tables = tables?.getD []) (hstrays : Strays ["name", "tables"] members) :
      IsDatabase db (recordAtoms members)
  | fields {db : Database} {tables? : Option (List Table)} {name : List Atom}
      {tables : List (List Atom)} (hname : IsString db.name name)
      (htables : List.Forall₂ (ListOf IsTable) tables?.toList tables)
      (hdefault : db.tables = tables?.getD []) : IsDatabase db (listAtoms (name :: tables))

/-- A catalog of such databases. -/
inductive IsCatalog : Catalog → List Atom → Prop
  | object {c : Catalog} {databases? : Option (List Database)}
      {members : List (String × List Atom)}
      (hdatabases : Field "databases" (ListOf IsDatabase) members databases?)
      (hdefault : c.databases = databases?.getD []) (hstrays : Strays ["databases"] members) :
      IsCatalog c (recordAtoms members)
  | fields {c : Catalog} {databases? : Option (List Database)} {databases : List (List Atom)}
      (hdatabases : List.Forall₂ (ListOf IsDatabase) databases?.toList databases)
      (hdefault : c.databases = databases?.getD []) : IsCatalog c (listAtoms databases)

/-! ## §2. Records. -/

/-- What the reader makes of these atoms if a closing bracket follows them. -/
def YieldsInside {α : Type} (p : AtomParser α) (inside : List Atom) (result : Except Fault α) :
    Prop :=
  ∀ rest, p.run (inside ++ .closeBracket :: rest) = result.map fun a => (a, .closeBracket :: rest)

theorem YieldsInside.bind {α β : Type} {p : AtomParser α} {f : α → AtomParser β} {a : α}
    {phrase inside : List Atom} {result : Except Fault β} (hp : Yields p phrase (.ok a))
    (hf : YieldsInside (f a) inside result) : YieldsInside (p >>= f) (phrase ++ inside) result := by
  intro rest
  rw [Parser.run_bind, List.append_assoc, hp]
  exact hf rest

theorem YieldsInside.map {α β : Type} {p : AtomParser α} {inside : List Atom}
    {result : Except Fault α} (h : YieldsInside p inside result) (g : α → β) :
    YieldsInside (p >>= fun a => pure (g a)) inside (result.map g) := by
  intro rest
  rw [Parser.run_bind, h]
  cases result <;> rfl

section Record

variable {σ α : Type} {start : σ} {member : σ → String → AtomParser σ} {fields : AtomParser σ}
  {finish : σ → Except Fault α} {result : Except Fault σ}

/-- What is done with the fields of a record in the end. -/
theorem yields_finish (found : σ) (finish : σ → Except Fault α) :
    Yields (match finish found with
      | .ok a => (pure a : AtomParser α)
      | .error f => Parser.fail fun _ => f) [] (finish found) := by
  intro rest
  cases finish found <;> rfl

/-- An object is read member by member and then finished. -/
theorem yields_record_object {members : List (String × List Atom)}
    (h : MembersYield member start members result) :
    Yields (readRecord start member fields finish) (recordAtoms members) (result >>= finish) := by
  rw [Json.recordAtoms_eq]
  unfold readRecord
  refine .token_bind (a := true) rfl ?_
  dsimp only
  rw [if_pos rfl]
  exact (Json.yields_members h).bind_last fun found _ => yields_finish found finish

/-- A list of fields is read up to its closing bracket and then finished. -/
theorem yields_record_fields {values : List (List Atom)}
    (h : YieldsInside fields ([.comma].intercalate values) result) :
    Yields (readRecord start member fields finish) (listAtoms values) (result >>= finish) := by
  unfold readRecord listAtoms
  refine .token_bind (a := false) rfl ?_
  dsimp only
  rw [if_neg Bool.false_ne_true]
  intro rest
  rw [List.append_assoc, List.singleton_append, Parser.run_bind, h]
  cases result with
  | error fault => rfl
  | ok found =>
      have hclose := Json.yields_mark .closeBracket rest
      show (Json.mark .closeBracket >>= fun _ => _ : AtomParser α).run ([.closeBracket] ++ rest) = _
      rw [Parser.run_bind, hclose]
      exact yields_finish found finish rest

/-- What was read as a record: an object, or a list of fields. -/
theorem takes_record {I : List (String × List Atom) → σ → Prop} (hstart : I [] start)
    (hstep : ∀ ms s key ⦃input rest s'⦄, I ms s → (member s key).run input = .ok (s', rest) →
      ∃ phrase, input = .colon :: (phrase ++ rest) ∧ I (ms ++ [(key, phrase)]) s')
    {input rest : List Atom} {a : α}
    (h : (readRecord start member fields finish).run input = .ok (a, rest)) :
    ∃ found, finish found = .ok a ∧ ((∃ ms, input = recordAtoms ms ++ rest ∧ I ms found)
      ∨ ∃ inside, input = .openBracket :: inside
        ∧ fields.run inside = .ok (found, .closeBracket :: rest)) := by
  have hfinish : ∀ {found mid}, (match finish found with
      | .ok a => (pure a : AtomParser α)
      | .error f => Parser.fail fun _ => f).run mid = .ok (a, rest) →
      finish found = .ok a ∧ mid = rest := by
    intro found mid h
    cases hf : finish found with
    | error f =>
        rw [hf] at h
        cases h
    | ok a' =>
        rw [hf] at h
        cases h
        exact ⟨rfl, rfl⟩
  unfold readRecord at h
  obtain ⟨isObject, mid, hopen, h⟩ := Parser.run_bind_eq_ok.1 h
  obtain ⟨t, rfl, ht⟩ := Json.takes_token hopen
  dsimp only at ht h
  split at ht
  · cases ht
    rw [if_pos rfl] at h
    obtain ⟨found, mid', hmembers, h⟩ := Parser.run_bind_eq_ok.1 h
    obtain ⟨hfound, rfl⟩ := hfinish h
    obtain ⟨_, rfl, ms, rfl, hI⟩ := Json.takes_members hstart hstep hmembers
    refine ⟨found, hfound, .inl ⟨ms, ?_, hI⟩⟩
    rw [Json.recordAtoms_eq]
    rfl
  · cases ht
    rw [if_neg Bool.false_ne_true] at h
    obtain ⟨found, mid', hfields, h⟩ := Parser.run_bind_eq_ok.1 h
    obtain ⟨u, mid'', hclose, h⟩ := Parser.run_bind_eq_ok.1 h
    obtain ⟨hfound, rfl⟩ := hfinish h
    rw [Json.takes_mark hclose] at hfields
    exact ⟨found, hfound, .inr ⟨mid, rfl, hfields⟩⟩
  · cases ht

end Record

/-! ## §3. Fields. -/

section Fields

variable {α β : Type} {item : AtomParser α} {shape : α → List Atom → Prop} {phrase rest : List Atom}
  {result : Except Fault α} {a : α} {old : Option β}

/-- The value of a known member that was not there before. -/
theorem yields_newField (hold : old = none) (h : Yields item phrase result) :
    Yields (newField old item) (.colon :: phrase) result := by
  subst hold
  show Yields (Json.mark .colon >>= fun _ => item) (.colon :: phrase) result
  exact .token_bind (if_pos rfl) h

theorem takes_newField (h : Takes item shape) {input : List Atom}
    (hrun : (newField old item).run input = .ok (a, rest)) :
    old = none ∧ ∃ phrase, input = .colon :: (phrase ++ rest) ∧ shape a phrase := by
  unfold newField at hrun
  cases old with
  | some b => cases hrun
  | none =>
      obtain ⟨u, mid, hcolon, hvalue⟩ := Parser.run_bind_eq_ok.1 hrun
      obtain ⟨phrase, rfl, hphrase⟩ := h hvalue
      exact ⟨rfl, phrase, Json.takes_mark hcolon, hphrase⟩

theorem yields_strayField (h : Skippable phrase) :
    Yields strayField (.colon :: phrase) (.ok ()) :=
  .token_bind (if_pos rfl) (Json.yields_skipValue h)

/-- A known member puts what its value yields. -/
theorem yields_fieldMember {σ : Type} (hold : old = none) (h : Yields item phrase (.ok a))
    (put : α → σ) :
    Yields (newField old item >>= fun a => pure (put a)) (.colon :: phrase) (.ok (put a)) :=
  (yields_newField hold h).bind_last fun a _ => .pure (put a)

/-- A known member was read. -/
theorem takes_fieldMember {σ : Type} (h : Takes item shape) {put : α → σ} {s : σ}
    {input : List Atom}
    (hrun : (newField old item >>= fun a => pure (put a) : AtomParser σ).run input
      = .ok (s, rest)) :
    old = none ∧ ∃ a phrase, s = put a ∧ shape a phrase ∧ input = .colon :: (phrase ++ rest) := by
  obtain ⟨a, mid, hnew, hput⟩ := Parser.run_bind_eq_ok.1 hrun
  cases hput
  obtain ⟨hold, phrase, rfl, hphrase⟩ := takes_newField h hnew
  exact ⟨hold, a, phrase, rfl, hphrase, rfl⟩

/-- A member that means nothing changes nothing. -/
theorem yields_strayMember {σ : Type} {s : σ} (h : Skippable phrase) :
    Yields (strayField >>= fun _ => pure s) (.colon :: phrase) (.ok s) :=
  (yields_strayField h).bind_last fun _ _ => .pure s

/-- A member that means nothing was read. -/
theorem takes_strayMember {σ : Type} {s s' : σ} {input : List Atom}
    (hrun : (strayField >>= fun _ => pure s : AtomParser σ).run input = .ok (s', rest)) :
    s' = s ∧ ∃ phrase, input = .colon :: (phrase ++ rest) ∧ Skippable phrase := by
  obtain ⟨u, mid, hstray, hpure⟩ := Parser.run_bind_eq_ok.1 hrun
  cases hpure
  obtain ⟨u', mid', hcolon, hvalue⟩ := Parser.run_bind_eq_ok.1 hstray
  obtain ⟨phrase, rfl, hphrase⟩ := Json.takes_skipValue hvalue
  exact ⟨rfl, phrase, Json.takes_mark hcolon, hphrase⟩

/-- The first field is there unless the list ends. -/
theorem run_nextItem_first {input : List Atom} (h : ∀ t ∈ input.head?, t ≠ .closeBracket) :
    (Json.nextItem true item).run input
      = (item >>= fun a => pure (some a) : AtomParser (Option α)).run input := by
  have hahead : (Parser.ahead (· = .closeBracket) : AtomParser Bool).run input
      = .ok (false, input) := by
    cases input with
    | nil => rfl
    | cons t ts =>
        show Except.ok (decide (t = Atom.closeBracket), t :: ts) = _
        rw [decide_eq_false (h t rfl)]
  unfold Json.nextItem
  rw [Parser.run_bind, hahead]
  rfl

/-- The next field stands behind a comma. -/
theorem run_nextItem_next (item : AtomParser α) (input : List Atom) :
    (Json.nextItem false item).run (.comma :: input)
      = (item >>= fun a => pure (some a) : AtomParser (Option α)).run input :=
  rfl

theorem yields_some (h : Yields item phrase result) :
    Yields (item >>= fun a => pure (some a)) phrase (result.map some) := by
  have hsome : Yields (item >>= fun a => pure (some a)) phrase
      (result >>= fun a => .ok (some a)) := h.bind_last fun a _ => .pure (some a)
  cases result <;> exact hsome

theorem head_ne_of_opensValue (h : OpensValue phrase) (rest : List Atom) :
    ∀ t ∈ (phrase ++ rest).head?, t ≠ .closeBracket := by
  obtain ⟨t, ts, rfl, ht⟩ := h
  intro t' ht'
  cases ht'
  exact ht

/-- A field that must be there and comes first. -/
theorem yields_dueItem_first (h : Yields item phrase (.ok a)) (hopens : OpensValue phrase) :
    Yields (Json.dueItem true item) phrase (.ok a) := by
  intro rest
  unfold Json.dueItem
  rw [Parser.run_bind, run_nextItem_first (head_ne_of_opensValue hopens rest), yields_some h]
  rfl

/-- A field that must be there, behind another. -/
theorem yields_dueItem_next (h : Yields item phrase (.ok a)) :
    Yields (Json.dueItem false item) (.comma :: phrase) (.ok a) := by
  intro rest
  unfold Json.dueItem
  rw [List.cons_append, Parser.run_bind, run_nextItem_next, yields_some h]
  rfl

/-- Which field was read, if any. -/
theorem takes_nextItem (h : Takes item shape) {isFirst : Bool} {input : List Atom} {a? : Option α}
    (hrun : (Json.nextItem isFirst item).run input = .ok (a?, rest)) :
    (a? = none ∧ input = rest)
      ∨ ∃ a phrase, a? = some a ∧ shape a phrase
        ∧ input = (if isFirst then [] else [.comma]) ++ (phrase ++ rest) := by
  have hitem : ∀ {mid}, (item >>= fun a => pure (some a) : AtomParser (Option α)).run mid
      = .ok (a?, rest) → ∃ a phrase, a? = some a ∧ shape a phrase ∧ mid = phrase ++ rest := by
    intro mid hmid
    obtain ⟨a, left, hone, hpure⟩ := Parser.run_bind_eq_ok.1 hmid
    cases hpure
    obtain ⟨phrase, rfl, hphrase⟩ := h hone
    exact ⟨a, phrase, rfl, hphrase, rfl⟩
  unfold Json.nextItem at hrun
  obtain ⟨closes, mid, hahead, hrun⟩ := Parser.run_bind_eq_ok.1 hrun
  obtain rfl : input = mid := by
    cases hahead
    rfl
  cases closes with
  | true =>
      cases hrun
      exact .inl ⟨rfl, rfl⟩
  | false =>
      right
      cases isFirst with
      | true =>
          obtain ⟨a, phrase, rfl, hphrase, rfl⟩ := hitem hrun
          exact ⟨a, phrase, rfl, hphrase, rfl⟩
      | false =>
          obtain ⟨u, mid, hcomma, hrun⟩ := Parser.run_bind_eq_ok.1 hrun
          obtain ⟨a, phrase, rfl, hphrase, rfl⟩ := hitem hrun
          exact ⟨a, phrase, rfl, hphrase, Json.takes_mark hcomma⟩

theorem takes_dueItem (h : Takes item shape) {isFirst : Bool} {input : List Atom}
    (hrun : (Json.dueItem isFirst item).run input = .ok (a, rest)) :
    ∃ phrase, shape a phrase ∧ input = (if isFirst then [] else [.comma]) ++ (phrase ++ rest) := by
  unfold Json.dueItem at hrun
  obtain ⟨a?, mid, hnext, hrun⟩ := Parser.run_bind_eq_ok.1 hrun
  rcases takes_nextItem h hnext with ⟨rfl, -⟩ | ⟨a', phrase, rfl, hphrase, hinput⟩
  · cases hrun
  · cases hrun
    exact ⟨phrase, hphrase, hinput⟩

end Fields

/-! ## §4. Fields that may be missing. -/

section Missing

variable {α : Type} {item : AtomParser α} {shape : α → List Atom → Prop}
  {check : α → Except Fault α} {a? : Option α} {phrases : List (List Atom)}

/-- What is read of a field that may be missing. -/
def checkedField (check : α → Except Fault α) : Option α → Except Fault (Option α)
  | none => .ok none
  | some a => (check a).map some

/-- The last field of a list of fields, behind another. -/
theorem yieldsInside_nextItem_next
    (h : ∀ a phrase, shape a phrase → Yields item phrase (check a))
    (hphrases : List.Forall₂ shape a?.toList phrases) :
    YieldsInside (Json.nextItem false item) (phrases.flatMap fun v => .comma :: v)
      (checkedField check a?) := by
  intro rest
  cases a? with
  | none =>
      cases hphrases
      rfl
  | some a =>
      obtain ⟨phrase, _, hphrase, hnil, rfl⟩ := List.forall₂_cons_left_iff.1 hphrases
      cases hnil
      rw [List.flatMap_singleton, List.cons_append, run_nextItem_next]
      exact yields_some (h a phrase hphrase) (.closeBracket :: rest)

/-- The only field of a list of fields. -/
theorem yieldsInside_nextItem_first
    (h : ∀ a phrase, shape a phrase → Yields item phrase (check a))
    (hopens : ∀ a phrase, shape a phrase → OpensValue phrase)
    (hphrases : List.Forall₂ shape a?.toList phrases) :
    YieldsInside (Json.nextItem true item) ([.comma].intercalate phrases)
      (checkedField check a?) := by
  intro rest
  cases a? with
  | none =>
      cases hphrases
      rfl
  | some a =>
      obtain ⟨phrase, _, hphrase, hnil, rfl⟩ := List.forall₂_cons_left_iff.1 hphrases
      cases hnil
      rw [List.intercalate_singleton,
        run_nextItem_first (head_ne_of_opensValue (hopens a phrase hphrase) _)]
      exact yields_some (h a phrase hphrase) (.closeBracket :: rest)

/-- What was read of the last field, behind another. -/
theorem takes_nextItem_next (h : Takes item shape) {input rest : List Atom}
    (hrun : (Json.nextItem false item).run input = .ok (a?, rest)) :
    ∃ phrases, List.Forall₂ shape a?.toList phrases
      ∧ input = phrases.flatMap (fun v => .comma :: v) ++ rest := by
  rcases takes_nextItem h hrun with ⟨rfl, rfl⟩ | ⟨a, phrase, rfl, hphrase, rfl⟩
  · exact ⟨[], .nil, rfl⟩
  · exact ⟨[phrase], .cons hphrase .nil, by simp⟩

/-- What was read of the only field. -/
theorem takes_nextItem_first (h : Takes item shape) {input rest : List Atom}
    (hrun : (Json.nextItem true item).run input = .ok (a?, rest)) :
    ∃ phrases, List.Forall₂ shape a?.toList phrases
      ∧ input = [.comma].intercalate phrases ++ rest := by
  rcases takes_nextItem h hrun with ⟨rfl, rfl⟩ | ⟨a, phrase, rfl, hphrase, rfl⟩
  · exact ⟨[], .nil, rfl⟩
  · exact ⟨[phrase], .cons hphrase .nil, by simp⟩

end Missing

/-! ## §5. Rows. -/

theorem opensValue_string {s : String} {phrase : List Atom} (h : IsString s phrase) :
    OpensValue phrase :=
  ⟨.string s, [], h, nofun⟩

theorem opensValue_list {α : Type} {shape : α → List Atom → Prop} {as : List α}
    {phrase : List Atom} (h : ListOf shape as phrase) : OpensValue phrase := by
  obtain ⟨values, rfl, -⟩ := h
  exact Json.opensValue_listAtoms values

theorem yields_strings {names : List String} {phrase : List Atom}
    (h : ListOf IsString names phrase) : Yields (Json.list Json.string) phrase (.ok names) :=
  Json.yields_list_self (fun _ _ => Json.yields_string) (fun _ _ => opensValue_string) h

theorem yields_cell {cell : Cell} {phrase : List Atom} (h : IsCell cell phrase) :
    Yields readCell phrase (.ok cell) := by
  cases h with
  | null => exact .token rfl
  | text s => exact .token rfl

theorem yields_rows {rows : List Row} {phrase : List Atom}
    (h : ListOf (ListOf IsCell) rows phrase) : Yields (Json.list readRow) phrase (.ok rows) := by
  have hopens : ∀ cell phrase, IsCell cell phrase → OpensValue phrase := by
    intro cell phrase h
    cases h with
    | null => exact ⟨_, _, rfl, nofun⟩
    | text s => exact ⟨_, _, rfl, nofun⟩
  refine Json.yields_list_self (fun row phrase hrow => ?_) (fun _ _ => opensValue_list) h
  exact Json.yields_list_self (fun _ _ => yields_cell) hopens hrow

theorem takes_strings : Takes (Json.list Json.string) (ListOf IsString) :=
  Json.takes_list Json.takes_string

theorem takes_rows : Takes (Json.list readRow) (ListOf (ListOf IsCell)) := by
  refine Json.takes_list (Json.takes_list fun input rest cell h => ?_)
  obtain ⟨t, rfl, ht⟩ := Json.takes_token h
  refine ⟨[t], rfl, ?_⟩
  split at ht
  · cases ht
    exact .null
  · cases ht
    exact .text _
  · cases ht

/-! ## §6. Written catalogs have the shape. -/

/-- The text is of the shape of the value. -/
def Writes {α : Type} (shape : α → List Atom → Prop) (a : α) (text : List Char) : Prop :=
  ∃ phrase, Spells text phrase ∧ shape a phrase

/-- A written list has the shape of the list if its items have theirs. -/
theorem writes_list {α : Type} {shape : α → List Atom → Prop} {write : α → List Char}
    (h : ∀ a, Writes shape a (write a)) (as : List α) :
    Writes (ListOf shape) as (renderList (as.map write)) := by
  have hitems : ∃ phrases, List.Forall₂ Spells (as.map write) phrases
      ∧ List.Forall₂ shape as phrases := by
    induction as with
    | nil => exact ⟨[], .nil, .nil⟩
    | cons a as ih =>
        obtain ⟨phrase, hspells, hshape⟩ := h a
        obtain ⟨phrases, hrest, hshapes⟩ := ih
        exact ⟨phrase :: phrases, .cons hspells hrest, .cons hshape hshapes⟩
  obtain ⟨phrases, hspells, hshapes⟩ := hitems
  have hopen : Spells ['['] [.openBracket] := spells_mark rfl (by decide)
  have hclose : Spells [']'] [.closeBracket] := spells_mark rfl (by decide)
  have hcomma : Spells [','] [.comma] := spells_mark rfl (by decide)
  exact ⟨listAtoms phrases, hopen.append ((Json.spells_intercalate hcomma hspells).append hclose),
    phrases, rfl, hshapes⟩

/-- A written object is its members. -/
theorem spells_object {texts : List (String × List Char)} {members : List (String × List Atom)}
    (h : List.Forall₂ (fun m m' => m.1 = m'.1 ∧ Spells m.2 m'.2) texts members) :
    Spells (renderObject texts) (recordAtoms members) := by
  have hmembers : List.Forall₂ Spells (texts.map fun m => Json.quoted m.1.toList ++ ':' :: m.2)
      (members.map fun m => Json.memberAtoms (.string m.1, m.2)) := by
    rw [List.forall₂_map_left_iff, List.forall₂_map_right_iff]
    refine h.imp fun m m' hm => ?_
    obtain ⟨hkey, hvalue⟩ := hm
    have hcolon : Spells [':'] [.colon] := spells_mark rfl (by decide)
    rw [hkey]
    exact (Json.spells_quoted m'.1).append (hcolon.append hvalue)
  have hopen : Spells ['\x7b'] [.openBrace] := spells_mark rfl (by decide)
  have hclose : Spells ['\x7d'] [.closeBrace] := spells_mark rfl (by decide)
  have hcomma : Spells [','] [.comma] := spells_mark rfl (by decide)
  rw [Json.recordAtoms_eq]
  exact hopen.append ((Json.spells_intercalate hcomma hmembers).append hclose)

theorem writes_string (s : String) : Writes IsString s (renderString s) :=
  ⟨[.string s], Json.spells_quoted s, rfl⟩

theorem writes_cell (cell : Cell) : Writes IsCell cell (renderCell cell) := by
  cases cell with
  | null => exact ⟨[.null], Json.spells_null, .null⟩
  | text s => exact ⟨[.string s], Json.spells_quoted s, .text s⟩

theorem writes_table (t : Table) : Writes IsTable t (renderTable t) := by
  obtain ⟨name, hname, hisName⟩ := writes_string t.name
  obtain ⟨columns, hcolumns, hareColumns⟩ := writes_list writes_string t.columns
  obtain ⟨rows, hrows, hareRows⟩ := writes_list (writes_list writes_cell) t.rows
  refine ⟨recordAtoms [("name", name), ("columns", columns), ("rows", rows)],
    spells_object (.cons ⟨rfl, hname⟩ (.cons ⟨rfl, hcolumns⟩ (.cons ⟨rfl, hrows⟩ .nil))), ?_⟩
  exact .object (.cons hisName .nil) (.cons hareColumns .nil)
    (show Field _ _ _ (some t.rows) from .cons hareRows .nil) rfl (by simp [Strays])

theorem writes_database (db : Database) : Writes IsDatabase db (renderDatabase db) := by
  obtain ⟨name, hname, hisName⟩ := writes_string db.name
  obtain ⟨tables, htables, hareTables⟩ := writes_list writes_table db.tables
  refine ⟨recordAtoms [("name", name), ("tables", tables)],
    spells_object (.cons ⟨rfl, hname⟩ (.cons ⟨rfl, htables⟩ .nil)), ?_⟩
  exact .object (.cons hisName .nil)
    (show Field _ _ _ (some db.tables) from .cons hareTables .nil) rfl (by simp [Strays])

/-- Every catalog has a text of its shape: the one that is written for it. -/
theorem isCatalog_render (c : Catalog) : IsCatalog c (Json.atoms (render c).toList) := by
  obtain ⟨databases, hdatabases, hareDatabases⟩ := writes_list writes_database c.databases
  have hspells : Spells (renderCatalog c) (recordAtoms [("databases", databases)]) :=
    spells_object (.cons ⟨rfl, hdatabases⟩ .nil)
  unfold render
  rw [String.toList_ofList, hspells.atoms_eq]
  exact .object (show Field _ _ _ (some c.databases) from .cons hareDatabases .nil) rfl
    (by simp [Strays])

end SmallSql.Snapshot
