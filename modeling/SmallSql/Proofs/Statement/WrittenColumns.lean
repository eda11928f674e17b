/-
  SmallSql.Proofs.Statement.WrittenColumns
  ────────────────────────────────
  The column names that stand in a text, against the columns of its table.  Where a column can be
  named follows from the form of the text alone:

      SELECT   a, b    FROM t                   INSERT INTO t ( a, b ) VALUES …
      DELETE FROM t WHERE   a   = …             UPDATE t SET  a  = …,  b  = … WHERE  c  = …

  The checks are made on the statement that is read from the text.  It has every name that the text
  has, with one exception: a star in the list of a SELECT takes the place of the whole list, and the
  names beside it are not looked at again.
-/
import SmallSql.Proofs.Statement.Derivation
import SmallSql.Proofs.Statement.Refusal
import SmallSql.Proofs.Statement.Repetition

namespace SmallSql

namespace Grammar

/-! ## §1. Where columns are written. -/

/-- The lexemes are of this command on this table, and these entries stand where columns can be
named, in their order; `none` is a star. -/
inductive WritesColumns : Command → String → List (Option String) → Form
  | select {table : String} {entries : List (Option String)} {ls : List Lexeme}
      (h : Sequence [Word .select, Listed Entry entries, Word .from, Name table,
        Optionally (Is .semicolon)] ls) : WritesColumns .select table entries ls
  | insert {table : String} {columns : List String} {rows : List (List Cell)} {ls : List Lexeme}
      (h : Sequence [Word .insert, Word .into, Name table, Is .leftParen, Listed Name columns,
        Is .rightParen, Word .values, Listed Tuple rows, Is .semicolon] ls) :
      WritesColumns .insert table (columns.map some) ls
  | update {table column : String} {assignments : List (String × Cell)} {value : Cell}
      {ls : List Lexeme}
      (h : Sequence [Word .update, Name table, Word .set, Listed Assigned assignments,
        Word .where, Compared ⟨column, .eq, value⟩, Is .semicolon] ls) :
      WritesColumns .update table ((assignments.map (·.1) ++ [column]).map some) ls
  | delete {table : String} {condition : Condition} {ls : List Lexeme}
      (h : Sequence [Word .delete, Word .from, Name table, Word .where, Compared condition,
        Is .semicolon] ls) : WritesColumns .delete table [some condition.column] ls

variable {k : Command} {table : String} {entries : List (Option String)} {statement : Statement}
  {ls : List Lexeme}

/-- A statement of one of the four commands writes columns, and names its target. -/
theorem Derives.exists_writesColumns (h : Derives k statement ls)
    (hk : k ∈ [Command.select, .insert, .update, .delete]) :
    ∃ table entries, WritesColumns k table entries ls := by
  obtain ⟨forms, hrule, hforms⟩ := h
  cases hrule with
  | selectAll => exact ⟨_, _, .select hforms⟩
  | selectColumns => exact ⟨_, _, .select hforms⟩
  | insert => exact ⟨_, _, .insert hforms⟩
  | @update table assignments condition heq =>
      obtain ⟨column, comparison, value⟩ := condition
      obtain rfl : comparison = .eq := heq
      exact ⟨_, _, .update hforms⟩
  | delete => exact ⟨_, _, .delete hforms⟩
  | createTable | createDatabase | use | showDatabases | showTables | dropDatabase | dropTable =>
      exact absurd hk (by decide)

/-- Lexemes that write columns are a statement on the table: of all columns if a star is among the
entries, and else of the names that they are. -/
theorem WritesColumns.exists_derives (h : WritesColumns k table entries ls) :
    ∃ statement, Derives k statement ls ∧ statement.targetTable? = some table
      ∧ (none ∉ entries → statement.namedColumns.map some = entries)
      ∧ (none ∈ entries → statement = .select table .all) := by
  have hnone : ∀ (names : List String) {st : Statement},
      none ∈ names.map some → st = .select table .all := by
    intro names st hmem
    obtain ⟨name, -, hname⟩ := List.mem_map.1 hmem
    cases hname
  cases h with
  | select hforms =>
      by_cases hstar : none ∈ entries
      · exact ⟨_, ⟨_, .selectAll hstar, hforms⟩, rfl, fun hno => absurd hstar hno, fun _ => rfl⟩
      · obtain ⟨names, rfl⟩ := Statement.exists_names hstar
        exact ⟨_, ⟨_, .selectColumns, hforms⟩, rfl, fun _ => rfl, fun hmem => absurd hmem hstar⟩
  | insert hforms => exact ⟨_, ⟨_, .insert, hforms⟩, rfl, fun _ => rfl, hnone _⟩
  | update hforms => exact ⟨_, ⟨_, .update rfl, hforms⟩, rfl, fun _ => rfl, hnone _⟩
  | delete hforms => exact ⟨_, ⟨_, .delete, hforms⟩, rfl, fun _ => rfl, hnone [_]⟩

end Grammar

open Grammar

namespace Statement

variable {k : Command} {statement : Statement} {sql : String} {ls : List Lexeme} {tail : List Char}

/-! ## §2. Texts and their checks. -/

/-- A text writes the statement of the command that it announces. -/
theorem written_of_derives (hk : Command.ofText sql.toList = .ok k)
    (hls : lexemes sql.toList = .ok (ls, tail)) (h : Derives k statement ls) :
    written sql = .ok statement := by
  unfold written
  rw [hk, ok_bind]
  exact (ofText_eq_ok_iff_derives k _ _).2 ⟨ls, tail, hls, h⟩

/-- What is carried out is announced and derived. -/
theorem exists_derives_of_ofText {c : Catalog} {s : Selection} {e : Effect}
    (h : Effect.ofText sql c s = .ok e) :
    Command.ofText sql.toList = .ok e.reply.command
      ∧ ∃ statement ls tail, lexemes sql.toList = .ok (ls, tail)
        ∧ Derives e.reply.command statement ls ∧ statement.run c s = .ok e := by
  rw [ofText_eq_run] at h
  obtain ⟨statement, hwritten, hrun⟩ := bind_eq_ok.1 h
  obtain ⟨k, hk, hread⟩ := bind_eq_ok.1 hwritten
  obtain ⟨ls, tail, hls, hderives⟩ := (ofText_eq_ok_iff_derives k _ _).1 hread
  obtain ⟨forms, hrule, -⟩ := id hderives
  obtain rfl : e.reply.command = k := (command_of_run hrun).trans hrule.command_eq
  exact ⟨hk, statement, ls, tail, hls, hderives, hrun⟩

/-- A statement that names something else than the columns of its target is refused with all such
names. -/
theorem run_of_unknown {c : Catalog} {s : Selection} {table name : String} {db : Database}
    {t : Table} (htarget : statement.targetTable? = some table) (hdb : s.current? c = some db)
    (ht : db.table? table = some t) (hname : name ∈ statement.namedColumns)
    (hnot : name ∉ t.columns) :
    statement.run c s = .error (.unknownColumn (t.unknown statement.namedColumns)) := by
  have hrequire : t.require statement.namedColumns
      = .error (.unknownColumn (t.unknown statement.namedColumns)) := by
    unfold Table.require
    exact if_neg fun hnone => hnot (Table.unknown_isEmpty_iff.1 hnone name hname)
  rw [run_eq_target htarget]
  unfold target
  rw [selectedDatabase_eq_ok.2 hdb, ok_bind, tableIn_eq_ok.2 ht, ok_bind, hrequire]
  rfl

/-- What a text that writes columns has to do with the columns of its table. -/
structure ChecksWrittenColumns (sql : String) (c : Catalog) (s : Selection) : Prop where
  /-- If the text is carried out, it has places where it names columns. -/
  written : ∀ e, Effect.ofText sql c s = .ok e →
    e.reply.command ∈ [Command.select, .insert, .update, .delete] →
    ∃ ls tail table entries, lexemes sql.toList = .ok (ls, tail)
      ∧ WritesColumns e.reply.command table entries ls
  /-- Every name there is a column of the table in the selected database, unless there is a star. -/
  exist : ∀ e ls tail table entries, Effect.ofText sql c s = .ok e →
    lexemes sql.toList = .ok (ls, tail) → WritesColumns e.reply.command table entries ls →
    ∃ db t, s.current? c = some db ∧ db.table? table = some t
      ∧ (none ∉ entries → ∀ name, some name ∈ entries → name ∈ t.columns)
  /-- If it announces the command that it has the form of, and database and table are there, a name
  that is no column is refused, with all such names. -/
  refused : ∀ k ls tail table entries db t name, Command.ofText sql.toList = .ok k →
    lexemes sql.toList = .ok (ls, tail) → WritesColumns k table entries ls →
    s.current? c = some db → db.table? table = some t →
    none ∉ entries → some name ∈ entries → name ∉ t.columns →
    ∃ unknown, Effect.ofText sql c s = .error (.unknownColumn unknown)
      ∧ ListsUnknown t.columns (entries.filterMap id) unknown
  /-- With a star there, the names beside it make no difference. -/
  starred : ∀ k ls tail table entries, Command.ofText sql.toList = .ok k →
    lexemes sql.toList = .ok (ls, tail) → WritesColumns k table entries ls → none ∈ entries →
    Effect.ofText sql c s = (select table .all).run c s

/-- **Every column that an accepted text names exists, unless the text shows all columns by a
star.** -/
theorem checksWrittenColumns (sql : String) (c : Catalog) (s : Selection) :
    ChecksWrittenColumns sql c s where
  written e h hcommand := by
    obtain ⟨-, statement, ls, tail, hls, hderives, -⟩ := exists_derives_of_ofText h
    obtain ⟨table, entries, hwrites⟩ := hderives.exists_writesColumns hcommand
    exact ⟨ls, tail, table, entries, hls, hwrites⟩
  exist e ls tail table entries h hls hwrites := by
    obtain ⟨hk, -⟩ := exists_derives_of_ofText h
    obtain ⟨statement, hderives, htarget, hnames, -⟩ := hwrites.exists_derives
    rw [ofText_eq_run, written_of_derives hk hls hderives, ok_bind, run_eq_target htarget] at h
    obtain ⟨t, ht, -⟩ := bind_eq_ok.1 h
    obtain ⟨db, hdb, htable, hcolumns, -⟩ := target_eq_ok ht
    refine ⟨db, t, hdb, htable, fun hstar name hname => hcolumns name ?_⟩
    rw [← hnames hstar] at hname
    exact (List.mem_map_of_injective (Option.some_injective String)).1 hname
  refused k ls tail table entries db t name hk hls hwrites hdb htable hstar hname hnot := by
    obtain ⟨statement, hderives, htarget, hnames, -⟩ := hwrites.exists_derives
    obtain rfl := hnames hstar
    have hnamed : name ∈ statement.namedColumns :=
      (List.mem_map_of_injective (Option.some_injective String)).1 hname
    refine ⟨t.unknown statement.namedColumns, ?_, ?_⟩
    · rw [ofText_eq_run, written_of_derives hk hls hderives, ok_bind]
      exact run_of_unknown htarget hdb htable hnamed hnot
    · rw [List.filterMap_map, Function.id_comp, List.filterMap_some]
      exact t.listsUnknown statement.namedColumns
  starred k ls tail table entries hk hls hwrites hstar := by
    obtain ⟨statement, hderives, -, -, hall⟩ := hwrites.exists_derives
    rw [ofText_eq_run, written_of_derives hk hls hderives, ok_bind, hall hstar]

/-- A name that is no column, beside a star: the text is carried out and shows all columns. -/
theorem star_hides_unknown :
    (∃ ls tail, lexemes "SELECT nosuch, * FROM notes;".toList = .ok (ls, tail)
      ∧ WritesColumns .select "notes" [some "nosuch", none] ls)
    ∧ (Selection.of "shop").current? (State.noted []).catalog
      = some ⟨"shop", [⟨"notes", ["id", "note"], []⟩]⟩
    ∧ "nosuch" ∉ ["id", "note"]
    ∧ Effect.ofText "SELECT nosuch, * FROM notes;" (State.noted []).catalog (.of "shop")
      = .ok (selectEffect "notes" .all ⟨"notes", ["id", "note"], []⟩)
    ∧ Effect.ofText "SELECT nosuch FROM notes;" (State.noted []).catalog (.of "shop")
      = .error (.unknownColumn ["nosuch"]) := by
  refine ⟨?_, by decide +kernel, by decide, by decide +kernel, by decide +kernel⟩
  have hls : lexemes "SELECT nosuch, * FROM notes;".toList
      = .ok ([⟨[], "SELECT".toList, .keyword .select⟩,
        ⟨[' '], "nosuch".toList, .identifier "nosuch"⟩, ⟨[], [','], .comma⟩, ⟨[' '], ['*'], .star⟩,
        ⟨[' '], "FROM".toList, .keyword .from⟩, ⟨[' '], "notes".toList, .identifier "notes"⟩,
        ⟨[], [';'], .semicolon⟩], []) := by
    decide +kernel
  refine ⟨_, _, hls, .select ⟨[_], _, rfl, rfl, [_, _, _], _, rfl, ?_, [_], _, rfl, rfl, [_], _,
    rfl, rfl, [_], [], rfl, .inr rfl, rfl⟩⟩
  show Listed Entry [some "nosuch", none] ([_] ++ _ :: [_])
  exact .more rfl rfl (.last rfl)

end Statement

end SmallSql
