/-
  SmallSql.Proofs.Statement.Formed
  ────────────────────────────────
  What the form of a statement makes sure of before any look at a catalog: CREATE TABLE has at least
  one column and no column twice.
-/
import SmallSql.Proofs.Parsing
import SmallSql.Statement.Reading

namespace SmallSql.Statement

open SmallSql.Parser (Ensures)

/-- A column list that a table can have. -/
def IsColumnList (columns : List String) : Prop := columns ≠ [] ∧ columns.Nodup

/-- A statement that makes a table gives it a column list. -/
def Formed : Statement → Prop
  | createTable _ columns => IsColumnList columns
  | _ => True

/-- A new name behind distinct ones. -/
theorem nodup_concat {columns : List String} {column : String} (h : columns.Nodup)
    (hnew : column ∉ columns) : (columns ++ [column]).Nodup := by
  rw [List.nodup_append]
  refine ⟨h, by simp, ?_⟩
  intro a ha b hb hab
  rw [List.mem_singleton] at hb
  exact hnew (hb ▸ hab ▸ ha)

/-- Of distinct names, none stands among those in front of it. -/
theorem not_mem_of_nodup {seen more : List String} {column : String}
    (h : (seen ++ column :: more).Nodup) : column ∉ seen := by
  intro hm
  exact (List.nodup_append.1 h).2.2 column hm column List.mem_cons_self rfl

/-- A column definition adds a new name. -/
theorem columnDefinition_ensures {columns : List String} (h : columns.Nodup) :
    Ensures (columnDefinition columns) IsColumnList := by
  unfold columnDefinition
  refine .bind fun column => ?_
  refine .ite (fun _ => .fail_bind) fun hc => .bind fun _ => .pure ?_
  refine ⟨List.append_ne_nil_of_right_ne_nil _ (List.cons_ne_nil _ _), nodup_concat h ?_⟩
  rwa [← List.contains_iff_mem]

theorem readCreateTable_ensures : Ensures readCreateTable Formed := by
  unfold readCreateTable
  refine .bind fun _ => .bind fun _ => .bind fun name => .bind fun _ => ?_
  have hcolumns : Ensures (Parser.separatedFrom (isToken .comma) columnDefinition [])
      IsColumnList :=
    .separatedFrom (I := List.Nodup) (fun _ h => columnDefinition_ensures h) (fun _ h => h.2)
      List.nodup_nil
  refine .bind_of hcolumns fun columns h => ?_
  exact .bind fun _ => .bind fun _ => .pure h

/-- Every reader gives statements of its own command. -/
theorem reader_ensures_command (k : Command) : Ensures (reader k) fun st => st.command = k := by
  cases k with
  | select =>
      unfold reader readSelect
      exact .bind fun _ => .bind fun _ => .bind fun _ => .bind fun _ => .bind fun _ => .pure rfl
  | insert =>
      unfold reader readInsert
      exact .bind fun _ => .bind fun _ => .bind fun _ => .bind fun _ => .bind fun _ =>
        .bind fun _ => .bind fun _ => .bind fun _ => .bind fun _ => .pure rfl
  | update =>
      unfold reader readUpdate
      exact .bind fun _ => .bind fun _ => .bind fun _ => .bind fun _ => .bind fun _ =>
        .bind fun _ => .ite (fun _ => .fail_bind) fun _ => .bind fun _ => .pure rfl
  | delete =>
      unfold reader readDelete
      exact .bind fun _ => .bind fun _ => .bind fun _ => .bind fun _ => .bind fun _ =>
        .bind fun _ => .pure rfl
  | createTable =>
      unfold reader readCreateTable
      exact .bind fun _ => .bind fun _ => .bind fun _ => .bind fun _ => .bind fun _ =>
        .bind fun _ => .bind fun _ => .pure rfl
  | createDatabase | dropDatabase | dropTable =>
      exact .bind fun _ => .bind fun _ => .bind fun _ => .bind fun _ => .pure rfl
  | use => exact .bind fun _ => .bind fun _ => .bind fun _ => .pure rfl
  | showDatabases | showTables =>
      exact .bind fun _ => .bind fun _ => .bind fun _ => .pure rfl

/-- Every statement that a text writes has a form that a table can be made of. -/
theorem formed_of_ofText {k : Command} {cs : List Char} {statement : Statement}
    (h : ofText k cs = .ok statement) : statement.Formed := by
  have hread : read k cs = .ok statement := by
    unfold ofText at h
    cases hr : read k cs with
    | error fault => rw [hr] at h; cases h
    | ok statement' => rw [hr] at h; cases h; rfl
  unfold read at hread
  split at hread
  · cases hread
  · next ls tail hl =>
    split at hread
    · cases hread
    · next statement' rest hr =>
      cases hread
      have hcommand := reader_ensures_command k hr
      by_cases hk : k = .createTable
      · subst hk
        exact readCreateTable_ensures hr
      · cases statement with
        | createTable name columns => exact absurd hcommand.symm hk
        | select | insert | update | delete | createDatabase | use | showDatabases | showTables
          | dropDatabase | dropTable => trivial

end SmallSql.Statement
