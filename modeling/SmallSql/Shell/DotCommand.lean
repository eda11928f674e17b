/-
  SmallSql.Shell.DotCommand
  ────────────────────────────────
  The commands of the shell itself, which begin with a point, and the reference of the SQL commands
  that one of them shows.
-/
import SmallSql.Command

namespace SmallSql.Shell

/-- The commands of the shell. -/
inductive DotCommand where
  | help
  | commands
  | history
  | status
  | clear
  | exit
deriving DecidableEq, Repr

namespace DotCommand

/-- All commands, in the order in which they are listed. -/
def all : List DotCommand := [help, commands, history, status, clear, exit]

/-- The command as it is typed in full. -/
def name : DotCommand → String
  | help => ".help"
  | commands => ".commands"
  | history => ".history"
  | status => ".status"
  | clear => ".clear"
  | exit => ".exit"

/-- Other ways to type the command. -/
def shortNames : DotCommand → List String
  | help => [".h", ".?"]
  | exit => [".quit", ".q"]
  | _ => []

def description : DotCommand → String
  | help => "Show this help"
  | commands => "List the supported SQL commands"
  | history => "Show statements run in this session"
  | status => "Show the selected database and storage"
  | clear => "Clear the screen"
  | exit => "Exit the shell"

/-- The command that the first word of a text names. -/
def ofText? (cs : List Char) : Option DotCommand :=
  let word := String.ofList (Text.firstWord cs)
  all.find? (fun d => d.name == word || d.shortNames.contains word)

end DotCommand

/-- A statement that shows how a command is used. -/
def sampleOf : Command → String
  | .createDatabase => "CREATE DATABASE my_db;"
  | .use => "USE my_db;"
  | .createTable => "CREATE TABLE users (name, email, age);"
  | .insert => "INSERT INTO users (name, email) VALUES ('John', 'john@example.com');"
  | .select => "SELECT * FROM users;"
  | .update => "UPDATE users SET name = 'Jane' WHERE email = 'john@example.com';"
  | .delete => "DELETE FROM users WHERE name = 'John';"
  | .showDatabases => "SHOW DATABASES;"
  | .showTables => "SHOW TABLES;"
  | .dropDatabase => "DROP DATABASE my_db;"
  | .dropTable => "DROP TABLE users;"

/-- What a command does. -/
def purpose : Command → String
  | .createDatabase => "Creates a new database"
  | .use => "Switches to specified database"
  | .createTable => "Creates a new table with specified columns"
  | .insert => "Inserts new records into a table"
  | .select => "Retrieves data from a table"
  | .update => "Modifies existing records"
  | .delete => "Removes records from a table"
  | .showDatabases => "Lists all databases"
  | .showTables => "Lists all tables in current database"
  | .dropDatabase => "Deletes a database"
  | .dropTable => "Deletes a table"

end SmallSql.Shell
