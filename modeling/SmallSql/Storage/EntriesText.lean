/-
  SmallSql.Storage.EntriesText
  ────────────────────────────────
  The written form of entries: a JSON object with one member on a line, in the order of the keys.
  Any JSON object whose values are strings can be read back; of several members with one key the
  last counts.  A blank text stands for no entries.
-/
import SmallSql.Json.Reading
import SmallSql.Storage.Entries
import SmallSql.Text.Blank

namespace SmallSql.Entries

/-- The line of one entry, without the comma behind it. -/
def line (p : String × String) : List Char :=
  [' ', ' '] ++ Json.quoted p.1.toList ++ [':', ' '] ++ Json.quoted p.2.toList

/-- The written form of entries. -/
def render (e : Entries) : String :=
  match e.pairs with
  | [] => "\x7b\x7d"
  | pairs => String.ofList
      (['\x7b', '\n'] ++ [',', '\n'].intercalate (pairs.map line) ++ ['\n', '\x7d'])

/-- Reads the value of a member whose key was read, and puts it under the key. -/
def readMember (e : Entries) (key : String) : Json.AtomParser Entries := do
  Json.mark .colon
  return e.put key (← Json.string)

/-- An object whose values are strings. -/
def reader : Json.AtomParser Entries := do
  Json.opening .openBrace
  Json.members .empty readMember

/-- The entries that a text holds. -/
def parse (text : String) : Except Json.Fault Entries :=
  if Text.allBlank text.toList then .ok .empty else Json.readText reader text.toList

end SmallSql.Entries
