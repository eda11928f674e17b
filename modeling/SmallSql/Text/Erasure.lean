/-
  SmallSql.Text.Erasure
  ────────────────────────────────
  Lines as they are typed without an editor: a backspace takes back the sign before it, as far as
  there is one.

      "shox\bw"  ──▶  "show"
-/
import SmallSql.Text.Bytes
import SmallSql.Text.Cluster

namespace SmallSql.Text

/-- The key that takes back a sign. -/
def backspace : Char := '\x08'

/-- The text so far: its characters, the last one first, and the sizes of its signs in bytes. -/
structure TypedText where
  reversed : List Char := []
  sizes : List Nat := []
deriving DecidableEq, Repr

namespace TypedText

/-- What the size of a sign stays below: it is kept in one byte, and of a larger one only the
remainder is. -/
def sizeLimit : Nat := 256

/-- Adds a sign. -/
def add (t : TypedText) (sign : List Char) : TypedText where
  reversed := sign.reverse ++ t.reversed
  sizes := byteSize sign % sizeLimit :: t.sizes

/-- Takes back the last sign, by its size. -/
def erase (t : TypedText) : TypedText :=
  match t.sizes with
  | [] => t
  | size :: sizes => match splitAtByte size t.reversed with
    | some (_, reversed) => { reversed, sizes }
    | none => { t with sizes }

/-- Takes in the next sign of a line. -/
def enter (t : TypedText) (sign : List Char) : TypedText :=
  if sign = [backspace] then t.erase else t.add sign

end TypedText

/-- The line that a typed line stands for. -/
def typedLine (line : List Char) : List Char :=
  ((clusters line).foldl TypedText.enter {}).reversed.reverse

end SmallSql.Text
