/-
  SmallSql.Text.Blank
  ────────────────────────────────
  White space: the twenty-five characters with the Unicode property White_Space.  It separates the
  tokens of a statement and the words of a line, and `trim` removes it from both ends of a text.
-/
import SmallSql.Text.Ranges

namespace SmallSql.Text

/-- The code points with the property White_Space. -/
def blankRanges : List (Nat × Nat) :=
  [(0x9, 0xD), (0x20, 0x20), (0x85, 0x85), (0xA0, 0xA0), (0x1680, 0x1680), (0x2000, 0x200A),
   (0x2028, 0x2029), (0x202F, 0x202F), (0x205F, 0x205F), (0x3000, 0x3000)]

/-- A white space character. -/
def isBlank (c : Char) : Bool := inRanges blankRanges c.toNat

/-- The text without the white space at its start. -/
def trimStart (cs : List Char) : List Char := cs.dropWhile isBlank

/-- The text without the white space at its end. -/
def trimEnd (cs : List Char) : List Char := (cs.reverse.dropWhile isBlank).reverse

/-- The text without the white space at both ends. -/
def trim (cs : List Char) : List Char := trimEnd (trimStart cs)

/-- The first run of characters that are not white space; empty when there is none. -/
def firstWord (cs : List Char) : List Char := (trimStart cs).takeWhile (fun c => !isBlank c)

/-- A text of white space alone, or without any character. -/
def allBlank (cs : List Char) : Bool := cs.all isBlank

end SmallSql.Text
