/-
  SmallSql.Text.ClusterRole
  ────────────────────────────────
  What a character does where signs are told apart: whether it stands alone, adds to the sign before
  it or behind it, or is a part of a syllable, a picture or a flag.
-/
import SmallSql.Text.ClusterRanges

namespace SmallSql.Text

/-- The part that a character plays in a cluster of characters. -/
inductive ClusterRole where
  | carriageReturn
  | lineFeed
  | control
  /-- Adds to the character before it. -/
  | extending
  /-- Adds to the character before it and links consonants. -/
  | linking
  /-- Adds to the character before it and links pictures; invisible. -/
  | joining
  /-- Adds to the character before it and keeps consonants apart; invisible. -/
  | parting
  | spacing
  | prepended
  /-- The consonant that begins a Hangul syllable. -/
  | leading
  | vowel
  /-- The consonant that ends a Hangul syllable. -/
  | trailing
  /-- A Hangul syllable that ends with its vowel. -/
  | openSyllable
  /-- A Hangul syllable that ends with a consonant. -/
  | closedSyllable
  /-- One of the letters of which two are a flag. -/
  | indicator
  | pictograph
  | consonant
  | other
deriving DecidableEq, Repr

namespace ClusterRole

/-- The code points of the consonants that begin a Hangul syllable. -/
def leadingRanges : List (Nat × Nat) := [(0x1100, 0x115F), (0xA960, 0xA97C)]

/-- The code points of the vowels inside a Hangul syllable, and of others that act as they do. -/
def vowelRanges : List (Nat × Nat) :=
  [(0x1160, 0x11A7), (0xD7B0, 0xD7C6), (0x16D63, 0x16D63), (0x16D67, 0x16D6A)]

/-- The code points of the consonants that end a Hangul syllable. -/
def trailingRanges : List (Nat × Nat) := [(0x11A8, 0x11FF), (0xD7CB, 0xD7FB)]

/-- The first of the whole Hangul syllables. -/
def firstSyllable : Nat := 0xAC00

/-- The last of the whole Hangul syllables. -/
def lastSyllable : Nat := 0xD7A3

/-- How many syllables have the same beginning: one open and the others closed. -/
def syllablesPerVowel : Nat := 28

/-- The role of a Hangul character, if it is one. -/
def ofHangul? (n : Nat) : Option ClusterRole :=
  if inRanges leadingRanges n then some leading
  else if inRanges vowelRanges n then some vowel
  else if inRanges trailingRanges n then some trailing
  else if n < firstSyllable || lastSyllable < n then none
  else if (n - firstSyllable) % syllablesPerVowel = 0 then some openSyllable
  else some closedSyllable

/-- The code points of the letters of flags. -/
def indicatorRanges : List (Nat × Nat) := [(0x1F1E6, 0x1F1FF)]

/-- The role of a character. -/
def ofChar (c : Char) : ClusterRole :=
  if c = '\r' then carriageReturn
  else if c = '\n' then lineFeed
  else if c = '\u200C' then parting
  else if c = '\u200D' then joining
  else if inRanges indicatorRanges c.toNat then indicator
  else if inRanges controlRanges c.toNat then control
  else if linkers.contains c.toNat then linking
  else if inRanges extendingRanges c.toNat then extending
  else if inRanges spacingRanges c.toNat then spacing
  else if inRanges prependedRanges c.toNat then prepended
  else if inRanges pictographRanges c.toNat then pictograph
  else if inRanges consonantRanges c.toNat then consonant
  else (ofHangul? c.toNat).getD other

/-- Whether a character of this role belongs to the sign before it, whatever that is. -/
def isAttached : ClusterRole → Bool
  | extending | linking | joining | parting | spacing => true
  | _ => false

/-- Whether a character of this role stands alone. -/
def isAlone : ClusterRole → Bool
  | carriageReturn | lineFeed | control => true
  | _ => false

/-- Whether two neighbours of these roles are parts of one Hangul syllable. -/
def inSyllable : ClusterRole → ClusterRole → Bool
  | leading, next => next = leading || next = vowel || next = openSyllable || next = closedSyllable
  | openSyllable, next | vowel, next => next = vowel || next = trailing
  | closedSyllable, next | trailing, next => next = trailing
  | _, _ => false

end ClusterRole

end SmallSql.Text
