/-
  SmallSql.Shell.Style
  ────────────────────────────────
  Coloured text for terminals.  A style is put around a text as a pair of control sequences; where
  the text itself ends a style, the style is begun again.  With colour off a text is left alone.
-/

namespace SmallSql.Shell

/-- A text style: the numbers of its control sequence. -/
structure Style where
  codes : String

namespace Style

def red : Style := ⟨"31"⟩
def green : Style := ⟨"32"⟩
def yellow : Style := ⟨"33"⟩
def cyan : Style := ⟨"36"⟩
def white : Style := ⟨"37"⟩
def dimmed : Style := ⟨"2"⟩
def grey : Style := ⟨"38;2;100;100;100"⟩

/-- The style in bold type. -/
def bold (s : Style) : Style := ⟨"1;" ++ s.codes⟩

/-- The sequence that begins a style. -/
def start (s : Style) : List Char := ['\x1b', '['] ++ s.codes.toList ++ ['m']

/-- The sequence that ends every style. -/
def stop : List Char := ['\x1b', '[', '0', 'm']

/-- Begins the style again wherever the text ends a style. -/
def resumed (s : Style) : List Char → List Char
  | '\x1b' :: '[' :: '0' :: 'm' :: rest => stop ++ s.start ++ s.resumed rest
  | c :: rest => c :: s.resumed rest
  | [] => []

/-- The text in this style, or as it is if colour is off. -/
def paint (s : Style) (colour : Bool) (text : List Char) : List Char :=
  if colour then s.start ++ s.resumed text ++ stop else text

/-- A string in this style, or as it is if colour is off. -/
def paintString (s : Style) (colour : Bool) (text : String) : String :=
  String.ofList (s.paint colour text.toList)

end Style

end SmallSql.Shell
