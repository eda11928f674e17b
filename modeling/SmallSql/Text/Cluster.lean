/-
  SmallSql.Text.Cluster
  ────────────────────────────────
  A text as its reader counts it: cut into extended grapheme clusters, the characters that are seen
  as one sign.

      "e" "◌́" "x"   ──▶   "é" · "x"

  Whether a character belongs to the sign before it is decided by the last character of the sign and
  by what the sign is in the middle of.
-/
import SmallSql.Text.ClusterRole

namespace SmallSql.Text

/-! ## §1. Places. -/

/-- What a sign is in the middle of, at its end. -/
inductive ClusterThread where
  | none
  /-- A picture, with nothing but marks behind it. -/
  | picture
  /-- A picture that is joined to what follows. -/
  | joinedPicture
  /-- A consonant, with nothing but marks behind it. -/
  | consonant
  /-- A consonant that is linked to what follows. -/
  | linkedConsonant
  /-- The first half of a flag. -/
  | halfFlag
deriving DecidableEq, Repr

/-- The thread behind a further character. -/
def ClusterThread.next : ClusterThread → ClusterRole → ClusterThread
  | _, .pictograph => .picture
  | _, .consonant => .consonant
  | .halfFlag, .indicator => .none
  | _, .indicator => .halfFlag
  | .picture, .joining => .joinedPicture
  | .picture, .extending | .picture, .linking | .picture, .parting => .picture
  | .consonant, .extending | .consonant, .joining => .consonant
  | .consonant, .linking | .linkedConsonant, .linking => .linkedConsonant
  | .linkedConsonant, .extending | .linkedConsonant, .joining => .linkedConsonant
  | _, _ => .none

/-- A place between two characters, as far as what stands before it matters. -/
structure ClusterPlace where
  last : ClusterRole
  thread : ClusterThread
deriving DecidableEq, Repr

namespace ClusterPlace

/-- The place where a text begins: nothing there can be added to. -/
def start : ClusterPlace := ⟨.control, .none⟩

/-- The place behind a further character. -/
def next (p : ClusterPlace) (role : ClusterRole) : ClusterPlace := ⟨role, p.thread.next role⟩

/-- Whether a character of this role goes on with the sign before the place. -/
def goesOn (p : ClusterPlace) (role : ClusterRole) : Bool :=
  if p.last = .carriageReturn && role = .lineFeed then true
  else if p.last.isAlone || role.isAlone then false
  else role.isAttached || p.last = .prepended || p.last.inSyllable role
    || (p.thread = .linkedConsonant && role = .consonant)
    || (p.thread = .joinedPicture && role = .pictograph)
    || (p.thread = .halfFlag && role = .indicator)

end ClusterPlace

/-! ## §2. Cutting. -/

/-- The characters that go on with the sign before a place, and the signs behind them. -/
def cutClusters (p : ClusterPlace) : List Char → List Char × List (List Char)
  | [] => ([], [])
  | c :: rest =>
    let role := ClusterRole.ofChar c
    let (more, others) := cutClusters (p.next role) rest
    if p.goesOn role then (c :: more, others) else ([], (c :: more) :: others)

/-- The signs of a text. -/
def clusters (cs : List Char) : List (List Char) := (cutClusters .start cs).2

end SmallSql.Text
