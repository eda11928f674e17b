/-
  SmallSql.Text.Bytes
  ────────────────────────────────
  Positions that count bytes.  A character takes one to four bytes in UTF-8; a position between two
  bytes of one character cuts it and is no place of the text.
-/

namespace SmallSql.Text

/-- How many bytes a text takes. -/
def byteSize : List Char → Nat
  | [] => 0
  | c :: rest => c.utf8Size + byteSize rest

@[simp] theorem byteSize_append (cs ds : List Char) :
    byteSize (cs ++ ds) = byteSize cs + byteSize ds := by
  induction cs with
  | nil => simp [byteSize]
  | cons c rest ih => simp [byteSize, ih, Nat.add_assoc]

/-- Cuts a text at a byte position; there is no cut inside a character or behind the end. -/
def splitAtByte : Nat → List Char → Option (List Char × List Char)
  | 0, cs => some ([], cs)
  | _ + 1, [] => none
  | n + 1, c :: rest =>
    if c.utf8Size ≤ n + 1 then
      (splitAtByte (n + 1 - c.utf8Size) rest).map fun (before, behind) => (c :: before, behind)
    else none

/-- The two parts are the text, and the first takes as many bytes as the position says. -/
theorem splitAtByte_eq_some {n : Nat} {cs before behind : List Char}
    (h : splitAtByte n cs = some (before, behind)) :
    before ++ behind = cs ∧ byteSize before = n := by
  fun_induction splitAtByte n cs generalizing before behind with
  | case1 => cases h; simp [byteSize]
  | case2 => cases h
  | case3 n c rest hc ih =>
    obtain ⟨⟨before', behind'⟩, h', he⟩ := Option.map_eq_some_iff.1 h
    cases he
    have ⟨h₁, h₂⟩ := ih h'
    refine ⟨by rw [List.cons_append, h₁], ?_⟩
    rw [byteSize, h₂]
    omega
  | case4 => cases h

/-- Every way to part a text in two is a cut. -/
theorem splitAtByte_append (before behind : List Char) :
    splitAtByte (byteSize before) (before ++ behind) = some (before, behind) := by
  induction before with
  | nil => simp [byteSize, splitAtByte]
  | cons c rest ih =>
    have hc := c.utf8Size_pos
    obtain ⟨n, hn⟩ : ∃ n, byteSize (c :: rest) = n + 1 :=
      ⟨byteSize (c :: rest) - 1, by rw [byteSize]; omega⟩
    have hle : c.utf8Size ≤ n + 1 := by rw [← hn, byteSize]; omega
    have hsub : n + 1 - c.utf8Size = byteSize rest := by rw [← hn, byteSize]; omega
    rw [hn, List.cons_append, splitAtByte, if_pos hle, hsub, ih]
    rfl

end SmallSql.Text
