/-
  SmallSql.Proofs.Json.Written
  ────────────────────────────────
  Written JSON as atoms.  `Spells text phrase` says which atoms a text is, whatever follows it, so
  texts are put together as their atoms are:

      Spells t a   and   Spells u b   give   Spells (t ++ u) (a ++ b)

  White space is no part of any atom.
-/
import Mathlib.Data.List.Forall2
import SmallSql.Json.Atom
import SmallSql.Proofs.Json.Quoted

namespace SmallSql.Json

/-! ## §1. Atoms of a text. -/

/-- The text is these atoms, whatever follows it. -/
def Spells (text : List Char) (phrase : List Atom) : Prop :=
  ∀ rest, atoms (text ++ rest) = phrase ++ atoms rest

theorem atoms_nil : atoms [] = [] := by
  rw [atoms]
  rfl

/-- White space is no part of an atom. -/
theorem atoms_space {c : Char} (h : isSpace c = true) (rest : List Char) :
    atoms (c :: rest) = atoms rest := by
  have hdrop : (c :: rest).dropWhile isSpace = rest.dropWhile isSpace :=
    List.dropWhile_cons_of_pos h
  rw [atoms, atoms]
  split <;> split <;> simp_all

theorem atoms_cons {c : Char} (h : isSpace c = false) (rest : List Char) :
    atoms (c :: rest) = (readAtom c rest).1 :: atoms (readAtom c rest).2 := by
  have hdrop : (c :: rest).dropWhile isSpace = c :: rest := List.dropWhile_cons_of_neg (by simp [h])
  rw [atoms]
  split
  · next he =>
    rw [hdrop] at he
    cases he
  · next c' rest' he =>
    rw [hdrop] at he
    cases he
    rfl

/-! ## §2. Written pieces. -/

/-- Brackets and punctuation. -/
theorem spells_mark {c : Char} {a : Atom} (h : mark? c = some a) (hc : isSpace c = false) :
    Spells [c] [a] := by
  intro rest
  show atoms (c :: rest) = a :: atoms rest
  rw [atoms_cons hc]
  unfold readAtom
  rw [h]

/-- A quoted text is one string. -/
theorem spells_quoted (s : String) : Spells (quoted s.toList) [.string s] := by
  intro rest
  have hatom : readAtom '"' (s.toList.flatMap escaped ++ '"' :: rest) = (.string s, rest) := by
    show stringAtom _ = _
    unfold stringAtom
    rw [readString_quoted]
    show (Atom.string (String.ofList s.toList), rest) = _
    rw [String.ofList_toList]
  unfold quoted
  rw [List.cons_append, List.append_assoc, atoms_cons (by decide)]
  show (readAtom '"' (s.toList.flatMap escaped ++ '"' :: rest)).1
    :: atoms (readAtom '"' (s.toList.flatMap escaped ++ '"' :: rest)).2 = _
  rw [hatom]
  rfl

theorem spells_null : Spells ['n', 'u', 'l', 'l'] [.null] := by
  intro rest
  show atoms ('n' :: 'u' :: 'l' :: 'l' :: rest) = _
  rw [atoms_cons (by decide)]
  rfl

/-! ## §3. Pieces put together. -/

section Together

variable {text more sep : List Char} {phrase others : List Atom} {c : Char}

theorem Spells.append (h : Spells text phrase) (hmore : Spells more others) :
    Spells (text ++ more) (phrase ++ others) := by
  intro rest
  rw [List.append_assoc, h, hmore, List.append_assoc]

/-- White space in front does not matter. -/
theorem Spells.space_cons (h : Spells text phrase) (hc : isSpace c = true) :
    Spells (c :: text) phrase := by
  intro rest
  rw [List.cons_append, atoms_space hc, h]

/-- White space behind does not matter. -/
theorem Spells.append_space (h : Spells text phrase) (hc : isSpace c = true) :
    Spells (text ++ [c]) phrase := by
  intro rest
  rw [List.append_assoc, h]
  show phrase ++ atoms (c :: rest) = _
  rw [atoms_space hc]

theorem Spells.atoms_eq (h : Spells text phrase) : atoms text = phrase := by
  have hatoms := h []
  rwa [List.append_nil, atoms_nil, List.append_nil] at hatoms

/-- Texts between commas. -/
theorem spells_intercalate (hsep : Spells sep [.comma]) {texts : List (List Char)}
    {phrases : List (List Atom)} (h : List.Forall₂ Spells texts phrases) :
    Spells (sep.intercalate texts) ([.comma].intercalate phrases) := by
  induction h with
  | nil => exact fun _ => rfl
  | @cons text phrase texts phrases hfirst hrest ih =>
      cases hrest with
      | nil =>
          rw [List.intercalate_singleton, List.intercalate_singleton]
          exact hfirst
      | cons hnext hrest =>
          rw [List.intercalate_cons_cons, List.intercalate_cons_cons]
          exact (hfirst.append hsep).append ih

end Together

end SmallSql.Json
