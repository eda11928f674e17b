/-
  SmallSql.Proofs.Json.Skipping
  ────────────────────────────────
  Values that are passed over.  `Skippable` says by its form alone which runs of atoms are values
  that hold nothing that stops a reader who does not ask for them; `passOver` goes from atom to atom
  and keeps the open brackets on a stack.  What the stack still calls for is `Closes`:

      Closes (.list   :: outer)  =  , v , v … ]    Closes outer
      Closes (.object :: outer)  =  , k : v … }    Closes outer

  So `skipValue` takes exactly the skippable values.
-/
import SmallSql.Proofs.Json.Shape

namespace SmallSql.Json

/-! ## §1. Values that can be passed over. -/

/-- The key of a member that nobody asks for. -/
def IsKey (a : Atom) : Prop := (∃ s, a = .string s) ∨ ∃ fault, a = .strangeString fault

/-- Values that can be passed over.  Among them are numbers that are too large and strings with
escapes that stand for no character. -/
inductive Skippable : List Atom → Prop
  | null : Skippable [.null]
  | boolean (value : Bool) : Skippable [.boolean value]
  | number {form : NumberForm} (h : form = .whole ∨ form = .huge) : Skippable [.number form]
  | string {a : Atom} (h : IsKey a) : Skippable [a]
  | list {values : List (List Atom)} (h : ∀ v ∈ values, Skippable v) : Skippable (listAtoms values)
  | object {members : List (Atom × List Atom)} (hkeys : ∀ m ∈ members, IsKey m.1)
      (h : ∀ m ∈ members, Skippable m.2) : Skippable (objectAtoms members)

/-- A scalar without a fault is such a value. -/
theorem skippable_of_skipFault? {a : Atom} (h : a.skipFault? = none) (hlist : a ≠ .openBracket)
    (hobject : a ≠ .openBrace) : Skippable [a] := by
  cases a with
  | null => exact .null
  | boolean value => exact .boolean value
  | number form =>
      cases form with
      | whole => exact .number (.inl rfl)
      | huge => exact .number (.inr rfl)
      | cut => cases h
      | wrong => cases h
  | string s => exact .string (.inl ⟨s, rfl⟩)
  | strangeString fault => exact .string (.inr ⟨fault, rfl⟩)
  | openBracket => exact absurd rfl hlist
  | openBrace => exact absurd rfl hobject
  | openString | broken | closeBrace | closeBracket | colon | comma => cases h

theorem IsKey.isString {a : Atom} (h : IsKey a) : a.isString = true ∧ a.skipFault? = none := by
  rcases h with ⟨s, rfl⟩ | ⟨fault, rfl⟩
  · exact ⟨rfl, rfl⟩
  · exact ⟨rfl, rfl⟩

theorem isKey_of_isString {a : Atom} (h : a.isString = true) (hfault : a.skipFault? = none) :
    IsKey a := by
  cases a with
  | string s => exact .inl ⟨s, rfl⟩
  | strangeString fault => exact .inr ⟨fault, rfl⟩
  | openString => cases hfault
  | _ => cases h

/-- Behind the first of the items, a comma stands in front of each. -/
theorem intercalate_comma (value : List Atom) (values : List (List Atom)) :
    [Atom.comma].intercalate (value :: values)
      = value ++ values.flatMap fun v => .comma :: v := by
  induction values generalizing value with
  | nil => simp
  | cons next values ih =>
      rw [List.intercalate_cons_cons, ih, List.flatMap_cons]
      simp

theorem listAtoms_cons_append (value : List Atom) (values : List (List Atom)) (rest : List Atom) :
    listAtoms (value :: values) ++ rest
      = .openBracket :: (value ++ (values.flatMap (fun v => .comma :: v)
        ++ .closeBracket :: rest)) := by
  unfold listAtoms
  rw [intercalate_comma]
  simp

theorem objectAtoms_cons_append (m : Atom × List Atom) (members : List (Atom × List Atom))
    (rest : List Atom) : objectAtoms (m :: members) ++ rest
      = .openBrace :: (memberAtoms m ++ (members.flatMap (fun m => .comma :: memberAtoms m)
        ++ .closeBrace :: rest)) := by
  unfold objectAtoms
  rw [List.map_cons, intercalate_comma, List.flatMap_map]
  simp

/-! ## §2. They are passed over. -/

section PassOver

variable {enclosures outer : List Enclosure} {rest : List Atom}

/-- What nobody asks for may be nested in any depth. -/
theorem mayOpen_none (enclosures : List Enclosure) : Care.none.mayOpen enclosures = true := rfl

/-- A scalar without a fault is passed over, whether or not a list could end there. -/
theorem passOver_scalar {a : Atom} {mayClose : Bool} (hclose : a ≠ .closeBracket)
    (hlist : a ≠ .openBracket) (hobject : a ≠ .openBrace) (h : a.skipFault? = none) :
    passOver .none (.value mayClose) enclosures (a :: rest)
      = passOver .none .next enclosures rest := by
  rw [passOver, if_neg (fun he => hclose he.1), if_neg hlist, if_neg hobject,
    show Care.none.fault? a = none from h]

/-- The items of a list that are left, and its end. -/
theorem passOver_items {values : List (List Atom)}
    (h : ∀ v ∈ values, ∀ mayClose enclosures rest,
      passOver .none (.value mayClose) enclosures (v ++ rest)
        = passOver .none .next enclosures rest) :
    passOver .none .next (.list :: outer)
        (values.flatMap (fun v => .comma :: v) ++ .closeBracket :: rest)
      = passOver .none .next outer rest := by
  induction values with
  | nil => rfl
  | cons v values ih =>
      obtain ⟨hv, hvalues⟩ := List.forall_mem_cons.1 h
      rw [List.flatMap_cons, List.append_assoc, List.cons_append, passOver, if_pos rfl, hv,
        ih hvalues]

/-- A member behind its comma or its brace is passed over with its value. -/
theorem passOver_member {k : Atom} {value : List Atom} {mayClose : Bool} (hk : IsKey k)
    (h : ∀ mayClose enclosures rest,
      passOver .none (.value mayClose) enclosures (value ++ rest)
        = passOver .none .next enclosures rest) :
    passOver .none (.key mayClose) enclosures (memberAtoms (k, value) ++ rest)
      = passOver .none .next enclosures rest := by
  obtain ⟨hstring, hfault⟩ := hk.isString
  have hclose : k ≠ .closeBrace := by
    rintro rfl
    cases hstring
  show passOver .none (.key mayClose) enclosures (k :: .colon :: (value ++ rest)) = _
  rw [passOver, if_neg (fun he => hclose he.1), if_pos hstring,
    show Care.none.fault? k = none from hfault]
  dsimp only
  rw [passOver, if_pos rfl, h]

/-- The members of an object that are left, and its end. -/
theorem passOver_members {members : List (Atom × List Atom)} (hkeys : ∀ m ∈ members, IsKey m.1)
    (h : ∀ m ∈ members, ∀ mayClose enclosures rest,
      passOver .none (.value mayClose) enclosures (m.2 ++ rest)
        = passOver .none .next enclosures rest) :
    passOver .none .next (.object :: outer)
        (members.flatMap (fun m => .comma :: memberAtoms m) ++ .closeBrace :: rest)
      = passOver .none .next outer rest := by
  induction members with
  | nil => rfl
  | cons m members ih =>
      obtain ⟨hkey, hkeys⟩ := List.forall_mem_cons.1 hkeys
      obtain ⟨hm, hmembers⟩ := List.forall_mem_cons.1 h
      rw [List.flatMap_cons, List.append_assoc, List.cons_append, passOver, if_pos rfl,
        passOver_member hkey hm, ih hkeys hmembers]

/-- A skippable value is passed over, whatever is open around it and follows it. -/
theorem passOver_of_skippable {value : List Atom} (h : Skippable value) :
    ∀ mayClose enclosures rest, passOver .none (.value mayClose) enclosures (value ++ rest)
      = passOver .none .next enclosures rest := by
  induction h with
  | null | boolean value =>
      intro mayClose enclosures rest
      exact passOver_scalar nofun nofun nofun rfl
  | number hform =>
      intro mayClose enclosures rest
      rcases hform with rfl | rfl
      · exact passOver_scalar nofun nofun nofun rfl
      · exact passOver_scalar nofun nofun nofun rfl
  | string hkey =>
      intro mayClose enclosures rest
      obtain ⟨-, hfault⟩ := hkey.isString
      rcases hkey with ⟨s, rfl⟩ | ⟨fault, rfl⟩
      · exact passOver_scalar nofun nofun nofun hfault
      · exact passOver_scalar nofun nofun nofun hfault
  | @list values _ ih =>
      intro mayClose enclosures rest
      cases values with
      | nil =>
          show passOver .none (.value mayClose) enclosures
            (.openBracket :: .closeBracket :: rest) = _
          rw [passOver, if_neg (by simp), if_pos rfl, if_pos (mayOpen_none _)]
          rfl
      | cons v values =>
          obtain ⟨hv, hvalues⟩ := List.forall_mem_cons.1 ih
          rw [listAtoms_cons_append, passOver, if_neg (by simp), if_pos rfl,
            if_pos (mayOpen_none _), hv]
          exact passOver_items hvalues
  | @object members hkeys _ ih =>
      intro mayClose enclosures rest
      cases members with
      | nil =>
          show passOver .none (.value mayClose) enclosures (.openBrace :: .closeBrace :: rest) = _
          rw [passOver, if_neg (by simp), if_neg (by simp), if_pos rfl, if_pos (mayOpen_none _)]
          rfl
      | cons m members =>
          obtain ⟨hkey, hkeys⟩ := List.forall_mem_cons.1 hkeys
          obtain ⟨hm, hmembers⟩ := List.forall_mem_cons.1 ih
          rw [objectAtoms_cons_append, passOver, if_neg (by simp), if_neg (by simp), if_pos rfl,
            if_pos (mayOpen_none _), passOver_member hkey hm]
          exact passOver_members hkeys hmembers

end PassOver

/-! ## §3. Nothing else is passed over. -/

/-- What the open brackets still call for, behind a value. -/
def Closes : List Enclosure → List Atom → Prop
  | [], phrase => phrase = []
  | .list :: outer, phrase => ∃ (values : List (List Atom)) (rest : List Atom),
      phrase = values.flatMap (fun v => .comma :: v) ++ .closeBracket :: rest
        ∧ (∀ v ∈ values, Skippable v) ∧ Closes outer rest
  | .object :: outer, phrase => ∃ (members : List (Atom × List Atom)) (rest : List Atom),
      phrase = members.flatMap (fun m => .comma :: memberAtoms m) ++ .closeBrace :: rest
        ∧ (∀ m ∈ members, IsKey m.1) ∧ (∀ m ∈ members, Skippable m.2) ∧ Closes outer rest

/-- What is still called for where something is due. -/
def Completes : Due → List Enclosure → List Atom → Prop
  | .next, enclosures, phrase => Closes enclosures phrase
  | .value mayClose, enclosures, phrase =>
      (∃ value rest, phrase = value ++ rest ∧ Skippable value ∧ Closes enclosures rest)
        ∨ mayClose = true ∧ ∃ rest, phrase = .closeBracket :: rest ∧ Closes enclosures.tail rest
  | .colon, enclosures, phrase =>
      ∃ value rest, phrase = .colon :: (value ++ rest) ∧ Skippable value ∧ Closes enclosures rest
  | .key mayClose, enclosures, phrase =>
      (∃ m rest, phrase = memberAtoms m ++ rest ∧ IsKey m.1 ∧ Skippable m.2
        ∧ Closes enclosures rest)
        ∨ mayClose = true ∧ ∃ rest, phrase = .closeBrace :: rest ∧ Closes enclosures.tail rest

/-- What was passed over is what was called for. -/
theorem completes_of_passOver {due : Due} {enclosures : List Enclosure} {input rest : List Atom}
    (h : passOver .none due enclosures input = .ok rest) :
    ∃ phrase, input = phrase ++ rest ∧ Completes due enclosures phrase := by
  fun_induction passOver Care.none due enclosures input with
  | case1 left =>
      cases h
      exact ⟨[], rfl, rfl⟩
  | case2 | case5 | case8 | case10 | case12 | case14 | case17 | case19 | case20 => cases h
  -- behind a value of a list
  | case3 outer left ih =>
      obtain ⟨phrase, rfl, hphrase⟩ := ih h
      refine ⟨.comma :: phrase, rfl, ?_⟩
      obtain ⟨value, _, rfl, hvalue, values, more, rfl, hvalues, houter⟩ | ⟨hfalse, -⟩ := hphrase
      · exact ⟨value :: values, more, by simp, List.forall_mem_cons.2 ⟨hvalue, hvalues⟩, houter⟩
      · cases hfalse
  | case4 outer left _ ih =>
      obtain ⟨phrase, rfl, hphrase⟩ := ih h
      exact ⟨_, rfl, [], phrase, rfl, List.forall_mem_nil _, hphrase⟩
  -- behind a value of an object
  | case6 outer left ih =>
      obtain ⟨phrase, rfl, hphrase⟩ := ih h
      refine ⟨.comma :: phrase, rfl, ?_⟩
      obtain ⟨m, _, rfl, hkey, hvalue, members, more, rfl, hkeys, hvalues, houter⟩ | ⟨hfalse, -⟩ :=
        hphrase
      · exact ⟨m :: members, more, by simp, List.forall_mem_cons.2 ⟨hkey, hkeys⟩,
          List.forall_mem_cons.2 ⟨hvalue, hvalues⟩, houter⟩
      · cases hfalse
  | case7 outer left _ ih =>
      obtain ⟨phrase, rfl, hphrase⟩ := ih h
      exact ⟨_, rfl, [], phrase, rfl, List.forall_mem_nil _, List.forall_mem_nil _, hphrase⟩
  -- in a member
  | case9 enclosures left ih =>
      obtain ⟨phrase, rfl, hphrase⟩ := ih h
      obtain ⟨value, more, rfl, hvalue, hmore⟩ | ⟨hfalse, -⟩ := hphrase
      · exact ⟨_, rfl, value, more, rfl, hvalue, hmore⟩
      · cases hfalse
  | case11 mayClose enclosures a left hclose ih =>
      obtain ⟨phrase, rfl, hphrase⟩ := ih h
      obtain ⟨rfl, hmay⟩ := hclose
      exact ⟨_, rfl, .inr ⟨hmay, phrase, rfl, hphrase⟩⟩
  | case13 mayClose enclosures a left _ hstring hfault ih =>
      obtain ⟨_, rfl, value, more, rfl, hvalue, hmore⟩ := ih h
      exact ⟨_, rfl, .inl ⟨(a, value), more, rfl, isKey_of_isString hstring hfault, hvalue, hmore⟩⟩
  -- where a value is due
  | case15 mayClose enclosures a left hclose ih =>
      obtain ⟨phrase, rfl, hphrase⟩ := ih h
      obtain ⟨rfl, hmay⟩ := hclose
      exact ⟨_, rfl, .inr ⟨hmay, phrase, rfl, hphrase⟩⟩
  | case16 mayClose enclosures left _ _ ih =>
      obtain ⟨phrase, rfl, hphrase⟩ := ih h
      obtain ⟨value, _, rfl, hvalue, values, more, rfl, hvalues, hmore⟩ | ⟨-, more, rfl, hmore⟩ :=
        hphrase
      · exact ⟨_, rfl, .inl ⟨listAtoms (value :: values), more,
          (listAtoms_cons_append value values more).symm,
          .list (List.forall_mem_cons.2 ⟨hvalue, hvalues⟩), hmore⟩⟩
      · exact ⟨_, rfl, .inl ⟨listAtoms [], more, rfl, .list (List.forall_mem_nil _), hmore⟩⟩
  | case18 mayClose enclosures left _ _ _ ih =>
      obtain ⟨phrase, rfl, hphrase⟩ := ih h
      obtain ⟨m, _, rfl, hkey, hvalue, members, more, rfl, hkeys, hvalues, hmore⟩
        | ⟨-, more, rfl, hmore⟩ := hphrase
      · exact ⟨_, rfl, .inl ⟨objectAtoms (m :: members), more,
          (objectAtoms_cons_append m members more).symm,
          .object (List.forall_mem_cons.2 ⟨hkey, hkeys⟩) (List.forall_mem_cons.2 ⟨hvalue, hvalues⟩),
          hmore⟩⟩
      · exact ⟨_, rfl, .inl ⟨objectAtoms [], more, rfl,
          .object (List.forall_mem_nil _) (List.forall_mem_nil _), hmore⟩⟩
  | case21 mayClose enclosures a left _ hlist hobject hfault ih =>
      obtain ⟨phrase, rfl, hphrase⟩ := ih h
      exact ⟨_, rfl, .inl ⟨[a], phrase, rfl, skippable_of_skipFault? hfault hlist hobject, hphrase⟩⟩

/-! ## §4. Skipped values. -/

/-- A skippable value is skipped. -/
theorem yields_skipValue {value : List Atom} (h : Skippable value) :
    Yields skipValue value (.ok ()) := by
  intro rest
  have hrun : passOver .none (.value false) [] (value ++ rest) = .ok rest := by
    rw [passOver_of_skippable h, passOver]
  unfold skipValue
  dsimp only
  rw [hrun]
  rfl

/-- What is skipped is a skippable value. -/
theorem takes_skipValue : Takes skipValue fun _ value => Skippable value := by
  intro input rest u h
  unfold skipValue at h
  dsimp only at h
  split at h
  · next left hrun =>
    cases h
    obtain ⟨phrase, rfl, hphrase⟩ := completes_of_passOver hrun
    obtain ⟨value, _, rfl, hvalue, rfl⟩ | ⟨hfalse, -⟩ := hphrase
    · exact ⟨value ++ [], rfl, by rwa [List.append_nil]⟩
    · cases hfalse
  · cases h

end SmallSql.Json
