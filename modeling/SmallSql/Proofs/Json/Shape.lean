/-
  SmallSql.Proofs.Json.Shape
  ────────────────────────────────
  Values of a known shape, and the readers of them.  A shape says which runs of atoms stand for a
  value; it says nothing of reading:

      listAtoms      [ v , v , … ]
      recordAtoms    { "key" : v , "key" : v , … }

  A reader is met from both sides.  `Yields p phrase r` says what it makes of a run, whatever
  follows it, be it a value or a fault inside the run; `Takes p shape` says that whatever it takes
  off an input has the shape.
-/
import Mathlib.Data.List.Forall2
import SmallSql.Json.Reading
import SmallSql.Proofs.Parsing

namespace SmallSql.Json

/-! ## §1. Values as atoms. -/

/-- A list of values. -/
def listAtoms (values : List (List Atom)) : List Atom :=
  .openBracket :: ([.comma].intercalate values ++ [.closeBracket])

/-- A member: its key and its value. -/
def memberAtoms (m : Atom × List Atom) : List Atom := m.1 :: .colon :: m.2

/-- An object of members. -/
def objectAtoms (members : List (Atom × List Atom)) : List Atom :=
  .openBrace :: ([.comma].intercalate (members.map memberAtoms) ++ [.closeBrace])

/-- An object whose keys can all be read. -/
def recordAtoms (members : List (String × List Atom)) : List Atom :=
  objectAtoms (members.map fun m => (.string m.1, m.2))

/-- A list whose items have one shape. -/
def ListOf {α : Type} (shape : α → List Atom → Prop) (as : List α) (phrase : List Atom) : Prop :=
  ∃ values, phrase = listAtoms values ∧ List.Forall₂ shape as values

/-- A string. -/
def IsString (s : String) (phrase : List Atom) : Prop := phrase = [.string s]

/-- The values that the members have under a key. -/
def valuesOf (key : String) (members : List (String × List Atom)) : List (List Atom) :=
  (members.filter fun m => m.1 == key).map (·.2)

/-- The one value under the key has the shape, or the key is missing. -/
def Field {α : Type} (key : String) (shape : α → List Atom → Prop)
    (members : List (String × List Atom)) (value? : Option α) : Prop :=
  List.Forall₂ shape value?.toList (valuesOf key members)

/-- The atoms begin like a value and not like the end of a list. -/
def OpensValue (phrase : List Atom) : Prop := ∃ a rest, phrase = a :: rest ∧ a ≠ .closeBracket

theorem opensValue_listAtoms (values : List (List Atom)) : OpensValue (listAtoms values) :=
  ⟨_, _, rfl, by decide⟩

theorem opensValue_recordAtoms (members : List (String × List Atom)) :
    OpensValue (recordAtoms members) :=
  ⟨_, _, rfl, by decide⟩

section Field

variable {α : Type} {key : String} {shape : α → List Atom → Prop} {m : String × List Atom}
  {members : List (String × List Atom)} {value? : Option α} {a : α}

theorem valuesOf_cons_of_ne (h : m.1 ≠ key) :
    valuesOf key (m :: members) = valuesOf key members := by
  unfold valuesOf
  rw [List.filter_cons_of_neg (by simpa using h)]

theorem valuesOf_cons_self (key : String) (phrase : List Atom) :
    valuesOf key ((key, phrase) :: members) = phrase :: valuesOf key members := by
  unfold valuesOf
  rw [List.filter_cons_of_pos (p := fun m : String × List Atom => m.1 == key)
    (beq_self_eq_true key)]
  rfl

theorem Field.none_nil (key : String) (shape : α → List Atom → Prop) : Field key shape [] none :=
  .nil

/-- A member behind the others that has another key. -/
theorem Field.concat_of_ne (h : Field key shape members value?) {key' : String}
    {phrase : List Atom} (hkey : key' ≠ key) :
    Field key shape (members ++ [(key', phrase)]) value? := by
  unfold Field valuesOf at *
  rwa [List.filter_append, List.filter_cons_of_neg (by simpa using hkey), List.filter_nil,
    List.append_nil]

/-- The first member with the key, behind the others. -/
theorem Field.concat_self {phrase : List Atom} (h : Field key shape members none)
    (ha : shape a phrase) : Field key shape (members ++ [(key, phrase)]) (some a) := by
  unfold Field valuesOf at *
  rw [List.filter_append, List.map_append, List.forall₂_nil_left_iff.1 h]
  rw [List.filter_cons_of_pos (p := fun m : String × List Atom => m.1 == key)
    (beq_self_eq_true key)]
  exact .cons ha .nil

end Field

/-! ## §2. Readers from both sides. -/

variable {α β σ : Type}

/-- What the reader makes of these atoms, whatever follows them. -/
def Yields (p : AtomParser α) (phrase : List Atom) (result : Except Fault α) : Prop :=
  ∀ rest, p.run (phrase ++ rest) = result.map fun a => (a, rest)

/-- What the reader takes off an input has the shape. -/
def Takes (p : AtomParser α) (shape : α → List Atom → Prop) : Prop :=
  ∀ ⦃input rest : List Atom⦄ ⦃a : α⦄, p.run input = .ok (a, rest) →
    ∃ phrase, input = phrase ++ rest ∧ shape a phrase

namespace Yields

variable {p : AtomParser α} {f : α → AtomParser β} {phrase more : List Atom}
  {result : Except Fault α} {next : α → Except Fault β} {a : α}

theorem pure (a : α) : Yields (pure a) [] (.ok a) := fun _ => rfl

/-- Two readers, one after the other; a fault of the first is the fault of both. -/
theorem bind (hp : Yields p phrase result)
    (hf : ∀ a, result = .ok a → Yields (f a) more (next a)) :
    Yields (p >>= f) (phrase ++ more) (result >>= next) := by
  intro rest
  rw [Parser.run_bind, List.append_assoc, hp]
  cases result with
  | error fault => rfl
  | ok a => exact hf a rfl rest

/-- The second of two readers takes nothing. -/
theorem bind_last (hp : Yields p phrase result)
    (hf : ∀ a, result = .ok a → Yields (f a) [] (next a)) :
    Yields (p >>= f) phrase (result >>= next) := by
  have h := hp.bind hf
  rwa [List.append_nil] at h

/-- A reader of one atom takes it. -/
theorem token {view : Atom → Option α} {fault : List Atom → Fault} {t : Atom}
    (h : view t = some a) : Yields (Parser.token view fault) [t] (.ok a) :=
  fun rest => Parser.run_token h rest

/-- One atom and then the rest. -/
theorem token_bind {view : Atom → Option α} {fault : List Atom → Fault} {t : Atom}
    {result : Except Fault β} (h : view t = some a) (hf : Yields (f a) more result) :
    Yields (Parser.token view fault >>= f) (t :: more) result := by
  intro rest
  rw [List.cons_append, Parser.run_bind, Parser.run_token h]
  exact hf rest

end Yields

theorem yields_mark (a : Atom) : Yields (mark a) [a] (.ok ()) := .token (if_pos rfl)

theorem yields_string {s : String} {phrase : List Atom} (h : IsString s phrase) :
    Yields string phrase (.ok s) := by
  rw [show phrase = _ from h]
  exact .token rfl

/-- A reader of single atoms takes one that it accepts. -/
theorem takes_token {view : Atom → Option α} {fault : List Atom → Fault} {input rest : List Atom}
    {a : α} (h : (Parser.token view fault).run input = .ok (a, rest)) :
    ∃ t, input = t :: rest ∧ view t = some a := by
  unfold Parser.token at h
  cases input with
  | nil => cases h
  | cons t left =>
      dsimp only at h
      split at h
      · next a' hview =>
        cases h
        exact ⟨t, rfl, hview⟩
      · cases h

/-- What was taken for punctuation is that punctuation. -/
theorem takes_mark {wanted : Atom} {input rest : List Atom} {u : Unit}
    (h : (mark wanted).run input = .ok (u, rest)) : input = wanted :: rest := by
  obtain ⟨t, rfl, ht⟩ := takes_token h
  split at ht
  · next he => rw [he]
  · cases ht

theorem eq_string_of_string? {t : Atom} {s : String} (h : t.string? = some s) : t = .string s := by
  unfold Atom.string? at h
  split at h
  · cases h
    rfl
  · cases h

theorem takes_string : Takes string IsString := by
  intro input rest s h
  obtain ⟨t, rfl, ht⟩ := takes_token h
  exact ⟨[t], rfl, by rw [eq_string_of_string? ht]; rfl⟩

/-! ## §3. Brackets. -/

section Bracketed

variable {closing : Atom} {none a : α} {body : AtomParser α} {result : Except Fault α}
  {inside input rest : List Atom}

theorem run_bracketed_empty (rest : List Atom) :
    (bracketed closing none body).run (closing :: rest) = .ok (none, rest) := by
  have hoptional : (Parser.optional (· = closing) : AtomParser Bool).run (closing :: rest)
      = .ok (true, rest) := by
    show (if decide (closing = closing) = true then _ else _) = _
    rw [if_pos (by simp)]
  unfold bracketed
  rw [Parser.run_bind, hoptional]
  rfl

/-- What does not begin like the closing bracket is read by the body up to there. -/
theorem run_bracketed_body (h : ∀ t ∈ input.head?, t ≠ closing) :
    (bracketed closing none body).run input
      = (body >>= fun a => mark closing >>= fun _ => pure a : AtomParser α).run input := by
  have hoptional : (Parser.optional (· = closing) : AtomParser Bool).run input
      = .ok (false, input) := by
    cases input with
    | nil => rfl
    | cons t ts =>
        show (if decide (t = closing) = true then _ else _) = _
        rw [if_neg (by simpa using h t rfl)]
  unfold bracketed
  rw [Parser.run_bind, hoptional]
  rfl

/-- Between the brackets stands what the body makes something of. -/
theorem run_bracketed (h : ∀ t ∈ input.head?, t ≠ closing)
    (hbody : body.run input = result.map fun a => (a, closing :: rest)) :
    (bracketed closing none body).run input = result.map fun a => (a, rest) := by
  rw [run_bracketed_body h, Parser.run_bind, hbody]
  cases result with
  | error fault => rfl
  | ok a =>
      have hmark : (mark closing).run (closing :: rest) = .ok ((), rest) := by
        refine Parser.run_token ?_ rest
        exact if_pos rfl
      show (mark closing >>= fun _ => pure a : AtomParser α).run (closing :: rest) = _
      rw [Parser.run_bind, hmark]
      rfl

/-- What stands between the brackets does not begin like the closing one. -/
theorem yields_bracketed {t : Atom} {ts : List Atom}
    (hinside : inside = t :: ts) (ht : t ≠ closing)
    (hbody : ∀ rest, rest.head? = some closing →
      body.run (inside ++ rest) = result.map fun a => (a, rest)) :
    Yields (bracketed closing none body) (inside ++ [closing]) result := by
  intro rest
  rw [List.append_assoc]
  refine run_bracketed ?_ (hbody (closing :: rest) rfl)
  rw [hinside]
  intro t' ht'
  cases ht'
  exact ht

/-- What was taken between brackets: nothing, or what the body takes. -/
theorem takes_bracketed (h : (bracketed closing none body).run input = .ok (a, rest)) :
    (a = none ∧ input = closing :: rest) ∨ body.run input = .ok (a, closing :: rest) := by
  by_cases hempty : input.head? = some closing
  · obtain ⟨ts, rfl⟩ := List.head?_eq_some_iff.1 hempty
    rw [run_bracketed_empty] at h
    cases h
    exact .inl ⟨rfl, rfl⟩
  · rw [run_bracketed_body fun t ht he => hempty (ht.trans (congrArg some he))] at h
    obtain ⟨a', left, hbody, h⟩ := Parser.run_bind_eq_ok.1 h
    obtain ⟨u, mid, hmark, h⟩ := Parser.run_bind_eq_ok.1 h
    cases h
    rw [takes_mark hmark] at hbody
    exact .inr hbody

end Bracketed

/-- Before a closing mark there is no comma. -/
theorem head_ne_comma {as : List Atom} {closing : Atom} (h : as.head? = some closing)
    (hc : closing ≠ .comma) : ∀ t ∈ as.head?, decide (t = Atom.comma) = false := by
  intro t ht
  rw [h] at ht
  cases ht
  simpa using hc

/-! ## §4. Lists. -/

section List

variable {item : AtomParser α} {shape : α → List Atom → Prop} {check : α → Except Fault α}
  {as : List α} {values : List (List Atom)}

/-- Values between commas yield what the items do, up to the first fault, if no comma follows. -/
theorem separatedRun_values (h : ∀ a phrase, shape a phrase → Yields item phrase (check a)) {a : α}
    {value : List Atom} (hvalue : shape a value) (hvalues : List.Forall₂ shape as values)
    {rest : List Atom} (hrest : ∀ t ∈ rest.head?, decide (t = Atom.comma) = false) :
    Parser.separatedRun (· = .comma) item ([.comma].intercalate (value :: values) ++ rest)
      = ((a :: as).mapM check).map fun bs => (bs, rest) := by
  induction hvalues generalizing a value with
  | nil =>
      have hfirst := h a value hvalue rest
      rw [List.intercalate_singleton, List.mapM_cons]
      cases hr : check a with
      | error fault =>
          rw [hr] at hfirst
          exact Parser.separatedRun_error hfirst
      | ok b =>
          rw [hr] at hfirst
          exact Parser.separatedRun_last hfirst hrest
  | @cons a' value' as values hvalue' _ ih =>
      have hfirst := h a value hvalue
        (.comma :: ([.comma].intercalate (value' :: values) ++ rest))
      rw [List.intercalate_cons_cons, List.append_assoc, List.append_assoc, List.mapM_cons]
      cases hr : check a with
      | error fault =>
          rw [hr] at hfirst
          exact Parser.separatedRun_error hfirst
      | ok b =>
          rw [hr] at hfirst
          rw [List.singleton_append, Parser.separatedRun_step hfirst (by decide), ih hvalue']
          cases (a' :: as).mapM check <;> rfl

/-- A list yields what its items do, up to the first fault. -/
theorem yields_list (h : ∀ a phrase, shape a phrase → Yields item phrase (check a))
    (hopens : ∀ a phrase, shape a phrase → OpensValue phrase) {phrase : List Atom}
    (hlist : ListOf shape as phrase) : Yields (list item) phrase (as.mapM check) := by
  obtain ⟨values, rfl, hvalues⟩ := hlist
  refine .token_bind (if_pos rfl) ?_
  cases hvalues with
  | nil => exact run_bracketed_empty
  | @cons a value as values hvalue hvalues =>
      obtain ⟨t, ts, rfl, ht⟩ := hopens a value hvalue
      obtain ⟨more, hmore⟩ := prefix_intercalate [.comma] [t :: ts] values
      rw [List.intercalate_singleton, List.singleton_append, List.cons_append] at hmore
      exact yields_bracketed hmore.symm ht fun rest hrest =>
        separatedRun_values h hvalue hvalues (head_ne_comma hrest (by decide))

/-- The items of a list yield themselves. -/
theorem yields_list_self (h : ∀ a phrase, shape a phrase → Yields item phrase (.ok a))
    (hopens : ∀ a phrase, shape a phrase → OpensValue phrase) {phrase : List Atom}
    (hlist : ListOf shape as phrase) : Yields (list item) phrase (.ok as) := by
  have hall : as.mapM (fun a => (.ok a : Except Fault α)) = .ok as := by
    rw [← List.map_id' as, List.mapM_map]
    exact List.mapM_pure
  rw [← hall]
  exact yields_list h hopens hlist

/-- Items between commas are values between commas. -/
theorem takes_separated (h : Takes item shape) : Takes (Parser.separated (· = .comma) item)
    fun as phrase => ∃ value values, phrase = [.comma].intercalate (value :: values)
      ∧ List.Forall₂ shape as (value :: values) := by
  intro input rest as hrun
  change Parser.separatedRun _ item input = .ok (as, rest) at hrun
  fun_induction Parser.separatedRun (fun t => decide (t = Atom.comma)) item input
    generalizing as rest with
  | case1 => cases hrun
  | case2 input a hi =>
      cases hrun
      obtain ⟨phrase, rfl, hphrase⟩ := h hi
      exact ⟨phrase, rfl, phrase, [], List.intercalate_singleton.symm, .cons hphrase .nil⟩
  | case3 => cases hrun
  | case4 input a t left hi ht as' left' hmore ih =>
      cases hrun
      obtain ⟨phrase, rfl, hphrase⟩ := h hi
      obtain ⟨_, rfl, value, values, rfl, hvalues⟩ := ih hmore
      rw [of_decide_eq_true ht]
      refine ⟨[.comma].intercalate (phrase :: value :: values), ?_, phrase, value :: values, rfl,
        .cons hphrase hvalues⟩
      rw [List.intercalate_cons_cons, List.append_assoc, List.append_assoc]
      rfl
  | case5 input a t left hi ht =>
      cases hrun
      obtain ⟨phrase, rfl, hphrase⟩ := h hi
      exact ⟨phrase, rfl, phrase, [], List.intercalate_singleton.symm, .cons hphrase .nil⟩

theorem takes_list (h : Takes item shape) : Takes (list item) (ListOf shape) := by
  intro input rest as hrun
  obtain ⟨u, mid, hopen, hbody⟩ := Parser.run_bind_eq_ok.1 hrun
  obtain ⟨t, rfl, ht⟩ := takes_token hopen
  obtain rfl : t = .openBracket := by
    split at ht
    · next he => exact he
    · cases ht
  rcases takes_bracketed hbody with ⟨rfl, rfl⟩ | hitems
  · exact ⟨listAtoms [], rfl, [], rfl, .nil⟩
  · obtain ⟨_, rfl, value, values, rfl, hvalues⟩ := takes_separated h hitems
    refine ⟨listAtoms (value :: values), ?_, value :: values, rfl, hvalues⟩
    unfold listAtoms
    rw [List.cons_append, List.append_assoc]
    rfl

end List

/-! ## §5. Members. -/

section Members

variable {member : σ → String → AtomParser σ} {s s' : σ} {m : String × List Atom}
  {members : List (String × List Atom)} {result : Except Fault σ}

/-- What the members of an object lead to, one after the other, up to the first fault. -/
inductive MembersYield (member : σ → String → AtomParser σ) :
    σ → List (String × List Atom) → Except Fault σ → Prop
  | done {s : σ} : MembersYield member s [] (.ok s)
  | more {s s' : σ} {m : String × List Atom} {members : List (String × List Atom)}
      {result : Except Fault σ} : Yields (member s m.1) (.colon :: m.2) (.ok s') →
      MembersYield member s' members result → MembersYield member s (m :: members) result
  | stop {s : σ} {m : String × List Atom} {members : List (String × List Atom)} {fault : Fault} :
      Yields (member s m.1) (.colon :: m.2) (.error fault) →
      MembersYield member s (m :: members) (.error fault)

/-- The members of an object whose keys can all be read, between commas. -/
def membersAtoms (members : List (String × List Atom)) : List Atom :=
  [.comma].intercalate (members.map fun m => memberAtoms (.string m.1, m.2))

theorem membersAtoms_singleton (m : String × List Atom) :
    membersAtoms [m] = memberAtoms (.string m.1, m.2) :=
  List.intercalate_singleton

theorem membersAtoms_cons_cons (m m' : String × List Atom) (members : List (String × List Atom)) :
    membersAtoms (m :: m' :: members)
      = memberAtoms (.string m.1, m.2) ++ .comma :: membersAtoms (m' :: members) := by
  unfold membersAtoms
  rw [List.map_cons, List.map_cons, List.intercalate_cons_cons, List.append_assoc]
  rfl

theorem recordAtoms_eq (members : List (String × List Atom)) :
    recordAtoms members = .openBrace :: (membersAtoms members ++ [.closeBrace]) := by
  unfold recordAtoms objectAtoms membersAtoms
  rw [List.map_map]
  rfl

/-- A member is taken by its key and then by its value. -/
theorem yields_member (h : Yields (member s m.1) (.colon :: m.2) result) :
    Yields (do member s (← key)) (memberAtoms (.string m.1, m.2)) result :=
  .token_bind rfl h

/-- Members between commas lead where they lead one by one, if no comma follows. -/
theorem separatedFromRun_members (h : MembersYield member s (m :: members) result)
    {rest : List Atom} (hrest : ∀ t ∈ rest.head?, decide (t = Atom.comma) = false) :
    Parser.separatedFromRun (· = .comma) (fun s => do member s (← key)) s
        (membersAtoms (m :: members) ++ rest)
      = result.map fun s' => (s', rest) := by
  induction members generalizing s m with
  | nil =>
      rw [membersAtoms_singleton]
      cases h with
      | more hfirst hmore =>
          cases hmore
          exact Parser.separatedFromRun_last (yields_member hfirst rest) hrest
      | stop hfirst => exact Parser.separatedFromRun_error (yields_member hfirst rest)
  | cons m' members ih =>
      rw [membersAtoms_cons_cons, List.append_assoc, List.cons_append]
      cases h with
      | more hfirst hmore =>
          rw [Parser.separatedFromRun_more (yields_member hfirst _) (by decide)]
          exact ih hmore
      | stop hfirst => exact Parser.separatedFromRun_error (yields_member hfirst _)

/-- The members of an object lead where they lead one by one. -/
theorem yields_members (h : MembersYield member s members result) :
    Yields (Json.members s member) (membersAtoms members ++ [.closeBrace]) result := by
  cases members with
  | nil =>
      cases h
      exact run_bracketed_empty
  | cons m members =>
      obtain ⟨more, hmore⟩ := prefix_intercalate [.comma] [memberAtoms (.string m.1, m.2)]
        (members.map fun m => memberAtoms (.string m.1, m.2))
      rw [List.intercalate_singleton, List.singleton_append] at hmore
      have hinside : membersAtoms (m :: members) = .string m.1 :: (.colon :: m.2 ++ more) :=
        hmore.symm
      exact yields_bracketed hinside nofun fun rest hrest =>
        separatedFromRun_members h (head_ne_comma hrest (by decide))

variable {I : List (String × List Atom) → σ → Prop}

/-- A member that is taken, with the invariant that its value keeps. -/
theorem takes_member (hstep : ∀ ms s key ⦃input rest s'⦄, I ms s →
      (member s key).run input = .ok (s', rest) →
      ∃ phrase, input = .colon :: (phrase ++ rest) ∧ I (ms ++ [(key, phrase)]) s')
    {ms : List (String × List Atom)} (hs : I ms s) {input rest : List Atom}
    (h : (do member s (← key) : AtomParser σ).run input = .ok (s', rest)) :
    ∃ m, input = memberAtoms (.string m.1, m.2) ++ rest ∧ I (ms ++ [m]) s' := by
  obtain ⟨k, mid, hkey, hvalue⟩ := Parser.run_bind_eq_ok.1 h
  obtain ⟨t, rfl, ht⟩ := takes_token hkey
  obtain rfl := eq_string_of_string? ht
  obtain ⟨phrase, rfl, hI⟩ := hstep ms s k hs hvalue
  exact ⟨(k, phrase), rfl, hI⟩

/-- What every member keeps, all members keep: `I` speaks of the members so far. -/
theorem takes_members {start : σ} (hstart : I [] start)
    (hstep : ∀ ms s key ⦃input rest s'⦄, I ms s →
      (member s key).run input = .ok (s', rest) →
      ∃ phrase, input = .colon :: (phrase ++ rest) ∧ I (ms ++ [(key, phrase)]) s') :
    Takes (Json.members start member)
      fun s phrase => ∃ ms, phrase = membersAtoms ms ++ [.closeBrace] ∧ I ms s := by
  have hrun : ∀ {ms s input s' rest}, I ms s →
      Parser.separatedFromRun (fun t => decide (t = Atom.comma)) (fun s => do member s (← key)) s
        input = .ok (s', rest) →
      ∃ m more, input = membersAtoms (m :: more) ++ rest ∧ I (ms ++ m :: more) s' := by
    intro ms s input s' rest hs h
    fun_induction Parser.separatedFromRun (fun t => decide (t = Atom.comma))
      (fun s => do member s (← key)) s input generalizing ms with
    | case1 => cases h
    | case2 s input s₁ hone =>
        cases h
        obtain ⟨m, rfl, hI⟩ := takes_member hstep hs hone
        exact ⟨m, [], by rw [membersAtoms_singleton], hI⟩
    | case3 s input s₁ t left hone ht ih =>
        obtain ⟨m, rfl, hI⟩ := takes_member hstep hs hone
        obtain ⟨m', more, rfl, hI'⟩ := ih hI h
        rw [List.append_assoc] at hI'
        refine ⟨m, m' :: more, ?_, hI'⟩
        rw [membersAtoms_cons_cons, of_decide_eq_true ht, List.append_assoc]
        rfl
    | case4 s input s₁ t left hone ht =>
        cases h
        obtain ⟨m, rfl, hI⟩ := takes_member hstep hs hone
        exact ⟨m, [], by rw [membersAtoms_singleton], hI⟩
  intro input rest s h
  rcases takes_bracketed h with ⟨rfl, rfl⟩ | hmembers
  · exact ⟨[.closeBrace], rfl, [], rfl, hstart⟩
  · obtain ⟨m, more, rfl, hI⟩ := hrun hstart hmembers
    exact ⟨membersAtoms (m :: more) ++ [.closeBrace], by simp, m :: more, rfl, hI⟩

end Members

/-! ## §6. Whole texts. -/

/-- What is made of a text that is one value and nothing else. -/
theorem readText_of_yields {value : AtomParser α} {text : List Char} {phrase : List Atom}
    {result : Except Fault α} (hatoms : atoms text = phrase) (h : Yields value phrase result) :
    readText value text = result := by
  have hrun := h []
  rw [List.append_nil] at hrun
  unfold readText
  rw [hatoms, hrun]
  cases result <;> rfl

/-- A text that was read has the shape of what was read. -/
theorem shape_of_readText {value : AtomParser α} {shape : α → List Atom → Prop} {text : List Char}
    {a : α} (hvalue : Takes value shape) (h : readText value text = .ok a) :
    shape a (atoms text) := by
  unfold readText at h
  split at h
  · cases h
  · next a' hrun =>
    cases h
    obtain ⟨phrase, hatoms, hphrase⟩ := hvalue hrun
    rw [List.append_nil] at hatoms
    rwa [hatoms]
  · cases h

end SmallSql.Json
