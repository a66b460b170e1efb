import XRoad.Proofs.Config.Keys

/-!
# Paths through a store

A path leads on through mappings, key by key. It may end early in two ways: at a value that is no
mapping, and at a mapping that lacks the next key.
-/

namespace XRoad.Config

open Yaml (Value Entries)

/-- Before its end the path comes to a value that has this property with the next key. -/
def ComesTo (P : String → Value → Prop) (path : List String) (d : Value) : Prop :=
  ∃ before key after v, path = before ++ key :: after ∧ lookup before d = .ok v ∧ P key v

/-- A path that comes to something that is no mapping. -/
def IsBlocked : List String → Value → Prop :=
  ComesTo fun _ v => ¬IsMapping v

/-- A path that comes to a mapping which lacks the next key. -/
def IsCutOff : List String → Value → Prop :=
  ComesTo fun key v => ∃ es, v = .mapping es ∧ Entries.get? es (storedKey key) = none

variable {path : List String} {es : Entries} {d v : Value} {key : String} {P : String → Value → Prop}

/-! ### Looking up -/

theorem toOption_lookupFrom (walked path : List String) (d : Value) :
    (lookupFrom walked path d).toOption = storedAt? (path.map Text.lower) d := by
  induction path generalizing walked d with
  | nil => rfl
  | cons key rest ih =>
    cases d with
    | mapping es =>
      rw [lookupFrom, List.map_cons, storedAt?, storedKey]
      cases Entries.get? es (.text (Text.lower key)) with
      | none => rfl
      | some v => exact ih (walked ++ [key]) v
    | _ => rfl

theorem toOption_lookup (path : List String) (d : Value) :
    (lookup path d).toOption = storedAt? (path.map Text.lower) d :=
  toOption_lookupFrom [] path d

theorem lookup_eq_ok_iff : lookup path d = .ok v ↔ storedAt? (path.map Text.lower) d = some v := by
  rw [← toOption_lookup]
  cases lookup path d <;> simp [Except.toOption]

theorem lookup_cons_ok_iff :
    lookup (key :: path) d = .ok v ↔ ∃ es inner, d = .mapping es ∧
      Entries.get? es (storedKey key) = some inner ∧ lookup path inner = .ok v := by
  simp only [lookup_eq_ok_iff, List.map_cons]
  cases d with
  | mapping es => simp [storedAt?, Option.bind_eq_some_iff, storedKey]
  | _ => simp [storedAt?]

theorem lookupFrom_append (walked before rest : List String) (d : Value) :
    lookupFrom walked (before ++ rest) d =
      (lookupFrom walked before d).bind (lookupFrom (walked ++ before) rest) := by
  induction before generalizing walked d with
  | nil => rw [List.nil_append, List.append_nil, lookupFrom, Except.bind]
  | cons key before ih =>
    cases d with
    | mapping es =>
      rw [List.cons_append, lookupFrom, lookupFrom]
      cases Entries.get? es (storedKey key) with
      | none => rfl
      | some inner => exact (ih (walked ++ [key]) inner).trans (by rw [List.append_assoc]; rfl)
    | _ => rfl

theorem lookupFrom_cons_of_not (other : ¬IsMapping d) (walked : List String) :
    lookupFrom walked (key :: path) d = .error (.notMapping walked) := by
  cases d with
  | mapping es => exact absurd trivial other
  | _ => rfl

theorem of_lookup {Q : Value → Prop}
    (values : ∀ {es s v}, Q (.mapping es) → Entries.get? es (.text s) = some v → Q v) (all : Q d)
    (found : lookup path d = .ok v) : Q v := by
  induction path generalizing d with
  | nil => exact Except.ok.inj found ▸ all
  | cons key rest ih =>
    obtain ⟨es, inner, rfl, first, found⟩ := lookup_cons_ok_iff.1 found
    exact ih (values all first) found

/-! ### Ending early -/

theorem not_comesTo_nil : ¬ComesTo P [] d := by
  rintro ⟨before, key, after, v, split, -⟩
  exact List.append_ne_nil_of_right_ne_nil before (List.cons_ne_nil key after) split.symm

theorem comesTo_cons :
    ComesTo P (key :: path) d ↔ P key d ∨ ∃ es inner, d = .mapping es ∧
      Entries.get? es (storedKey key) = some inner ∧ ComesTo P path inner := by
  constructor
  · rintro ⟨before, next, after, v, split, reached, here⟩
    cases before with
    | nil =>
      obtain ⟨rfl, rfl⟩ := List.cons.inj split
      obtain rfl := Except.ok.inj reached
      exact .inl here
    | cons first before =>
      obtain ⟨rfl, rfl⟩ := List.cons.inj split
      obtain ⟨es, inner, rfl, found, reached⟩ := lookup_cons_ok_iff.1 reached
      exact .inr ⟨es, inner, rfl, found, before, next, after, v, rfl, reached, here⟩
  · rintro (here | ⟨es, inner, rfl, found, before, next, after, v, rfl, reached, here⟩)
    · exact ⟨[], key, path, d, rfl, rfl, here⟩
    · refine ⟨key :: before, next, after, v, rfl, ?_, here⟩
      exact lookup_cons_ok_iff.2 ⟨es, inner, rfl, found, reached⟩

theorem isBlocked_cons_of_not (other : ¬IsMapping d) : IsBlocked (key :: path) d :=
  comesTo_cons.2 (.inl other)

theorem isBlocked_cons_mapping :
    IsBlocked (key :: path) (.mapping es) ↔
      ∃ inner, Entries.get? es (storedKey key) = some inner ∧ IsBlocked path inner := by
  have passes : ¬¬IsMapping (.mapping es) := not_not_intro trivial
  rw [IsBlocked, comesTo_cons, or_iff_right passes]
  simp

theorem lookup_of_isBlocked (blocked : IsBlocked path d) :
    ∃ walked, lookup path d = .error (.notMapping walked) := by
  obtain ⟨before, key, after, v, rfl, reached, other⟩ := blocked
  refine ⟨before, ?_⟩
  rw [lookup] at reached ⊢
  rw [lookupFrom_append, reached, Except.bind, lookupFrom_cons_of_not other, List.nil_append]

theorem lookup_of_isCutOff (cutOff : IsCutOff path d) :
    ∃ walked, lookup path d = .error (.missing walked) := by
  obtain ⟨before, key, after, v, rfl, reached, es, rfl, absent⟩ := cutOff
  refine ⟨before ++ [key], ?_⟩
  rw [lookup] at reached ⊢
  rw [lookupFrom_append, reached, Except.bind, lookupFrom, absent]
  rfl

end XRoad.Config
