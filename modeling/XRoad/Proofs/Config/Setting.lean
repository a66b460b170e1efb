import XRoad.Proofs.Config.Path

/-!
# Setting a value

A value is set in place, level by level, and where a level is missing it is made before anything
below it can fail. All the same, setting fails as a whole or not at all: what is in the way was
there before, so nothing was made. After it the value stands at its path, and paths that part from
this one lead where they led before. Main statement: `set_laws`.
-/

namespace XRoad.Config

open Yaml (Value Entries)

/-- Neither path leads through the other. -/
def Apart (p q : List String) : Prop :=
  ¬p <+: q ∧ ¬q <+: p

instance (p q : List String) : Decidable (Apart p q) :=
  inferInstanceAs (Decidable (_ ∧ _))

variable {path p q : List String} {es : Entries} {v d after : Value} {key : String}

/-! ### All or nothing -/

theorem set?_cons_mapping :
    set? v (key :: path) (.mapping es) =
      (set? v path ((Entries.get? es (storedKey key)).getD (.mapping []))).map fun inner =>
        .mapping (Entries.set es (storedKey key) inner) :=
  rfl

theorem set?_cons_of_not (other : ¬IsMapping d) : set? v (key :: path) d = none := by
  cases d with
  | mapping es => exact absurd trivial other
  | _ => rfl

/-- In a new mapping every path can be made. -/
theorem set?_new_ne_none (path : List String) : set? v path (.mapping []) ≠ none := by
  induction path with
  | nil => exact Option.some_ne_none v
  | cons key rest ih =>
    rw [set?_cons_mapping]
    exact fun failed => ih (Option.map_eq_none_iff.1 failed)

theorem set?_eq_none_iff : set? v path d = none ↔ IsBlocked path d := by
  induction path generalizing d with
  | nil => exact iff_of_false (Option.some_ne_none v) not_comesTo_nil
  | cons key rest ih =>
    by_cases mapping : IsMapping d
    · obtain ⟨es, rfl⟩ := isMapping_iff.1 mapping
      rw [set?_cons_mapping, Option.map_eq_none_iff, isBlocked_cons_mapping]
      cases Entries.get? es (storedKey key) with
      | none => exact iff_of_false (set?_new_ne_none rest) nofun
      | some inner => simp [ih]
    · exact iff_of_true (set?_cons_of_not mapping) (isBlocked_cons_of_not mapping)

/-- Setting in place reaches the end of the path or leaves everything as it was. -/
theorem setInPlace_eq (v : Value) (path : List String) (d : Value) :
    setInPlace v path d = ((set? v path d).getD d, (set? v path d).isSome) := by
  fun_induction setInPlace v path d with
  | case1 d => rfl
  | case2 key es => rfl
  | case3 key rest es _ made step ih =>
    have level : Entries.get? made (storedKey key) =
        some ((Entries.get? es (storedKey key)).getD (.mapping [])) :=
      Entries.get?_alter_self
    change step = _ at ih
    rw [level, Option.getD_some] at ih
    rw [ih, set?_cons_mapping, Entries.set_alter]
    cases deeper : set? v rest ((Entries.get? es (storedKey key)).getD (.mapping [])) with
    | some inner => rfl
    | none =>
      -- A level that was missing has been made new, and there nothing can fail.
      cases found : Entries.get? es (storedKey key) with
      | none =>
        rw [found] at deeper
        exact absurd deeper (set?_new_ne_none _)
      | some inner =>
        rw [Option.getD_none, Option.getD_some, Entries.set_of_get? found]
        rfl
  | case4 key rest d _ other =>
    have blocked : ¬IsMapping d := fun mapping => by
      obtain ⟨es, rfl⟩ := isMapping_iff.1 mapping
      exact other es rfl
    rw [set?_cons_of_not blocked]
    rfl

/-! ### What is found afterwards -/

/-- Each level of a path that was set is what was made of the level that was there. -/
theorem set?_append (made : set? v (p ++ q) d = some after) :
    ∃ before inner, set? v q before = some inner ∧ storedAt? (p.map Text.lower) after = some inner := by
  induction p generalizing d after with
  | nil => exact ⟨d, after, made, rfl⟩
  | cons key rest ih =>
    obtain ⟨es, inner, rfl, further, rfl⟩ := set?_cons made
    obtain ⟨before, last, set, reached⟩ := ih further
    refine ⟨before, last, set, ?_⟩
    rw [List.map_cons, storedAt?, storedKey, Entries.get?_set, if_pos rfl]
    exact reached

theorem storedAt?_of_set? (made : set? v path d = some after) :
    storedAt? (path.map Text.lower) after = some v := by
  rw [← List.append_nil path] at made
  obtain ⟨before, inner, set, reached⟩ := set?_append made
  rw [Option.some.inj set]
  exact List.append_nil path ▸ reached

theorem mapping_of_set? (made : set? v (p ++ key :: q) d = some after) :
    ∃ es, storedAt? (p.map Text.lower) after = some (.mapping es) := by
  obtain ⟨before, inner, set, reached⟩ := set?_append made
  obtain ⟨es, deeper, -, -, rfl⟩ := set?_cons set
  exact ⟨_, reached⟩

theorem apart_cons {k : String} {p q : List String} : Apart (k :: p) (k :: q) ↔ Apart p q := by
  simp only [Apart, List.cons_prefix_cons, true_and]

theorem not_apart_nil {p : List String} : ¬Apart p [] :=
  fun apart => apart.2 List.nil_prefix

theorem storedAt?_new (nonempty : p ≠ []) : storedAt? p (.mapping []) = none := by
  cases p with
  | nil => exact absurd rfl nonempty
  | cons key rest => rfl

theorem storedAt?_of_apart (apart : Apart (path.map Text.lower) q) (made : set? v path d = some after) :
    storedAt? q after = storedAt? q d := by
  induction path generalizing q d after with
  | nil => exact absurd List.nil_prefix apart.1
  | cons key rest ih =>
    cases q with
    | nil => exact absurd apart not_apart_nil
    | cons k q =>
      obtain ⟨es, inner, rfl, further, rfl⟩ := set?_cons made
      rw [storedAt?, storedAt?, storedKey, Entries.get?_set]
      split
      · next here =>
        obtain rfl := Value.text.inj here
        have deeper := apart_cons.1 apart
        rw [Option.bind_some, ih deeper further, storedKey]
        cases Entries.get? es (.text (Text.lower key)) with
        | none =>
          refine storedAt?_new ?_
          rintro rfl
          exact not_apart_nil deeper
        | some old => rfl
      · rfl

/-- A value can be set unless something is in the way that is no mapping, and if it cannot, setting
in place has made nothing either. Otherwise the value is found at the path, in any letter case, the
levels above it are mappings, and where a path leads that parts from this one does not change. -/
theorem set_laws (v : Value) (path : List String) (d : Value) :
    (set? v path d = none ↔ IsBlocked path d) ∧
      setInPlace v path d = ((set? v path d).getD d, (set? v path d).isSome) ∧
      ∀ after, set? v path d = some after →
        (∀ q, q.map Text.lower = path.map Text.lower → lookup q after = .ok v) ∧
        (∀ q, q.map Text.lower <+: path.map Text.lower → q.map Text.lower ≠ path.map Text.lower →
          ∃ es, lookup q after = .ok (.mapping es)) ∧
        ∀ q, Apart (path.map Text.lower) (q.map Text.lower) →
          (lookup q after).toOption = (lookup q d).toOption := by
  refine ⟨set?_eq_none_iff, setInPlace_eq v path d, fun after made => ⟨?_, ?_, ?_⟩⟩
  · intro q same
    rw [lookup_eq_ok_iff, same]
    exact storedAt?_of_set? made
  · rintro q ⟨rest, split⟩ proper
    obtain ⟨before, below, rfl, same, -⟩ := List.map_eq_append_iff.1 split.symm
    cases below with
    | nil => exact absurd (by rw [← same, List.append_nil]) proper
    | cons key below =>
      obtain ⟨es, reached⟩ := mapping_of_set? made
      exact ⟨es, lookup_eq_ok_iff.2 (same ▸ reached)⟩
  · intro q apart
    rw [toOption_lookup, toOption_lookup]
    exact storedAt?_of_apart apart made

/-- A path with a new level beside an old key, and one that a text is in the way of. -/
theorem set_laws_new :
    let d : Value := .mapping [
      (.text "codec", .mapping [(.text "x", .bool true)]), (.text "log", .text "INFO")]
    let after : Value := .mapping [
      (.text "codec", .mapping [(.text "x", .bool true), (.text "new", .mapping [(.text "y", .null)])]),
      (.text "log", .text "INFO")]
    set? .null ["Codec", "New", "Y"] d = some after ∧
      lookup ["CODEC", "new", "y"] after = .ok .null ∧
      (∃ es, lookup ["codec", "NEW"] after = .ok (.mapping es)) ∧
      (lookup ["codec", "X"] after).toOption = (lookup ["codec", "X"] d).toOption ∧
      setInPlace .null ["Log", "New", "Y"] d = (d, false) := by
  intro d after
  have made : set? .null ["Codec", "New", "Y"] d = some after := by decide +kernel
  obtain ⟨-, -, written⟩ := set_laws .null ["Codec", "New", "Y"] d
  obtain ⟨here, above, apart⟩ := written after made
  have blocked : set? .null ["Log", "New", "Y"] d = none := by decide +kernel
  obtain ⟨-, kept, -⟩ := set_laws .null ["Log", "New", "Y"] d
  refine ⟨made, here _ (by decide +kernel), above _ (by decide +kernel) (by decide +kernel),
    apart _ (by decide +kernel), ?_⟩
  rw [kept, blocked]
  rfl

end XRoad.Config
