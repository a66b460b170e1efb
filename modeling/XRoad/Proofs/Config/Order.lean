import XRoad.Proofs.Config.Run
import XRoad.Proofs.Config.Setting
import XRoad.Proofs.Yaml.Reordered

/-!
# Variables in any order

The environment comes in no fixed order. As long as no variable goes through or into what another
one sets, that makes no difference: writes whose paths part change different values, and a write
that fails fails before and after the others. What differs is only where new keys stand in their
mappings. Main statement: `overrideAll_perm`.
-/

namespace XRoad.Config

open Yaml (Value Entries Reordered)

def overridePaths (environment : List (String × String)) : List (List String) :=
  environment.filterMap fun setting => (overridePath? setting.1).map (·.map Text.lower)

/-- Neither write goes through or into what the other one sets. -/
def AreApart (a b : Write) : Prop :=
  Apart (a.1.map Text.lower) (b.1.map Text.lower)

variable {d d' : Value} {a b : Write} {writes permuted : List Write}

/-! ### One write after another -/

/-- A write below a key changes what stands there; where nothing does, nothing is in the way. -/
theorem write_cons (d v : Value) (key : String) (path : List String) :
    write d (key :: path, v) =
      d.alterAt (Text.lower key) fun old => write (old.getD (.mapping [])) (path, v) := by
  cases d with
  | mapping es =>
    have level (f : Option Value → Value) : (Value.mapping es).alterAt (Text.lower key) f =
        .mapping (Entries.set es (storedKey key) (f (Entries.get? es (storedKey key)))) :=
      congrArg Value.mapping Entries.alter_eq_set
    rw [level, write, set?_cons_mapping, write]
    cases made : set? v path ((Entries.get? es (storedKey key)).getD (.mapping [])) with
    | some inner => rfl
    | none =>
      cases found : Entries.get? es (storedKey key) with
      | none => exact absurd (found ▸ made) (set?_new_ne_none path)
      | some old => exact congrArg Value.mapping (Entries.set_of_get? found).symm
  | _ => rfl

theorem write_reordered (w : Write) (reordered : Reordered d d') : Reordered (write d w) (write d' w) := by
  obtain ⟨path, v⟩ := w
  induction path generalizing d d' with
  | nil => exact .refl v
  | cons key path ih =>
    rw [write_cons, write_cons]
    exact reordered.alterAt ih

theorem AreApart.symm (apart : AreApart a b) : AreApart b a :=
  ⟨apart.2, apart.1⟩

/-- Writes whose paths part may be made in either order, whichever of them fail. -/
theorem write_write (apart : AreApart a b) (d : Value) :
    Reordered (write (write d a) b) (write (write d b) a) := by
  obtain ⟨p, v⟩ := a
  obtain ⟨q, w⟩ := b
  simp only [AreApart] at apart
  induction p generalizing q d with
  | nil => exact absurd List.nil_prefix apart.1
  | cons key p ih =>
    cases q with
    | nil => exact absurd apart not_apart_nil
    | cons key' q =>
      simp only [write_cons]
      by_cases same : Text.lower key = Text.lower key'
      · rw [List.map_cons, List.map_cons, same, apart_cons] at apart
        rw [same, Value.alterAt_self, Value.alterAt_self]
        exact Reordered.alterAt_congr (fun old => ih _ q apart) d
      · exact Reordered.alterAt_alterAt same d

/-! ### Many writes -/

theorem foldl_write_reordered (writes : List Write) (reordered : Reordered d d') :
    Reordered (writes.foldl write d) (writes.foldl write d') := by
  induction writes generalizing d d' with
  | nil => exact reordered
  | cons w writes ih => exact ih (write_reordered w reordered)

theorem foldl_write_perm (perm : writes.Perm permuted) (apart : writes.Pairwise AreApart) (d : Value) :
    Reordered (writes.foldl write d) (permuted.foldl write d) := by
  induction perm generalizing d with
  | nil => exact .refl d
  | cons w _ ih => exact ih (List.pairwise_cons.1 apart).2 (write d w)
  | swap a b rest =>
    have first : AreApart b a := (List.pairwise_cons.1 apart).1 a List.mem_cons_self
    exact foldl_write_reordered rest (write_write first d)
  | trans before _ first second =>
    exact .trans (first apart d) (second (before.pairwise apart AreApart.symm) d)

/-! ### Variables -/

theorem pairwise_variableWrites {environment : List (String × String)} :
    (variableWrites environment).Pairwise AreApart ↔ (overridePaths environment).Pairwise Apart := by
  have paths : overridePaths environment =
      (variableWrites environment).map fun w => w.1.map Text.lower := by
    rw [overridePaths, variableWrites, List.map_filterMap]
    refine List.filterMap_congr fun setting _ => ?_
    rw [variableWrite?, Option.map_map]
    rfl
  rw [paths, List.pairwise_map]
  rfl

/-- Whatever the order in which variables come whose paths part, they make the same of every
document, but for the order of keys, and a variable with another beginning makes no difference
anywhere among them. -/
theorem overrideAll_perm (d : Value) :
    (∀ environment permuted : List (String × String), permuted.Perm environment →
      (overridePaths environment).Pairwise Apart →
        (overrideAll variableValue environment d).same (overrideAll variableValue permuted d)) ∧
      ∀ (before after : List (String × String)) (name text : String),
        ¬overrideStart.toList <+: name.toList →
          overrideAll variableValue (before ++ (name, text) :: after) d =
            overrideAll variableValue (before ++ after) d := by
  constructor
  · intro environment permuted perm apart
    rw [overrideAll_eq_foldl, overrideAll_eq_foldl]
    exact (foldl_write_perm (perm.symm.filterMap variableWrite?) (pairwise_variableWrites.2 apart) d).same
  · intro before after name text other
    have quiet : variableWrite? (name, text) = none := by
      rw [variableWrite?, overridePath?, if_neg fun starts => other (List.isPrefixOf_iff_prefix.1 starts)]
      rfl
    simp only [overrideAll_eq_foldl, variableWrites, List.filterMap_append, List.filterMap_cons, quiet]

/-- Two variables share a level that is not there yet, one goes into a mapping, one fails at a text,
and one is of another program. -/
theorem overrideAll_perm_failing :
    let d : Value := .mapping [(.text "client", .text "FI"), (.text "codec", .mapping [])]
    let first := [("XRDCODEC_CONFIG__SERVICES__A__ID", "1"), ("XRDCODEC_CONFIG__Codec__X", "{y: 2}"),
      ("XRDCODEC_CONFIG__CLIENT__NAME", "F")]
    let last := [("XRDCODEC_CONFIG__Services__b", "- 3")]
    let ordered := first ++ ("PATH", "/bin") :: last
    let reversed := last ++ ("PATH", "/bin") :: first.reverse
    reversed.Perm ordered ∧ (overridePaths ordered).Pairwise Apart ∧
      (overrideAll variableValue ordered d).same (overrideAll variableValue reversed d) ∧
      overrideAll variableValue ordered d ≠ overrideAll variableValue reversed d ∧
      overrideAll variableValue ordered d = overrideAll variableValue (first ++ last) d := by
  intro d first last ordered reversed
  have perm : reversed.Perm ordered := by decide
  have apart : (overridePaths ordered).Pairwise Apart := by decide +kernel
  obtain ⟨same, others⟩ := overrideAll_perm d
  exact ⟨perm, apart, same ordered reversed perm apart, by decide +kernel,
    others first last "PATH" "/bin" (by decide +kernel)⟩

end XRoad.Config
