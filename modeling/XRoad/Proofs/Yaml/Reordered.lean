import XRoad.Proofs.Yaml.Entries

/-!
# Entries that change places

The entries of a mapping may stand in another order, as long as entries under one key keep theirs.
What is changed under a text key then changes the same entry, so that changes under different keys
may be made in either order. Main statements: `Reordered.same` and `Reordered.alterAt_alterAt`.
-/

namespace XRoad.Yaml

open Entries (alter)

/-- The second value is the first with entries in another order, in the mapping itself or in
mappings that are values in it. Only entries under different keys change places. -/
inductive Reordered : Value → Value → Prop
  | refl (v : Value) : Reordered v v
  | swap {k l : Value} (different : k ≠ l) (v w : Value) (es : Entries) :
      Reordered (.mapping ((k, v) :: (l, w) :: es)) (.mapping ((l, w) :: (k, v) :: es))
  | value (k : Value) {v w : Value} (inner : Reordered v w) (es : Entries) :
      Reordered (.mapping ((k, v) :: es)) (.mapping ((k, w) :: es))
  | cons (e : Value × Value) {es fs : Entries} (rest : Reordered (.mapping es) (.mapping fs)) :
      Reordered (.mapping (e :: es)) (.mapping (e :: fs))
  | trans {u v w : Value} (first : Reordered u v) (second : Reordered v w) : Reordered u w

/-- Changes what a mapping has under a text key; a value that is no mapping stays as it is. -/
def Value.alterAt (s : String) (f : Option Value → Value) : Value → Value
  | .mapping es => .mapping (alter (.text s) f es)
  | v => v

variable {s t : String} {f g : Option Value → Value} {d d' : Value} {es : Entries}

theorem Value.alterAt_self : (d.alterAt s f).alterAt s g = d.alterAt s fun old => g (some (f old)) := by
  cases d with
  | mapping es => exact congrArg Value.mapping Entries.alter_alter
  | _ => rfl

namespace Reordered

theorem same {v w : Value} (reordered : Reordered v w) : v.same w := by
  induction reordered with
  | refl v => exact v.same_refl
  | swap _ v w es =>
    refine Value.same_mapping_iff.2 ⟨rfl, fun x m => ?_⟩
    exact ⟨x, (List.Perm.swap _ _ es).mem_iff.2 m, x.1.same_refl, x.2.same_refl⟩
  | value k _ es ih =>
    refine Value.same_mapping_iff.2 ⟨rfl, List.forall_mem_cons.2
      ⟨⟨_, List.mem_cons_self, k.same_refl, ih⟩, fun x m => ?_⟩⟩
    exact ⟨x, List.mem_cons_of_mem _ m, x.1.same_refl, x.2.same_refl⟩
  | cons e _ ih =>
    obtain ⟨length, all⟩ := Value.same_mapping_iff.1 ih
    refine Value.same_mapping_iff.2 ⟨congrArg Nat.succ length, List.forall_mem_cons.2
      ⟨⟨e, List.mem_cons_self, e.1.same_refl, e.2.same_refl⟩, fun x m => ?_⟩⟩
    obtain ⟨y, m, same⟩ := all x m
    exact ⟨y, List.mem_cons_of_mem _ m, same⟩
  | trans _ _ first second => exact Value.same_trans first second

/-- Two changes under one key that make reordered values make reordered mappings. -/
theorem alterAt_congr (related : ∀ old, Reordered (f old) (g old)) (d : Value) :
    Reordered (d.alterAt s f) (d.alterAt s g) := by
  cases d with
  | mapping es =>
    induction es with
    | nil => exact .value (.text s) (related none) []
    | cons e es ih =>
      obtain ⟨k, v⟩ := e
      simp only [Value.alterAt, alter] at ih ⊢
      split
      · exact .value k (related (some v)) es
      · exact .cons (k, v) ih
  | _ => exact .refl _

theorem alterAt (grows : ∀ {v w}, Reordered v w → Reordered (f (some v)) (f (some w)))
    (reordered : Reordered d d') : Reordered (d.alterAt s f) (d'.alterAt s f) := by
  induction reordered with
  | refl d => exact .refl _
  | @swap k l different v w es =>
    simp only [Value.alterAt, alter]
    by_cases first : (Value.text s).same k
    · -- Only one of two different keys is the text.
      have second : ¬(Value.text s).same l := fun here =>
        different ((Value.text_same_iff.1 first).trans (Value.text_same_iff.1 here).symm)
      simp only [if_pos first, if_neg second]
      exact .swap different _ w es
    · simp only [if_neg first]
      split
      · exact .swap different v _ es
      · exact .swap different v w _
  | value k inner es ih =>
    simp only [Value.alterAt, alter]
    split
    · exact .value k (grows inner) es
    · exact .value k inner _
  | cons e rest ih =>
    obtain ⟨k, v⟩ := e
    simp only [Value.alterAt, alter] at ih ⊢
    split
    · exact .cons _ rest
    · exact .cons _ ih
  | trans _ _ first second => exact .trans first second

/-- Under different keys it makes no difference which change is made first, but for the order of two
entries that are new. -/
theorem alterAt_alterAt (different : s ≠ t) (d : Value) :
    Reordered ((d.alterAt s f).alterAt t g) ((d.alterAt t g).alterAt s f) := by
  have other {s t : String} (different : s ≠ t) : ¬(Value.text s).same (.text t) := fun same =>
    different (Value.text.inj (Value.text_same_iff.1 same)).symm
  cases d with
  | mapping es =>
    induction es with
    | nil =>
      simp only [Value.alterAt, alter, if_neg (other different), if_neg (other different.symm)]
      exact .swap (fun same => different (Value.text.inj same)) _ _ []
    | cons e es ih =>
      obtain ⟨k, v⟩ := e
      simp only [Value.alterAt, alter] at ih ⊢
      by_cases first : (Value.text s).same k
      · have second : ¬(Value.text t).same k :=
          Value.text_same_iff.1 first ▸ other different.symm
        simp only [if_pos first, if_neg second, alter]
        exact .refl _
      · by_cases second : (Value.text t).same k
        · simp only [if_neg first, if_pos second, alter]
          exact .refl _
        · simp only [if_neg first, if_neg second, alter]
          exact .cons (k, v) ih
  | _ => exact .refl _

end Reordered

end XRoad.Yaml
