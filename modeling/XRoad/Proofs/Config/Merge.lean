import XRoad.Config.Basic
import XRoad.Proofs.Config.Lower

/-!
# Settings over a template

A store that extends a template has every key of the template, save where something that is no
mapping took the place of one. Such a store over the template is the same store, and its paths lead
to the same values; setting something that is no mapping leaves a store an extension.
-/

namespace XRoad.Config

open Yaml (Value Entries)
open Yaml.Entries (IsDistinct)

def IsMapping : Value → Prop
  | .mapping _ => True
  | _ => False

/-- What settings are laid over: mappings under distinct text keys, in lower case. -/
inductive IsTemplate : Value → Prop
  | bool (b : Bool) : IsTemplate (.bool b)
  | text (s : String) : IsTemplate (.text s)
  | mapping {es : Entries} (distinct : IsDistinct es)
      (keys : ∀ e ∈ es, ∃ s, e.1 = .text s ∧ Text.lower s = s) (values : ∀ e ∈ es, IsTemplate e.2) :
      IsTemplate (.mapping es)

/-- Every key of the first value is one of the second, with a value that extends the one it has in the
first. Only where both are mappings is there anything to extend. -/
inductive Extends : Value → Value → Prop
  | mapping {es fs : Entries} (present : ∀ e ∈ es, Entries.get? fs e.1 ≠ none)
      (values : ∀ e ∈ es, ∀ v, Entries.get? fs e.1 = some v → Extends e.2 v) :
      Extends (.mapping es) (.mapping fs)
  | replaced {base v : Value} (other : ¬(IsMapping base ∧ IsMapping v)) : Extends base v

variable {es fs : Entries} {base v d : Value} {s : String}

theorem isMapping_iff : IsMapping v ↔ ∃ es, v = .mapping es := by
  cases v <;> simp [IsMapping]

theorem isLowered_of_isTemplate (template : IsTemplate base) : IsLowered base := by
  induction template with
  | bool b => exact .bool b
  | text s => exact .text s
  | mapping distinct keys _ ih =>
    refine .mapping distinct (fun e m => ?_) ih
    obtain ⟨s, key, lower⟩ := keys e m
    rw [key, isLowerKey_text_iff, lower]

theorem isTemplate_of_list (entries : List (String × Value))
    (distinct : (entries.map Prod.fst).Nodup) (lower : ∀ e ∈ entries, Text.lower e.1 = e.1)
    (values : ∀ e ∈ entries, IsTemplate e.2) :
    IsTemplate (.mapping (entries.map fun e => (.text e.1, e.2))) := by
  refine .mapping ?_ (List.forall_mem_map.2 fun e m => ⟨e.1, rfl, lower e m⟩)
    (List.forall_mem_map.2 values)
  apply List.pairwise_map.2
  apply (List.pairwise_map.1 distinct).imp
  intro e f other
  exact Entries.same_text_eq_false.2 fun same => other (Value.text.inj same).symm

/-! ### Merging -/

/-- A value of the template, under what there is over it. -/
def overlay (base : Value) : Option Value → Value
  | some v => merge base v
  | none => base

theorem merge_of_replaced (other : ¬(IsMapping base ∧ IsMapping v)) : merge base v = v := by
  cases base with
  | mapping es =>
    cases v with
    | mapping fs => exact absurd ⟨trivial, trivial⟩ other
    | _ => rfl
  | _ => cases v <;> rfl

theorem mergeEntries_of_isDistinct (distinct : IsDistinct (es ++ fs)) :
    mergeEntries es fs = es ++ fs := by
  induction fs generalizing es with
  | nil => exact (List.append_nil es).symm
  | cons f fs ih =>
    obtain ⟨k, v⟩ := f
    have step : mergeEntry es (k, v) = es ++ [(k, v)] :=
      Entries.alter_of_absent (Entries.absent_of_isDistinct distinct)
    rw [List.append_cons] at distinct
    rw [mergeEntries, step, ih distinct, ← List.append_cons]

theorem mergeEntries_nil (distinct : IsDistinct fs) : mergeEntries [] fs = fs :=
  mergeEntries_of_isDistinct (List.nil_append fs ▸ distinct)

/-- The entry of a text key takes what its key has, and the others go on with the rest. -/
theorem mergeEntries_cons (distinct : IsDistinct fs) :
    mergeEntries ((.text s, base) :: es) fs =
      (.text s, overlay base (Entries.get? fs (.text s))) ::
        mergeEntries es (Entries.erase fs (.text s)) := by
  induction fs generalizing base es with
  | nil => rfl
  | cons f fs ih =>
    obtain ⟨k, v⟩ := f
    have rest := (List.pairwise_cons.1 distinct).2
    by_cases here : k = .text s
    · subst here
      -- No later entry has the key, so what is merged into it now is all that it takes.
      have absent := Entries.absent_of_isDistinct_cons distinct
      rw [mergeEntries, mergeEntry, Entries.alter, if_pos (Value.same_refl _), ih rest,
        Entries.get?_text_cons_self, Entries.get?_text_eq_none_iff.2 absent,
        Entries.erase_cons_self]
      rfl
    · rw [mergeEntries, mergeEntry, Entries.alter, Entries.same_text_eq_false.2 here,
        if_neg Bool.false_ne_true, ih rest, Entries.get?_text_cons_of_ne here,
        Entries.erase_cons_of_ne here, mergeEntries, mergeEntry]

section
variable (keys : ∀ e ∈ es, ∃ s, e.1 = .text s) (distinct : IsDistinct fs)
include keys distinct

/-- A key of the template has its value under what the key has over it; any other key has its own. -/
theorem get?_mergeEntries :
    Entries.get? (mergeEntries es fs) (.text s) =
      match Entries.get? es (.text s) with
      | some base => some (overlay base (Entries.get? fs (.text s)))
      | none => Entries.get? fs (.text s) := by
  induction es generalizing fs with
  | nil =>
    rw [mergeEntries_nil distinct]
    rfl
  | cons e es ih =>
    obtain ⟨k, b⟩ := e
    obtain ⟨⟨t, rfl⟩, texts⟩ := List.forall_mem_cons.1 keys
    rw [mergeEntries_cons distinct]
    by_cases here : t = s
    · subst here
      rw [Entries.get?_text_cons_self, Entries.get?_text_cons_self]
    · have other : Value.text t ≠ .text s := fun same => here (Value.text.inj same)
      rw [Entries.get?_text_cons_of_ne other, Entries.get?_text_cons_of_ne other,
        ih texts (Entries.isDistinct_erase distinct), Entries.get?_erase_of_ne here]

theorem same_mergeEntries (unique : IsDistinct es)
    (values : ∀ e ∈ es, ∃ v, Entries.get? fs e.1 = some v ∧ (merge e.2 v).same v) :
    (Value.mapping (mergeEntries es fs)).same (.mapping fs) := by
  rw [Value.same_mapping_iff]
  induction es generalizing fs with
  | nil =>
    rw [mergeEntries_nil distinct, ← Value.same_mapping_iff]
    exact Value.same_refl _
  | cons e es ih =>
    obtain ⟨k, b⟩ := e
    obtain ⟨⟨t, rfl⟩, texts⟩ := List.forall_mem_cons.1 keys
    obtain ⟨⟨v, found, same⟩, others⟩ := List.forall_mem_cons.1 values
    have absent := Entries.absent_of_isDistinct_cons unique
    have later : ∀ e ∈ es, ∃ v, Entries.get? (Entries.erase fs (.text t)) e.1 = some v ∧
        (merge e.2 v).same v := by
      intro e m
      obtain ⟨u, key⟩ := texts e m
      have other : t ≠ u := by
        rintro rfl
        exact absent e m key
      obtain ⟨v, found, same⟩ := others e m
      rw [key] at found
      exact ⟨v, by rw [key, Entries.get?_erase_of_ne other, found], same⟩
    obtain ⟨length, rest⟩ :=
      ih texts (Entries.isDistinct_erase distinct) (List.pairwise_cons.1 unique).2 later
    rw [mergeEntries_cons distinct, found]
    refine ⟨?_, List.forall_mem_cons.2 ⟨?_, ?_⟩⟩
    -- The key of the template is there, and there once: the lengths grow alike.
    · rw [List.length_cons, length, Entries.length_erase distinct found]
    · exact ⟨(.text t, v), Entries.mem_of_get?_text found, Value.same_refl _, same⟩
    · intro e m
      obtain ⟨f, present, same⟩ := rest e m
      exact ⟨f, Entries.mem_of_mem_erase present, same⟩

end

/-! ### Extending a template -/

theorem keys_of_isTemplate (template : IsTemplate (.mapping es)) :
    (∀ e ∈ es, ∃ s, e.1 = .text s) ∧ IsDistinct es := by
  cases template with
  | mapping distinct keys _ =>
    refine ⟨fun e m => ?_, distinct⟩
    obtain ⟨s, key, -⟩ := keys e m
    exact ⟨s, key⟩

theorem isTemplate_of_mem {e : Value × Value} (template : IsTemplate (.mapping es)) (m : e ∈ es) :
    IsTemplate e.2 := by
  cases template with
  | mapping _ _ values => exact values e m

theorem isDistinct_of_isLowered (lowered : IsLowered (.mapping es)) : IsDistinct es :=
  (isLowered_mapping_iff.1 lowered).1

theorem extends_mapping_iff :
    Extends (.mapping es) (.mapping fs) ↔
      ∀ e ∈ es, ∃ v, Entries.get? fs e.1 = some v ∧ Extends e.2 v := by
  constructor
  · intro extending e m
    cases extending with
    | replaced other => exact absurd ⟨trivial, trivial⟩ other
    | mapping present values =>
      obtain ⟨v, found⟩ := Option.ne_none_iff_exists'.1 (present e m)
      exact ⟨v, found, values e m v found⟩
  · intro all
    refine .mapping (fun e m => ?_) fun e m v found => ?_
    · obtain ⟨v, found, -⟩ := all e m
      rw [found]
      exact Option.some_ne_none v
    · obtain ⟨w, found', extending⟩ := all e m
      exact Option.some.inj (found'.symm.trans found) ▸ extending

theorem extends_refl (template : IsTemplate base) : Extends base base := by
  induction template with
  | bool b => exact .replaced fun both => both.1
  | text s => exact .replaced fun both => both.1
  | mapping distinct keys _ ih =>
    refine extends_mapping_iff.2 fun e m => ⟨e.2, ?_, ih e m⟩
    obtain ⟨s, key, -⟩ := keys e m
    rw [key]
    exact Entries.get?_text_of_mem distinct (key ▸ m)

theorem extends_merge (template : IsTemplate base) (lowered : IsLowered v) :
    Extends base (merge base v) := by
  induction template generalizing v with
  | bool b => exact .replaced fun both => both.1
  | text s => exact .replaced fun both => both.1
  | @mapping es distinct keys values ih =>
    cases v with
    | mapping fs =>
      obtain ⟨texts, -⟩ := keys_of_isTemplate (.mapping distinct keys values)
      refine extends_mapping_iff.2 fun e m => ⟨overlay e.2 (Entries.get? fs e.1), ?_, ?_⟩
      · obtain ⟨s, key⟩ := texts e m
        have there : (.text s, e.2) ∈ es := key ▸ m
        rw [key, get?_mergeEntries texts (isDistinct_of_isLowered lowered),
          Entries.get?_text_of_mem distinct there]
      · obtain ⟨s, key⟩ := texts e m
        rw [key]
        cases given : Entries.get? fs (.text s) with
        | none => exact extends_refl (values e m)
        | some w => exact ih e m (isLowered_of_get? lowered given)
    | _ => exact .replaced fun both => both.2

theorem extends_set {key : String} (keys : ∀ e ∈ es, ∃ s, e.1 = .text s)
    (extending : Extends (.mapping es) (.mapping fs))
    (value : ∀ e ∈ es, e.1 = storedKey key → Extends e.2 v) :
    Extends (.mapping es) (.mapping (Entries.set fs (storedKey key) v)) := by
  rw [extends_mapping_iff] at extending ⊢
  intro e m
  obtain ⟨s, text⟩ := keys e m
  by_cases here : storedKey key = .text s
  · refine ⟨v, ?_, value e m (text.trans here.symm)⟩
    rw [text, here]
    exact Entries.get?_alter_self
  · obtain ⟨old, was, extending⟩ := extending e m
    refine ⟨old, ?_, extending⟩
    rw [text] at was ⊢
    exact (Entries.get?_alter_of_ne here).trans was

theorem extends_set? {path : List String} {after : Value} (template : IsTemplate base)
    (value : ¬IsMapping v) (extending : Extends base d) (made : set? v path d = some after) :
    Extends base after := by
  induction path generalizing base d after with
  -- At the end of the path the value takes the place of whatever the template has there.
  | nil => exact .replaced fun both => value (Option.some.inj made ▸ both.2)
  | cons key rest ih =>
    obtain ⟨fs, inner, rfl, further, rfl⟩ := set?_cons made
    cases base with
    | mapping es =>
      refine extends_set (keys_of_isTemplate template).1 extending fun e m here => ?_
      obtain ⟨old, was, extending⟩ := extends_mapping_iff.1 extending e m
      rw [← here, was, Option.getD_some] at further
      exact ih (isTemplate_of_mem template m) extending further
    | _ => exact .replaced fun both => both.1

/-- A store that extends a template is the same store when it is laid over the template. -/
theorem same_merge (template : IsTemplate base) (extending : Extends base d) (lowered : IsLowered d) :
    (merge base d).same d := by
  induction extending with
  | replaced other =>
    rw [merge_of_replaced other]
    exact Value.same_refl _
  | @mapping es fs present values ih =>
    obtain ⟨keys, unique⟩ := keys_of_isTemplate template
    refine same_mergeEntries keys (isDistinct_of_isLowered lowered) unique fun e m => ?_
    obtain ⟨v, found⟩ := Option.ne_none_iff_exists'.1 (present e m)
    obtain ⟨s, text⟩ := keys e m
    have value : IsLowered v := isLowered_of_get? lowered (text ▸ found)
    exact ⟨v, found, ih e m v found (isTemplate_of_mem template m) value⟩

end XRoad.Config
