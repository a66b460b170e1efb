import XRoad.Config.Store
import XRoad.Proofs.Text.Case
import XRoad.Proofs.Yaml.Entries

/-!
# Lowered stores

The letters of a store's keys are made lower case once: in a lowered store nothing changes. What is
set in a lowered store, or merged into one, leaves it lowered.
-/

namespace XRoad.Config

open Yaml (Value Entries)
open Yaml.Entries (IsDistinct)

def IsLowerKey (k : Value) : Prop :=
  lowerKey k = k

/-- The keys of all mappings stand in lower case, each once. What stands under a tag is no part of the
store. -/
inductive IsLowered : Value → Prop
  | null : IsLowered .null
  | bool (b : Bool) : IsLowered (.bool b)
  | number (n : Yaml.Number) : IsLowered (.number n)
  | text (s : String) : IsLowered (.text s)
  | sequence {vs : List Value} (items : ∀ v ∈ vs, IsLowered v) : IsLowered (.sequence vs)
  | mapping {es : Entries} (distinct : IsDistinct es) (keys : ∀ e ∈ es, IsLowerKey e.1)
      (values : ∀ e ∈ es, IsLowered e.2) : IsLowered (.mapping es)
  | tagged (tag : String) (v : Value) : IsLowered (.tagged tag v)

variable {es fs : Entries} {v d : Value}

theorem isLowered_mapping_iff :
    IsLowered (.mapping es) ↔ IsDistinct es ∧ ∀ e ∈ es, IsLowerKey e.1 ∧ IsLowered e.2 := by
  constructor
  · intro lowered
    cases lowered with
    | mapping distinct keys values => exact ⟨distinct, fun e m => ⟨keys e m, values e m⟩⟩
  · rintro ⟨distinct, all⟩
    exact .mapping distinct (fun e m => (all e m).1) fun e m => (all e m).2

/-! ### Keys -/

theorem isLowerKey_lowerKey (k : Value) : IsLowerKey (lowerKey k) := by
  unfold IsLowerKey
  cases k with
  | text s => rw [lowerKey, lowerKey, Text.lower_lower]
  | _ => rfl

theorem isLowerKey_storedKey (key : String) : IsLowerKey (storedKey key) :=
  isLowerKey_lowerKey (.text key)

theorem isLowerKey_text_iff {s : String} : IsLowerKey (.text s) ↔ Text.lower s = s := by
  rw [IsLowerKey, lowerKey, Value.text.injEq]

/-! ### Lowering -/

theorem lowerItems_eq_map (vs : List Value) : lowerItems vs = vs.map lowerKeys := by
  induction vs with
  | nil => rfl
  | cons v vs ih => rw [lowerItems, ih, List.map_cons]

theorem lowerEntries_eq_map (es : Entries) :
    lowerEntries es = es.map fun e => (lowerKey e.1, lowerKeys e.2) := by
  induction es with
  | nil => rfl
  | cons e es ih => rw [lowerEntries, lowerEntry, ih, List.map_cons]

theorem isLowered_lowerKeys (v : Value) : IsLowered (lowerKeys v) := by
  induction v using Value.induction with
  | null => exact .null
  | bool b => exact .bool b
  | number n => exact .number n
  | text s => exact .text s
  | sequence vs ih =>
    rw [lowerKeys, lowerItems_eq_map]
    exact .sequence (List.forall_mem_map.2 ih)
  | mapping es ih =>
    rw [lowerKeys, lowerEntries_eq_map]
    refine isLowered_mapping_iff.2
      ⟨Entries.isDistinct_foldl_set .nil, Entries.forall_foldl_set (List.forall_mem_nil _) ?_⟩
    exact List.forall_mem_map.2 fun e m => ⟨isLowerKey_lowerKey e.1, (ih e m).2⟩
  | tagged t v => exact .tagged t v

theorem lowerKeys_eq_self (lowered : IsLowered v) : lowerKeys v = v := by
  induction lowered with
  | @sequence vs _ ih =>
    have items : vs.map lowerKeys = vs := (List.map_congr_left ih).trans (List.map_id vs)
    rw [lowerKeys, lowerItems_eq_map, items]
  | @mapping es distinct keys _ ih =>
    have entries : es.map (fun e => (lowerKey e.1, lowerKeys e.2)) = es.map id := by
      apply List.map_congr_left
      intro e m
      rw [show lowerKey e.1 = e.1 from keys e m, ih e m, id]
    rw [lowerKeys, lowerEntries_eq_map, entries, List.map_id]
    exact congrArg Value.mapping (Entries.foldl_set_eq_self distinct)
  | _ => rfl

/-! ### Setting and merging -/

theorem set?_cons {key : String} {rest : List String} {after : Value}
    (made : set? v (key :: rest) d = some after) :
    ∃ es inner, d = .mapping es ∧
      set? v rest ((Entries.get? es (storedKey key)).getD (.mapping [])) = some inner ∧
      after = .mapping (Entries.set es (storedKey key) inner) := by
  cases d with
  | mapping es =>
    obtain ⟨inner, further, rfl⟩ := Option.map_eq_some_iff.1 made
    exact ⟨es, inner, rfl, further, rfl⟩
  | _ => cases made

theorem isLowered_set (lowered : IsLowered (.mapping es)) (key : String) (value : IsLowered v) :
    IsLowered (.mapping (Entries.set es (storedKey key) v)) := by
  obtain ⟨distinct, all⟩ := isLowered_mapping_iff.1 lowered
  exact isLowered_mapping_iff.2 ⟨Entries.isDistinct_alter distinct,
    Entries.forall_set all (isLowerKey_storedKey key) value⟩

theorem isLowered_of_get? (lowered : IsLowered (.mapping es)) {s : String}
    (found : Entries.get? es (.text s) = some v) : IsLowered v :=
  ((isLowered_mapping_iff.1 lowered).2 _ (Entries.mem_of_get?_text found)).2

/-- The part of a store that a step of `set?` goes on with. -/
theorem isLowered_inner (lowered : IsLowered (.mapping es)) (key : String) :
    IsLowered ((Entries.get? es (storedKey key)).getD (.mapping [])) := by
  cases found : Entries.get? es (storedKey key) with
  | none => exact .mapping .nil (List.forall_mem_nil _) (List.forall_mem_nil _)
  | some v => exact isLowered_of_get? lowered found

theorem isLowered_set? {path : List String} {after : Value} (value : IsLowered v)
    (lowered : IsLowered d) (made : set? v path d = some after) : IsLowered after := by
  induction path generalizing d after with
  | nil => exact Option.some.inj made ▸ value
  | cons key rest ih =>
    obtain ⟨es, inner, rfl, further, rfl⟩ := set?_cons made
    exact isLowered_set lowered key (ih (isLowered_inner lowered key) further)

theorem isLowered_mergeEntries
    (value : ∀ f ∈ fs, ∀ {old : Value}, IsLowered old → IsLowered (merge old f.2))
    (all : ∀ f ∈ fs, IsLowerKey f.1 ∧ IsLowered f.2) (lowered : IsLowered (.mapping es)) :
    IsLowered (.mapping (mergeEntries es fs)) := by
  induction fs generalizing es with
  | nil => exact lowered
  | cons f fs ih =>
    obtain ⟨k, v⟩ := f
    rw [List.forall_mem_cons] at value all
    rw [mergeEntries, mergeEntry]
    obtain ⟨distinct, old⟩ := isLowered_mapping_iff.1 lowered
    apply ih value.2 all.2
    refine isLowered_mapping_iff.2 ⟨Entries.isDistinct_alter distinct, ?_⟩
    exact Entries.forall_alter (Q := IsLowered) old all.1.1 all.1.2 fun e m => value.1 (old e m).2

theorem isLowered_merge {base : Value} (before : IsLowered base) (lowered : IsLowered v) :
    IsLowered (merge base v) := by
  induction lowered generalizing base with
  | mapping distinct keys values ih =>
    cases base with
    | mapping es =>
      exact isLowered_mergeEntries (fun f m _ => ih f m) (fun f m => ⟨keys f m, values f m⟩) before
    | _ => exact .mapping distinct keys values
  | sequence items => cases base <;> exact .sequence items
  | null => cases base <;> exact .null
  | bool b => cases base <;> exact .bool b
  | number n => cases base <;> exact .number n
  | text s => cases base <;> exact .text s
  | tagged t v => cases base <;> exact .tagged t v

end XRoad.Config
