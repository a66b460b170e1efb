import XRoad.Yaml.Value

/-!
# Equality of values

A value is the same as itself. Only a text is the same as a text, so entries under text keys are found
whatever other keys there are. Equality that minds the order of mappings is decidable.
-/

namespace XRoad.Yaml

theorem Number.same_refl (n : Number) : n.same n := by
  cases n with
  | integer n => exact beq_self_eq_true n
  | float x =>
    unfold Number.same
    split <;> simp_all

/-- Only zeros are the same without being equal. -/
theorem Number.same_iff {m n : Number} :
    m.same n ↔ m = n ∨ ∃ a b, m = .float (.finite a 0) ∧ n = .float (.finite b 0) := by
  constructor
  · unfold Number.same
    split <;> simp_all
  · rintro (rfl | ⟨a, b, rfl, rfl⟩)
    · exact m.same_refl
    · rfl

theorem Number.same_trans {l m n : Number} (first : l.same m) (second : m.same n) : l.same n := by
  rw [same_iff] at first second ⊢
  rcases first with rfl | ⟨a, b, rfl, rfl⟩
  · exact second
  · rcases second with rfl | ⟨a', b', -, rfl⟩
    · exact .inr ⟨a, b, rfl, rfl⟩
    · exact .inr ⟨a, b', rfl, rfl⟩

namespace Value

def IsScalar : Value → Prop
  | .null | .bool _ | .number _ | .text _ => True
  | _ => False

/-- What holds of scalars, and of a collection or a tagged value when it holds of all parts. -/
@[elab_as_elim]
theorem induction {P : Value → Prop} (null : P .null) (bool : ∀ b, P (.bool b))
    (number : ∀ n, P (.number n)) (text : ∀ s, P (.text s))
    (sequence : ∀ vs, (∀ v ∈ vs, P v) → P (.sequence vs))
    (mapping : ∀ es, (∀ e ∈ es, P e.1 ∧ P e.2) → P (.mapping es))
    (tagged : ∀ t v, P v → P (.tagged t v)) : ∀ v, P v
  | .null => null
  | .bool b => bool b
  | .number n => number n
  | .text s => text s
  | .sequence vs => sequence vs fun v m =>
    have : sizeOf v < sizeOf vs := List.sizeOf_lt_of_mem m
    induction null bool number text sequence mapping tagged v
  | .mapping es => mapping es fun e m => by
    have : sizeOf e < sizeOf es := List.sizeOf_lt_of_mem m
    have : sizeOf e = 1 + sizeOf e.1 + sizeOf e.2 := rfl
    exact ⟨induction null bool number text sequence mapping tagged e.1,
      induction null bool number text sequence mapping tagged e.2⟩
  | .tagged t v => tagged t v (induction null bool number text sequence mapping tagged v)
termination_by v => sizeOf v

/-! ### Equality up to the order of mappings -/

theorem sameEntries_iff {as bs : Entries} :
    sameEntries as bs ↔ ∀ e ∈ as, ∃ f ∈ bs, e.1.same f.1 ∧ e.2.same f.2 := by
  induction as with
  | nil => simp [sameEntries]
  | cons e as ih =>
    obtain ⟨k, v⟩ := e
    rw [sameEntries, Bool.and_eq_true, List.any_eq_true, ih, List.forall_mem_cons]
    refine and_congr_left fun _ => exists_congr fun f => ?_
    obtain ⟨l, w⟩ := f
    rw [sameEntry, Bool.and_eq_true]

theorem same_mapping_iff {as bs : Entries} :
    (Value.mapping as).same (.mapping bs) ↔
      as.length = bs.length ∧ ∀ e ∈ as, ∃ f ∈ bs, e.1.same f.1 ∧ e.2.same f.2 := by
  rw [same, Bool.and_eq_true, beq_iff_eq, sameEntries_iff]

theorem sameItems_refl {vs : List Value} (same : ∀ v ∈ vs, v.same v) : sameItems vs vs := by
  induction vs with
  | nil => rw [sameItems]
  | cons v vs ih =>
    rw [sameItems, Bool.and_eq_true]
    exact ⟨same v List.mem_cons_self, ih fun w m => same w (List.mem_cons_of_mem v m)⟩

theorem same_refl (v : Value) : v.same v := by
  induction v using Value.induction with
  | null => rw [same]
  | bool b => rw [same, beq_self_eq_true]
  | number n => rw [same]; exact n.same_refl
  | text s => rw [same, beq_self_eq_true]
  | sequence vs ih => rw [same]; exact sameItems_refl ih
  | mapping es ih =>
    rw [same_mapping_iff]
    exact ⟨rfl, fun e m => ⟨e, m, ih e m⟩⟩
  | tagged t v ih => rw [same, beq_self_eq_true, ih]; rfl

theorem text_same_iff {s : String} {k : Value} : (Value.text s).same k ↔ k = .text s := by
  cases k with
  | text t => rw [same, beq_iff_eq, text.injEq, eq_comm]
  | _ => simp [same]

theorem same_text_iff {s : String} {k : Value} : k.same (.text s) ↔ k = .text s := by
  cases k <;> simp [same]

theorem sameItems_trans {us vs ws : List Value}
    (same : ∀ u ∈ us, ∀ v w, u.same v → v.same w → u.same w) (first : sameItems us vs)
    (second : sameItems vs ws) : sameItems us ws := by
  induction us generalizing vs ws with
  | nil =>
    cases vs with
    | nil => exact second
    | cons => simp [sameItems] at first
  | cons u us ih =>
    cases vs with
    | nil => simp [sameItems] at first
    | cons v vs =>
      cases ws with
      | nil => simp [sameItems] at second
      | cons w ws =>
        rw [sameItems, Bool.and_eq_true] at first second ⊢
        rw [List.forall_mem_cons] at same
        exact ⟨same.1 v w first.1 second.1, ih same.2 first.2 second.2⟩

theorem same_trans {u v w : Value} (first : u.same v) (second : v.same w) : u.same w := by
  induction u using Value.induction generalizing v w with
  | null => cases v <;> simp_all [same]
  | bool b => cases v <;> cases w <;> simp_all [same]
  | number n =>
    cases v with
    | number m =>
      cases w with
      | number l =>
        rw [same] at first second ⊢
        exact Number.same_trans first second
      | _ => simp [same] at second
    | _ => simp [same] at first
  | text s => exact (text_same_iff.1 first) ▸ second
  | sequence us ih =>
    cases v with
    | sequence vs =>
      cases w with
      | sequence ws =>
        rw [same] at first second ⊢
        exact sameItems_trans (fun u m v w => ih u m) first second
      | _ => simp [same] at second
    | _ => simp [same] at first
  | mapping es ih =>
    cases v with
    | mapping fs =>
      cases w with
      | mapping gs =>
        rw [same_mapping_iff] at first second ⊢
        refine ⟨first.1.trans second.1, fun e m => ?_⟩
        obtain ⟨f, mf, key, value⟩ := first.2 e m
        obtain ⟨g, mg, key', value'⟩ := second.2 f mf
        exact ⟨g, mg, (ih e m).1 key key', (ih e m).2 value value'⟩
      | _ => simp [same] at second
    | _ => simp [same] at first
  | tagged t u ih =>
    cases v with
    | tagged t' v =>
      cases w with
      | tagged t'' w =>
        rw [same, Bool.and_eq_true, beq_iff_eq] at first second ⊢
        exact ⟨first.1.trans second.1, ih first.2 second.2⟩
      | _ => simp [same] at second
    | _ => simp [same] at first

/-! ### Equality -/

mutual

/-- Equal, the order of mappings included. -/
def equals : Value → Value → Bool
  | .null, .null => true
  | .bool a, .bool b => a == b
  | .number m, .number n => m == n
  | .text s, .text t => s == t
  | .sequence as, .sequence bs => equalItems as bs
  | .mapping as, .mapping bs => equalEntries as bs
  | .tagged s a, .tagged t b => s == t && equals a b
  | _, _ => false

def equalItems : List Value → List Value → Bool
  | [], [] => true
  | a :: as, b :: bs => equals a b && equalItems as bs
  | _, _ => false

def equalEntries : Entries → Entries → Bool
  | [], [] => true
  | (k, v) :: as, (l, w) :: bs => equals k l && equals v w && equalEntries as bs
  | _, _ => false

end

theorem equalItems_iff {as : List Value} (equal : ∀ v ∈ as, ∀ w, v.equals w ↔ v = w)
    (bs : List Value) : equalItems as bs ↔ as = bs := by
  induction as generalizing bs with
  | nil => cases bs <;> simp [equalItems]
  | cons v as ih =>
    rw [List.forall_mem_cons] at equal
    cases bs with
    | nil => simp [equalItems]
    | cons w bs => rw [equalItems, Bool.and_eq_true, equal.1, ih equal.2, List.cons.injEq]

theorem equalEntries_iff {as : Entries}
    (equal : ∀ e ∈ as, (∀ w, e.1.equals w ↔ e.1 = w) ∧ ∀ w, e.2.equals w ↔ e.2 = w) (bs : Entries) :
    equalEntries as bs ↔ as = bs := by
  induction as generalizing bs with
  | nil => cases bs <;> simp [equalEntries]
  | cons e as ih =>
    obtain ⟨k, v⟩ := e
    rw [List.forall_mem_cons] at equal
    cases bs with
    | nil => simp [equalEntries]
    | cons f bs =>
      obtain ⟨l, w⟩ := f
      rw [equalEntries, Bool.and_eq_true, Bool.and_eq_true, equal.1.1, equal.1.2, ih equal.2,
        List.cons.injEq, Prod.mk.injEq]

theorem equals_iff (v w : Value) : v.equals w ↔ v = w := by
  induction v using Value.induction generalizing w with
  | sequence vs ih =>
    cases w with
    | sequence ws => rw [equals, equalItems_iff ih, sequence.injEq]
    | _ => simp [equals]
  | mapping es ih =>
    cases w with
    | mapping fs => rw [equals, equalEntries_iff ih, mapping.injEq]
    | _ => simp [equals]
  | tagged t v ih =>
    cases w with
    | tagged s w => rw [equals, Bool.and_eq_true, beq_iff_eq, ih, tagged.injEq]
    | _ => simp [equals]
  | _ => cases w <;> simp [equals]

instance : DecidableEq Value := fun v w => decidable_of_iff _ (equals_iff v w)

end Value

end XRoad.Yaml
