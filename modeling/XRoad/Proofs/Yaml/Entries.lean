import XRoad.Proofs.Yaml.Value

/-!
# What mappings hold

A text key that is set has its new value, every other text key the value it had. Entries with distinct
keys are found under their keys, and stay distinct when a key is set.
-/

namespace XRoad.Yaml.Entries

variable {es fs : Entries} {key v : Value} {s : String} {f g : Option Value → Value}

/-- No later key is the same as an earlier one. -/
def IsDistinct (es : Entries) : Prop :=
  es.Pairwise fun e f => f.1.same e.1 = false

def erase (es : Entries) (key : Value) : Entries :=
  es.filter fun e => !e.1.same key

theorem same_text_eq_false {k : Value} : k.same (.text s) = false ↔ k ≠ .text s := by
  rw [← Bool.not_eq_true, Value.same_text_iff]

theorem text_same_eq_false {k : Value} : (Value.text s).same k = false ↔ k ≠ .text s := by
  rw [← Bool.not_eq_true, Value.text_same_iff]

/-! ### Setting a key -/

theorem mem_alter {e : Value × Value} (m : e ∈ alter key f es) :
    e ∈ es ∨ (∃ old ∈ es, e = (old.1, f (some old.2))) ∨ e = (key, f none) := by
  induction es with
  | nil => exact .inr (.inr (List.mem_singleton.1 m))
  | cons first rest ih =>
    obtain ⟨k, v⟩ := first
    rw [alter] at m
    split at m
    · rcases List.mem_cons.1 m with rfl | m
      · exact .inr (.inl ⟨(k, v), List.mem_cons_self, rfl⟩)
      · exact .inl (List.mem_cons_of_mem _ m)
    · rcases List.mem_cons.1 m with rfl | m
      · exact .inl List.mem_cons_self
      · rcases ih m with m | ⟨old, present, rfl⟩ | new
        · exact .inl (List.mem_cons_of_mem _ m)
        · exact .inr (.inl ⟨old, List.mem_cons_of_mem _ present, rfl⟩)
        · exact .inr (.inr new)

/-- What holds of the keys and the values of a mapping still does when a new key and new values with
this property are written. -/
theorem forall_alter {P Q : Value → Prop} (all : ∀ e ∈ es, P e.1 ∧ Q e.2) (new : P key)
    (added : Q (f none)) (changed : ∀ e ∈ es, Q (f (some e.2))) :
    ∀ e ∈ alter key f es, P e.1 ∧ Q e.2 := by
  intro e m
  rcases mem_alter m with m | ⟨old, present, rfl⟩ | rfl
  · exact all e m
  · exact ⟨(all old present).1, changed old present⟩
  · exact ⟨new, added⟩

theorem forall_set {P Q : Value → Prop} (all : ∀ e ∈ es, P e.1 ∧ Q e.2) (new : P key) (value : Q v) :
    ∀ e ∈ set es key v, P e.1 ∧ Q e.2 :=
  forall_alter all new value fun _ _ => value

theorem forall_foldl_set {P Q : Value → Prop} (done : ∀ e ∈ es, P e.1 ∧ Q e.2)
    (all : ∀ e ∈ fs, P e.1 ∧ Q e.2) :
    ∀ e ∈ fs.foldl (fun es e => set es e.1 e.2) es, P e.1 ∧ Q e.2 := by
  induction fs generalizing es with
  | nil => exact done
  | cons e fs ih =>
    rw [List.forall_mem_cons] at all
    exact ih (forall_set done all.1.1 all.1.2) all.2

theorem alter_of_absent (absent : ∀ e ∈ es, key.same e.1 = false) :
    alter key f es = es ++ [(key, f none)] := by
  induction es with
  | nil => rfl
  | cons e rest ih =>
    obtain ⟨k, v⟩ := e
    rw [List.forall_mem_cons] at absent
    rw [alter, absent.1, if_neg Bool.false_ne_true, ih absent.2, List.cons_append]

theorem alter_alter : alter key g (alter key f es) = alter key (fun old => g (some (f old))) es := by
  induction es with
  | nil => simp only [alter, Value.same_refl, if_true]
  | cons e rest ih =>
    obtain ⟨k, v⟩ := e
    rw [alter]
    split
    case isTrue here => rw [alter, if_pos here, alter, if_pos here]
    case isFalse other => rw [alter, if_neg other, ih, alter, if_neg other]

theorem set_alter : set (alter key f es) key v = set es key v :=
  alter_alter

theorem isDistinct_alter (distinct : IsDistinct es) : IsDistinct (alter key f es) := by
  induction es with
  | nil => exact List.pairwise_singleton _ _
  | cons e rest ih =>
    obtain ⟨k, v⟩ := e
    obtain ⟨later, distinct⟩ := List.pairwise_cons.1 distinct
    rw [alter]
    split
    case isTrue => exact List.pairwise_cons.2 ⟨later, distinct⟩
    case isFalse other =>
      refine List.pairwise_cons.2 ⟨fun e m => ?_, ih distinct⟩
      rcases mem_alter m with m | ⟨old, present, rfl⟩ | rfl
      · exact later e m
      · exact later old present
      · exact Bool.not_eq_true _ ▸ other

theorem isDistinct_foldl_set (distinct : IsDistinct es) :
    IsDistinct (fs.foldl (fun es e => set es e.1 e.2) es) := by
  induction fs generalizing es with
  | nil => exact distinct
  | cons e fs ih => exact ih (isDistinct_alter distinct)

theorem absent_of_isDistinct {e : Value × Value} (distinct : IsDistinct (es ++ e :: fs)) :
    ∀ old ∈ es, e.1.same old.1 = false :=
  fun old m => (List.pairwise_append.1 distinct).2.2 old m e List.mem_cons_self

theorem foldl_set_of_isDistinct (distinct : IsDistinct (es ++ fs)) :
    fs.foldl (fun es e => set es e.1 e.2) es = es ++ fs := by
  induction fs generalizing es with
  | nil => exact (List.append_nil es).symm
  | cons e fs ih =>
    have step : set es e.1 e.2 = es ++ [e] := alter_of_absent (absent_of_isDistinct distinct)
    rw [List.append_cons] at distinct
    rw [List.foldl_cons, step, ih distinct, ← List.append_cons]

theorem foldl_set_eq_self (distinct : IsDistinct es) :
    es.foldl (fun es e => set es e.1 e.2) [] = es :=
  foldl_set_of_isDistinct (List.nil_append es ▸ distinct)

/-! ### Looking up a text key -/

theorem get?_cons_of_same {k : Value} (same : key.same k) : get? ((k, v) :: es) key = some v := by
  unfold get?
  rw [List.find?_cons_of_pos (by exact same), Option.map_some]

theorem get?_cons_of_other {k : Value} (other : key.same k = false) :
    get? ((k, v) :: es) key = get? es key := by
  unfold get?
  rw [List.find?_cons_of_neg (by simp [other])]

theorem get?_text_cons_self : get? ((.text s, v) :: es) (.text s) = some v :=
  get?_cons_of_same (Value.same_refl _)

theorem get?_text_cons_of_ne {k : Value} (other : k ≠ .text s) :
    get? ((k, v) :: es) (.text s) = get? es (.text s) :=
  get?_cons_of_other (text_same_eq_false.2 other)

theorem mem_of_get?_text (found : get? es (.text s) = some v) : (.text s, v) ∈ es := by
  obtain ⟨e, first, rfl⟩ := Option.map_eq_some_iff.1 found
  have same := List.find?_some first
  rw [← Value.text_same_iff.1 same]
  exact List.mem_of_find?_eq_some first

theorem get?_text_of_mem (distinct : IsDistinct es) (m : (.text s, v) ∈ es) :
    get? es (.text s) = some v := by
  induction es with
  | nil => cases m
  | cons e rest ih =>
    obtain ⟨k, w⟩ := e
    obtain ⟨later, distinct⟩ := List.pairwise_cons.1 distinct
    rcases List.mem_cons.1 m with here | m
    · obtain ⟨rfl, rfl⟩ := Prod.mk.inj here
      exact get?_text_cons_self
    · have other : k ≠ .text s := text_same_eq_false.1 (later _ m)
      rw [get?_text_cons_of_ne other, ih distinct m]

theorem get?_text_eq_none_iff : get? es (.text s) = none ↔ ∀ e ∈ es, e.1 ≠ .text s := by
  rw [get?, Option.map_eq_none_iff, List.find?_eq_none]
  exact forall₂_congr fun e _ => not_congr Value.text_same_iff

theorem get?_alter_self : get? (alter (.text s) f es) (.text s) = some (f (get? es (.text s))) := by
  induction es with
  | nil => exact get?_text_cons_self
  | cons e rest ih =>
    obtain ⟨k, v⟩ := e
    rw [alter]
    split
    case isTrue here =>
      rw [get?_cons_of_same here, get?_cons_of_same here]
    case isFalse other =>
      rw [Bool.not_eq_true] at other
      rw [get?_cons_of_other other, get?_cons_of_other other, ih]

theorem get?_alter_of_ne (other : key ≠ .text s) :
    get? (alter key f es) (.text s) = get? es (.text s) := by
  induction es with
  | nil => rw [alter, get?_text_cons_of_ne other]
  | cons e rest ih =>
    obtain ⟨k, v⟩ := e
    rw [alter]
    split
    case isTrue here =>
      have : k ≠ .text s := by
        rintro rfl
        exact other (Value.same_text_iff.1 here)
      rw [get?_text_cons_of_ne this, get?_text_cons_of_ne this]
    case isFalse =>
      by_cases here : k = .text s
      · subst here
        rw [get?_text_cons_self, get?_text_cons_self]
      · rw [get?_text_cons_of_ne here, get?_text_cons_of_ne here, ih]

theorem set_of_get? (found : get? es key = some v) : set es key v = es := by
  unfold set
  induction es with
  | nil => cases found
  | cons e rest ih =>
    obtain ⟨k, w⟩ := e
    by_cases here : key.same k
    · rw [get?_cons_of_same here] at found
      rw [alter, if_pos here, Option.some.inj found]
    · have other : key.same k = false := Bool.eq_false_iff.2 here
      rw [get?_cons_of_other other] at found
      rw [alter, if_neg here, ih found]

/-- A change under a key sets what it makes of the value that the key has. -/
theorem alter_eq_set : alter key f es = set es key (f (get? es key)) := by
  unfold set
  induction es with
  | nil => rfl
  | cons e rest ih =>
    obtain ⟨k, w⟩ := e
    rw [alter, alter]
    by_cases here : key.same k
    · rw [if_pos here, if_pos here, get?_cons_of_same here]
    · rw [if_neg here, if_neg here, ih, get?_cons_of_other (Bool.eq_false_iff.2 here)]

theorem get?_set (k : Value) :
    get? (set es k v) (.text s) = if k = .text s then some v else get? es (.text s) := by
  by_cases here : k = .text s
  · subst here
    rw [if_pos rfl]
    exact get?_alter_self
  · rw [if_neg here]
    exact get?_alter_of_ne here

/-- Of entries that are set one after the other, the last one of a key counts. -/
theorem get?_foldl_set :
    get? (fs.foldl (fun es e => set es e.1 e.2) es) (.text s) =
      ((fs.reverse.find? fun e => e.1 = .text s).map (·.2)).or (get? es (.text s)) := by
  induction fs generalizing es with
  | nil => rfl
  | cons e fs ih =>
    rw [List.foldl_cons, ih, get?_set, List.reverse_cons, List.find?_append]
    cases fs.reverse.find? fun e => e.1 = .text s with
    | some later => rfl
    | none =>
      by_cases here : e.1 = .text s
      · simp [here]
      · simp [here]

/-! ### Leaving out a text key -/

theorem isDistinct_erase (distinct : IsDistinct es) : IsDistinct (erase es key) :=
  List.Pairwise.filter _ distinct

theorem map_fst_erase (es : Entries) (s : String) :
    (erase es (.text s)).map Prod.fst = (es.map Prod.fst).filter (· ≠ .text s) := by
  rw [erase, List.filter_map]
  congr 1
  apply List.filter_congr
  intro e _
  by_cases here : e.1 = .text s
  · simp [here, Value.same_refl]
  · simp [here, same_text_eq_false.2 here]

theorem mem_of_mem_erase {e : Value × Value} (m : e ∈ erase es key) : e ∈ es :=
  (List.mem_filter.1 m).1

theorem erase_of_absent (absent : ∀ e ∈ es, e.1 ≠ .text s) : erase es (.text s) = es := by
  apply List.filter_eq_self.2
  intro e m
  rw [same_text_eq_false.2 (absent e m), Bool.not_false]

theorem erase_cons_self : erase ((.text s, v) :: es) (.text s) = erase es (.text s) :=
  List.filter_cons_of_neg (by simp [Value.same_refl])

theorem erase_cons_of_ne {e : Value × Value} (other : e.1 ≠ .text s) :
    erase (e :: es) (.text s) = e :: erase es (.text s) :=
  List.filter_cons_of_pos (by rw [same_text_eq_false.2 other, Bool.not_false])

theorem get?_erase_of_ne {t : String} (other : s ≠ t) :
    get? (erase es (.text s)) (.text t) = get? es (.text t) := by
  induction es with
  | nil => rfl
  | cons e rest ih =>
    obtain ⟨k, v⟩ := e
    by_cases erased : k = .text s
    · subst erased
      have : Value.text s ≠ .text t := fun same => other (Value.text.inj same)
      rw [erase_cons_self, ih, get?_text_cons_of_ne this]
    · rw [erase_cons_of_ne erased]
      by_cases here : k = .text t
      · subst here
        rw [get?_text_cons_self, get?_text_cons_self]
      · rw [get?_text_cons_of_ne here, get?_text_cons_of_ne here, ih]

theorem absent_of_isDistinct_cons (distinct : IsDistinct ((.text s, v) :: es)) :
    ∀ e ∈ es, e.1 ≠ .text s :=
  fun e m => same_text_eq_false.1 ((List.pairwise_cons.1 distinct).1 e m)

theorem forall_iff_erase {P : Value × Value → Prop} (distinct : IsDistinct es) (s : String) :
    (∀ e ∈ es, P e) ↔
      (∀ v, get? es (.text s) = some v → P (.text s, v)) ∧ ∀ e ∈ erase es (.text s), P e := by
  constructor
  · intro all
    exact ⟨fun v found => all _ (mem_of_get?_text found), fun e m => all e (mem_of_mem_erase m)⟩
  · rintro ⟨here, others⟩ e m
    by_cases key : e.1 = .text s
    · obtain ⟨k, v⟩ := e
      subst key
      exact here v (get?_text_of_mem distinct m)
    · refine others e (List.mem_filter.2 ⟨m, ?_⟩)
      rw [same_text_eq_false.2 key, Bool.not_false]

theorem length_erase (distinct : IsDistinct es) (present : get? es (.text s) = some v) :
    (erase es (.text s)).length + 1 = es.length := by
  induction es with
  | nil => cases present
  | cons e rest ih =>
    obtain ⟨k, w⟩ := e
    by_cases here : k = .text s
    · subst here
      rw [erase_cons_self, erase_of_absent (absent_of_isDistinct_cons distinct), List.length_cons]
    · rw [get?_text_cons_of_ne here] at present
      rw [erase_cons_of_ne here, List.length_cons, ih (List.pairwise_cons.1 distinct).2 present,
        List.length_cons]

end XRoad.Yaml.Entries
