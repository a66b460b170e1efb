import Mathlib.Data.List.Induction
import Mathlib.Order.Basic
import XRoad.Table

/-!
# What tables hold

A key that is set has its new value, every other key the value it had; a table that is made of a
list has the last value that the list gives, and its keys in the order in which they first come.
-/

namespace XRoad

variable {β : Type}

theorem lookup_cons_if (key k : String) (v : β) (entries : List (String × β)) :
    ((k, v) :: entries).lookup key = if key = k then some v else entries.lookup key := by
  rw [List.lookup_cons]
  by_cases same : key = k
  · simp [same]
  · simp [same, beq_false_of_ne same]

theorem lookup_alterEntries (key other : String) (f : Option β → β) (entries : List (String × β)) :
    (alterEntries key f entries).lookup other =
      if other = key then some (f (entries.lookup key)) else entries.lookup other := by
  induction entries with
  | nil => rw [alterEntries, lookup_cons_if, List.lookup_nil, List.lookup_nil]
  | cons e rest ih =>
    obtain ⟨k, v⟩ := e
    by_cases here : k = key
    · subst here
      rw [alterEntries, if_pos rfl, lookup_cons_if, lookup_cons_if, lookup_cons_if, if_pos rfl]
      split <;> rfl
    · rw [alterEntries, if_neg here, lookup_cons_if, lookup_cons_if, lookup_cons_if, ih,
        if_neg (Ne.symm here)]
      by_cases same : other = k
      · subst same
        rw [if_pos rfl, if_pos rfl, if_neg here]
      · rw [if_neg same, if_neg same]

theorem nodup_alterEntries {entries : List (String × β)} (key : String) (f : Option β → β)
    (nodup : (entries.map Prod.fst).Nodup) : ((alterEntries key f entries).map Prod.fst).Nodup :=
  (Table.alter ⟨entries, nodup⟩ key f).distinct

theorem alterEntries_of_absent {key : String} (f : Option β → β) {entries : List (String × β)}
    (absent : key ∉ entries.map Prod.fst) :
    alterEntries key f entries = entries ++ [(key, f none)] := by
  induction entries with
  | nil => rfl
  | cons e rest ih =>
    obtain ⟨k, v⟩ := e
    rw [List.map_cons, List.mem_cons, not_or] at absent
    rw [alterEntries, if_neg (Ne.symm absent.1), ih absent.2, List.cons_append]

namespace Table

theorem get?_alter (t : Table β) (key other : String) (f : Option β → β) :
    (t.alter key f).get? other = if other = key then some (f (t.get? key)) else t.get? other :=
  lookup_alterEntries key other f t.entries

theorem get?_insert (t : Table β) (key other : String) (value : β) :
    (t.insert key value).get? other = if other = key then some value else t.get? other :=
  t.get?_alter key other fun _ => value

theorem get?_foldl_insert (pairs : List (String × β)) (t : Table β) (key : String) :
    (pairs.foldl (fun t p => t.insert p.1 p.2) t).get? key =
      (pairs.reverse.lookup key).or (t.get? key) := by
  induction pairs generalizing t with
  | nil => simp
  | cons p pairs ih =>
    rw [List.foldl_cons, ih, get?_insert, List.reverse_cons, List.lookup_append]
    rw [show [p].lookup key = if key = p.1 then some p.2 else none from lookup_cons_if key p.1 p.2 []]
    rw [Option.or_assoc]
    split <;> rfl

/-- The last value of a key counts. -/
theorem get?_ofList (pairs : List (String × β)) (key : String) :
    (ofList pairs).get? key = pairs.reverse.lookup key := by
  rw [ofList, get?_foldl_insert]
  exact Option.or_none

theorem mem_of_get?_ofList {pairs : List (String × β)} {key : String} {v : β}
    (found : (ofList pairs).get? key = some v) : (key, v) ∈ pairs := by
  rw [get?_ofList] at found
  obtain ⟨before, after, split, -⟩ := List.lookup_eq_some_iff.1 found
  rw [← List.mem_reverse, split]
  exact List.mem_append_right before List.mem_cons_self

theorem get?_ofList_eq_some_iff {pairs : List (String × β)} {key : String} {v : β} :
    (ofList pairs).get? key = some v ↔
      ∃ before after, pairs = before ++ (key, v) :: after ∧ ∀ p ∈ after, p.1 ≠ key := by
  rw [get?_ofList, List.lookup_eq_some_iff]
  constructor
  · rintro ⟨after, before, split, others⟩
    refine ⟨before.reverse, after.reverse, ?_, fun p m => ?_⟩
    · rw [← List.reverse_reverse pairs, split]
      simp
    · exact (bne_iff_ne.1 (others p (List.mem_reverse.1 m))).symm
  · rintro ⟨before, after, rfl, others⟩
    refine ⟨after.reverse, before.reverse, by simp, fun p m => ?_⟩
    exact bne_iff_ne.2 (others p (List.mem_reverse.1 m)).symm

/-! ### The order of keys -/

theorem keys_ofList_concat (pairs : List (String × β)) (p : String × β) :
    (ofList (pairs ++ [p])).keys =
      if p.1 ∈ (ofList pairs).keys then (ofList pairs).keys else (ofList pairs).keys ++ [p.1] := by
  rw [ofList, List.foldl_append, List.foldl_cons, List.foldl_nil, keys_insert]
  rfl

theorem mem_keys_ofList {pairs : List (String × β)} {key : String} :
    key ∈ (ofList pairs).keys ↔ ∃ v, (key, v) ∈ pairs := by
  induction pairs using List.reverseRecOn with
  | nil => simp [ofList, keys, empty]
  | append_singleton pairs p ih =>
    obtain ⟨k, v⟩ := p
    have grown : key ∈ (ofList (pairs ++ [(k, v)])).keys ↔ key ∈ (ofList pairs).keys ∨ key = k := by
      rw [keys_ofList_concat]
      split
      · next known => exact ⟨.inl, fun m => m.elim id fun same => same ▸ known⟩
      · rw [List.mem_append, List.mem_singleton]
    simp only [grown, ih, List.mem_append, List.mem_singleton, Prod.mk.injEq, exists_or,
      exists_and_left, exists_eq, and_true]

/-- A key that stands before another one first came in a pair before all pairs of that one. -/
theorem pairwise_keys_ofList (pairs : List (String × β)) :
    (ofList pairs).keys.Pairwise fun k k' =>
      ∃ before v after, pairs = before ++ (k, v) :: after ∧ ∀ p ∈ before, p.1 ≠ k' := by
  induction pairs using List.reverseRecOn with
  | nil => exact .nil
  | append_singleton pairs p ih =>
    have kept : (ofList pairs).keys.Pairwise fun k k' =>
        ∃ before v after, pairs ++ [p] = before ++ (k, v) :: after ∧ ∀ q ∈ before, q.1 ≠ k' := by
      refine ih.imp ?_
      rintro k k' ⟨before, v, after, rfl, others⟩
      exact ⟨before, v, after ++ [p], by simp, others⟩
    rw [keys_ofList_concat]
    split
    · exact kept
    · next fresh =>
      refine List.pairwise_append.2 ⟨kept, List.pairwise_singleton _ _, fun k known k' new => ?_⟩
      obtain rfl := List.mem_singleton.1 new
      obtain ⟨v, here⟩ := mem_keys_ofList.1 known
      obtain ⟨before, after, rfl⟩ := List.append_of_mem here
      refine ⟨before, v, after ++ [p], by simp, fun q m same => fresh ?_⟩
      exact mem_keys_ofList.2 ⟨q.2, List.mem_append_left _ (same ▸ m)⟩

/-! ### Tables of what stands at some places -/

section
variable {π : Type} [Preorder π] {ps : List (π × String × β)}
  (sorted : ps.Pairwise fun a b => a.1 < b.1)
include sorted

/-- A key that stands before another one has a place before all places of that one. -/
theorem pairwise_keys_of_sorted :
    (ofList (ps.map (·.2))).keys.Pairwise fun k k' =>
      ∃ place v, (place, k, v) ∈ ps ∧ ∀ place' v', (place', k', v') ∈ ps → place < place' := by
  refine ((pairwise_keys_ofList _).and (ofList (ps.map (·.2))).distinct).imp ?_
  rintro k k' ⟨⟨before, v, after, split, others⟩, different⟩
  obtain ⟨front, back, rfl, rfl, rest⟩ := List.map_eq_append_iff.1 split
  obtain ⟨⟨place, pair⟩, back, rfl, rfl, -⟩ := List.map_eq_cons_iff.1 rest
  refine ⟨place, v, List.mem_append_right _ List.mem_cons_self, fun place' v' m => ?_⟩
  rcases List.mem_append.1 m with early | late
  · exact absurd rfl (others (k', v') (List.mem_map_of_mem early))
  · rcases List.mem_cons.1 late with here | late
    · exact absurd (congrArg (·.2.1) here).symm different
    · exact (List.pairwise_cons.1 (List.pairwise_append.1 sorted).2.1).1 _ late

theorem get?_of_sorted {key : String} {v : β} :
    (ofList (ps.map (·.2))).get? key = some v ↔
      ∃ place, (place, key, v) ∈ ps ∧ ∀ place' v', (place', key, v') ∈ ps → ¬ place < place' := by
  rw [get?_ofList_eq_some_iff]
  constructor
  · rintro ⟨before, after, split, others⟩
    obtain ⟨front, back, rfl, rfl, rest⟩ := List.map_eq_append_iff.1 split
    obtain ⟨⟨place, pair⟩, back, rfl, rfl, rfl⟩ := List.map_eq_cons_iff.1 rest
    refine ⟨place, List.mem_append_right _ List.mem_cons_self, fun place' v' m => ?_⟩
    rcases List.mem_append.1 m with early | late
    · exact lt_asymm ((List.pairwise_append.1 sorted).2.2 _ early _ List.mem_cons_self)
    · rcases List.mem_cons.1 late with here | late
      · rw [(Prod.mk.inj here).1]
        exact lt_irrefl place
      · exact absurd rfl (others (key, v') (List.mem_map_of_mem late))
  · rintro ⟨place, here, last⟩
    obtain ⟨front, back, rfl⟩ := List.append_of_mem here
    refine ⟨front.map (·.2), back.map (·.2), by simp, fun p m same => ?_⟩
    obtain ⟨⟨place', k, v'⟩, late, rfl⟩ := List.mem_map.1 m
    obtain rfl : k = key := same
    refine last place' v' (List.mem_append_right _ (List.mem_cons_of_mem _ late)) ?_
    exact (List.pairwise_cons.1 (List.pairwise_append.1 sorted).2.1).1 _ late

end

theorem ext {s t : Table β} (same : s.entries = t.entries) : s = t := by
  obtain ⟨entries, distinct⟩ := s
  subst same
  rfl

theorem entries_foldl_insert {pairs : List (String × β)} {t : Table β}
    (fresh : ((t.entries ++ pairs).map Prod.fst).Nodup) :
    (pairs.foldl (fun t p => t.insert p.1 p.2) t).entries = t.entries ++ pairs := by
  induction pairs generalizing t with
  | nil => exact (List.append_nil _).symm
  | cons p pairs ih =>
    have absent : p.1 ∉ t.entries.map Prod.fst := by
      intro present
      rw [List.map_append, List.map_cons, List.nodup_append] at fresh
      exact fresh.2.2 p.1 present p.1 List.mem_cons_self rfl
    have added : (t.insert p.1 p.2).entries = t.entries ++ [p] :=
      alterEntries_of_absent (fun _ => p.2) absent
    have rest : (t.insert p.1 p.2).entries ++ pairs = t.entries ++ p :: pairs := by
      rw [added, List.append_assoc, List.singleton_append]
    rw [List.foldl_cons, ih (by rwa [rest]), rest]

theorem ofList_entries (t : Table β) : ofList t.entries = t := by
  have fresh : (((empty : Table β).entries ++ t.entries).map Prod.fst).Nodup := t.distinct
  exact ext (entries_foldl_insert fresh)

/-! ### All values of a key -/

section
variable {α β : Type}

theorem eraseDups_concat (keys : List String) (key : String) :
    (keys ++ [key]).eraseDups = if key ∈ keys then keys.eraseDups else keys.eraseDups ++ [key] := by
  rw [List.eraseDups_append, List.cons_removeAll]
  by_cases known : key ∈ keys
  · simp [known]
  · simp [known, List.eraseDups_cons]

theorem keys_alter (t : Table β) (key : String) (f : Option β → β) :
    (t.alter key f).keys = if key ∈ t.keys then t.keys else t.keys ++ [key] :=
  alterEntries_keys ..

theorem get?_of_mem {t : Table β} {e : String × β} (m : e ∈ t.entries) : t.get? e.1 = some e.2 := by
  obtain ⟨before, after, split⟩ := List.append_of_mem m
  refine List.lookup_eq_some_iff.2 ⟨before, after, split, fun p early => bne_iff_ne.2 ?_⟩
  have distinct := t.distinct
  rw [split, List.map_append, List.map_cons, List.nodup_append] at distinct
  exact (distinct.2.2 p.1 (List.mem_map_of_mem early) e.1 List.mem_cons_self).symm

/-- A table is what its keys have, key by key. -/
theorem entries_eq (t : Table β) :
    t.entries.map (fun e => (e.1, some e.2)) = t.keys.map fun k => (k, t.get? k) := by
  rw [keys, List.map_map]
  exact List.map_congr_left fun e m => Prod.ext rfl (get?_of_mem m).symm

/-- The values that some pairs give a key, in order. -/
def valuesOf (pairs : List (String × α)) (key : String) : List α :=
  (pairs.filter (·.1 == key)).map Prod.snd

/-- The table of some pairs in which each value is taken into what its key already has. -/
def gather (step : Option β → α → β) (pairs : List (String × α)) : Table β :=
  pairs.foldl (fun t p => t.alter p.1 (step · p.2)) empty

variable (step : Option β → α → β) (pairs : List (String × α))

theorem gather_concat (p : String × α) :
    gather step (pairs ++ [p]) = (gather step pairs).alter p.1 (step · p.2) := by
  rw [gather, List.foldl_append, List.foldl_cons, List.foldl_nil]
  rfl

theorem valuesOf_concat (p : String × α) (key : String) :
    valuesOf (pairs ++ [p]) key = valuesOf pairs key ++ if key = p.1 then [p.2] else [] := by
  rw [valuesOf, List.filter_append, List.map_append, ← valuesOf]
  by_cases here : p.1 = key
  · simp [here]
  · simp [here, Ne.symm here]

theorem keys_gather : (gather step pairs).keys = (pairs.map Prod.fst).eraseDups := by
  induction pairs using List.reverseRecOn with
  | nil => rfl
  | append_singleton pairs p ih =>
    rw [gather_concat, keys_alter, ih, List.map_append, List.map_singleton, eraseDups_concat]
    simp only [List.mem_eraseDups]

theorem get?_gather (key : String) :
    (gather step pairs).get? key = (valuesOf pairs key).foldl (fun old v => some (step old v)) none := by
  induction pairs using List.reverseRecOn with
  | nil => rfl
  | append_singleton pairs p ih =>
    rw [gather_concat, get?_alter, valuesOf_concat, List.foldl_append]
    split
    · next here =>
      subst here
      rw [ih]
      rfl
    · exact ih

/-- Each key once, in the order in which they first come, with all its values taken together. -/
theorem entries_gather :
    (gather step pairs).entries.map (fun e => (e.1, some e.2)) =
      (pairs.map Prod.fst).eraseDups.map fun k =>
        (k, (valuesOf pairs k).foldl (fun old v => some (step old v)) none) := by
  rw [entries_eq, keys_gather]
  exact List.map_congr_left fun k _ => Prod.ext rfl (get?_gather step pairs k)

end

variable {β : Type} (pairs : List (String × β))

theorem foldl_last (vs : List β) : vs.foldl (fun _ v => some v) none = vs.getLast? := by
  induction vs using List.reverseRecOn with
  | nil => rfl
  | append_singleton vs v _ => rw [List.foldl_append, List.getLast?_concat]; rfl

theorem foldl_all (vs : List β) :
    (vs.foldl (fun old v => some (old.getD [] ++ [v])) none).getD [] = vs := by
  induction vs using List.reverseRecOn with
  | nil => rfl
  | append_singleton vs v ih =>
    rw [List.foldl_append, List.foldl_cons, List.foldl_nil, Option.getD_some, ih]

theorem entries_ofList :
    (ofList pairs).entries.map (fun e => (e.1, some e.2)) =
      (pairs.map Prod.fst).eraseDups.map fun k => (k, (valuesOf pairs k).getLast?) := by
  have gathered := entries_gather (fun _ v => v) pairs
  simp only [foldl_last] at gathered
  exact gathered

theorem entries_groups :
    (groups pairs).entries = (pairs.map Prod.fst).eraseDups.map fun k => (k, valuesOf pairs k) := by
  have gathered : (groups pairs).entries.map (fun e => (e.1, some e.2)) = _ :=
    entries_gather (fun vs v => vs.getD [] ++ [v]) pairs
  have values := congrArg (List.map fun e => (e.1, e.2.getD [])) gathered
  rw [List.map_map, List.map_map] at values
  simpa [Function.comp_def, foldl_all] using values

end Table

end XRoad
