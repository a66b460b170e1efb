import XRoad.Proofs.Table
import XRoad.Proofs.Xml.Markup

/-!
# Written declarations

The declarations that a tag is written with bind every prefix that the tag uses as the tag says, and
change no more than that takes. Main statement: `Declarations.binds_bindAll`.
-/

namespace XRoad.Xml

open Text (Raw)
open Token (raw)

/-! ### Declaring a prefix -/

namespace Declarations

variable {ds : Declarations} {p q u v : String}

theorem set_eq (ds : Declarations) (p u : String) : ds.set p u = alterEntries p (fun _ => u) ds := by
  induction ds with
  | nil => rfl
  | cons d ds ih =>
    rw [set, changeFirst, ← set, ih, alterEntries]
    by_cases same : d.1 = p
    · simp [same]
    · simp [same]

theorem nodup_set (nodup : (ds.map Prod.fst).Nodup) : ((ds.set p u).map Prod.fst).Nodup := by
  rw [set_eq]
  exact nodup_alterEntries p _ nodup

theorem uri?_eq_lookup (nodup : (ds.map Prod.fst).Nodup) (p : String) :
    ds.uri? p = ds.lookup p := by
  induction ds with
  | nil => rfl
  | cons d ds ih =>
    rw [List.map_cons, List.nodup_cons] at nodup
    have tail := ih nodup.2
    rw [uri?] at tail
    rw [uri?, List.reverse_cons, List.find?_append, Option.map_or, tail, lookup_cons_if]
    by_cases same : p = d.1
    · have absent : ds.lookup p = none := by
        rw [← Option.not_isSome_iff_eq_none, List.lookup_isSome_iff]
        rintro ⟨e, m, eq⟩
        exact nodup.1 (List.mem_map.2 ⟨e, m, by rw [← same, ← beq_iff_eq.1 eq]⟩)
      rw [same] at absent
      simp [absent, same]
    · simp [same, Ne.symm same]

theorem uri?_set (nodup : (ds.map Prod.fst).Nodup) :
    (ds.set p u).uri? q = if q = p then some u else ds.uri? q := by
  rw [uri?_eq_lookup (nodup_set nodup), uri?_eq_lookup nodup, set_eq, lookup_alterEntries]

theorem keys_set (ds : Declarations) (p u : String) :
    ds.map Prod.fst <+: (ds.set p u).map Prod.fst := by
  rw [set_eq, alterEntries_keys]
  split
  · exact List.prefix_refl _
  · exact List.prefix_append _ _

theorem mem_set {d : String × String} (m : d ∈ ds.set p u) : d ∈ ds ∨ d = (p, u) := by
  induction ds with
  | nil => exact .inr (List.mem_singleton.1 m)
  | cons e ds ih =>
    rw [set, changeFirst] at m
    by_cases same : e.1 = p
    · rw [if_pos (by simp [same])] at m
      rcases List.mem_cons.1 m with rfl | m
      · exact .inr (by rw [same])
      · exact .inl (List.mem_cons_of_mem _ m)
    · rw [if_neg (by simp [same])] at m
      rcases List.mem_cons.1 m with rfl | m
      · exact .inl List.mem_cons_self
      · exact (ih m).imp_left (List.mem_cons_of_mem _)

theorem mem_set_of_mem {d : String × String} (m : d ∈ ds) (consistent : p = d.1 → u = d.2) :
    d ∈ ds.set p u := by
  induction ds with
  | nil => cases m
  | cons e ds ih =>
    rw [set, changeFirst]
    by_cases same : e.1 = p
    · rw [if_pos (by simp [same])]
      rcases List.mem_cons.1 m with rfl | m
      · rw [consistent same.symm]
        exact List.mem_cons_self
      · exact List.mem_cons_of_mem _ m
    · rw [if_neg (by simp [same])]
      rcases List.mem_cons.1 m with rfl | m
      · exact List.mem_cons_self
      · exact List.mem_cons_of_mem _ (ih m)

end Declarations

/-! ### Bindings in a scope -/

namespace Scope

variable {scope : Scope} {ds : Declarations} {p q u v : String}

theorem declared?_cons (ds : Declarations) (scope : Scope) (p : String) :
    declared? (ds :: scope) p = (ds.uri? p).or (scope.declared? p) := by
  rw [declared?, List.findSome?_cons]
  cases ds.uri? p <;> rfl

theorem binds_set (nodup : (ds.map Prod.fst).Nodup) : binds (ds.set p u :: scope) p u := by
  rw [binds]
  split
  · next empty =>
    subst empty
    simp [declared?_cons, Declarations.uri?_set nodup]
  · simp [declared?_cons, Declarations.uri?_set nodup]

theorem binds_set_other (nodup : (ds.map Prod.fst).Nodup) (other : q ≠ p) :
    binds (ds.set p u :: scope) q v = binds (ds :: scope) q v := by
  rw [binds, binds]
  split
  · next empty =>
    subst empty
    rw [declared?_cons, declared?_cons, Declarations.uri?_set nodup, if_neg other]
  · rw [declared?_cons, declared?_cons, Declarations.uri?_set nodup, if_neg other]

def IsClean (scope : Scope) : Prop :=
  ∀ ds ∈ scope, ∀ d ∈ ds, d.1 ≠ "xml"

theorem resolve?_xml (clean : scope.IsClean) : scope.resolve? "xml" = some xmlUri := by
  have absent : scope.declared? "xml" = none := by
    rw [declared?, List.findSome?_eq_none_iff]
    intro ds m
    rw [Declarations.uri?, Option.map_eq_none_iff, List.find?_eq_none]
    intro d m'
    simpa using clean ds m d (List.mem_reverse.1 m')
  rw [resolve?, absent]
  rfl

theorem resolve?_of_binds (used : p ≠ "") (nonempty : u ≠ "") (bound : binds scope p u) :
    scope.resolve? p = some u := by
  rw [binds, if_neg used, beq_iff_eq] at bound
  rw [resolve?, bound]
  exact if_neg nonempty

theorem resolve?_default (bound : binds scope "" u) :
    scope.resolve? "" = if u = "" then none else some u := by
  rw [binds, if_pos rfl, beq_iff_eq] at bound
  rw [resolve?]
  cases declared : scope.declared? "" with
  | none =>
    rw [declared] at bound
    rw [← bound]
    rfl
  | some w =>
    rw [declared] at bound
    rw [← bound]
    rfl

end Scope

/-! ### The declarations that a tag lacks -/

namespace Declarations

variable {scope : Scope} {ds : Declarations} {p q u v : String}

theorem bind_cases (scope : Scope) (p u : String) (ds : Declarations) :
    (ds.bind scope p u = ds ∧ (p = "xml" ∨ (p ≠ "" ∧ u = "") ∨ Scope.binds (ds :: scope) p u)) ∨
      (ds.bind scope p u = ds.set p u ∧ p ≠ "xml") := by
  rw [bind]
  split
  · next skipped => exact .inl ⟨rfl, skipped.imp_right .inl⟩
  · next needed =>
    split
    · next bound => exact .inl ⟨rfl, .inr (.inr bound)⟩
    · exact .inr ⟨rfl, fun e => needed (.inl e)⟩

theorem nodup_bind (nodup : (ds.map Prod.fst).Nodup) :
    ((ds.bind scope p u).map Prod.fst).Nodup := by
  rcases bind_cases scope p u ds with ⟨same, -⟩ | ⟨changed, -⟩
  · rwa [same]
  · rw [changed]
    exact nodup_set nodup

theorem binds_bind (nodup : (ds.map Prod.fst).Nodup) (notXml : p ≠ "xml") (usable : p = "" ∨ u ≠ "") :
    Scope.binds (ds.bind scope p u :: scope) p u := by
  rcases bind_cases scope p u ds with ⟨same, xml | ⟨used, empty⟩ | bound⟩ | ⟨changed, -⟩
  · exact absurd xml notXml
  · exact absurd empty (usable.resolve_left used)
  · rwa [same]
  · rw [changed]
    exact Scope.binds_set nodup

/-- What is bound stays bound when a prefix is bound that is another, or to the same namespace. -/
theorem binds_bind_of_binds (nodup : (ds.map Prod.fst).Nodup) (bound : Scope.binds (ds :: scope) q v)
    (consistent : q = p → v = u) : Scope.binds (ds.bind scope p u :: scope) q v := by
  rcases bind_cases scope p u ds with ⟨same, -⟩ | ⟨changed, -⟩
  · rwa [same]
  · rw [changed]
    by_cases here : q = p
    · rw [here, consistent here]
      exact Scope.binds_set nodup
    · rwa [Scope.binds_set_other nodup here]

/-- Binds some prefixes one after another. -/
def bindAll (scope : Scope) (uses : List (String × String)) (ds : Declarations) : Declarations :=
  uses.foldl (fun ds use => ds.bind scope use.1 use.2) ds

theorem bindAll_cons (use : String × String) (uses : List (String × String)) :
    ds.bindAll scope (use :: uses) = (ds.bind scope use.1 use.2).bindAll scope uses :=
  rfl

variable {uses : List (String × String)}

theorem nodup_bindAll (nodup : (ds.map Prod.fst).Nodup) :
    ((ds.bindAll scope uses).map Prod.fst).Nodup := by
  induction uses generalizing ds with
  | nil => exact nodup
  | cons use uses ih => exact ih (nodup_bind nodup)

theorem binds_bindAll_of_binds (nodup : (ds.map Prod.fst).Nodup)
    (bound : Scope.binds (ds :: scope) q v) (consistent : ∀ use ∈ uses, q = use.1 → v = use.2) :
    Scope.binds (ds.bindAll scope uses :: scope) q v := by
  induction uses generalizing ds with
  | nil => exact bound
  | cons use uses ih =>
    have first : Scope.binds (ds.bind scope use.1 use.2 :: scope) q v :=
      binds_bind_of_binds nodup bound (consistent use List.mem_cons_self)
    exact ih (nodup_bind nodup) first fun other m => consistent other (List.mem_cons_of_mem _ m)

theorem binds_bindAll (nodup : (ds.map Prod.fst).Nodup)
    (consistent : ∀ a ∈ uses, ∀ b ∈ uses, a.1 = b.1 → a.2 = b.2) {use : String × String}
    (m : use ∈ uses) (notXml : use.1 ≠ "xml") (usable : use.1 = "" ∨ use.2 ≠ "") :
    Scope.binds (ds.bindAll scope uses :: scope) use.1 use.2 := by
  induction uses generalizing ds with
  | nil => cases m
  | cons first uses ih =>
    rw [bindAll_cons]
    rcases List.mem_cons.1 m with rfl | later
    · exact binds_bindAll_of_binds (nodup_bind nodup) (binds_bind nodup notXml usable)
        fun other m' => consistent use List.mem_cons_self other (List.mem_cons_of_mem _ m')
    · exact ih (nodup_bind nodup) (fun a ma b mb => consistent a (List.mem_cons_of_mem _ ma) b
        (List.mem_cons_of_mem _ mb)) later

theorem mem_bindAll {d : String × String} (m : d ∈ ds.bindAll scope uses) :
    d ∈ ds ∨ (d ∈ uses ∧ d.1 ≠ "xml") := by
  induction uses generalizing ds with
  | nil => exact .inl m
  | cons use uses ih =>
    rw [bindAll_cons] at m
    rcases ih m with m' | ⟨used, notXml⟩
    · rcases bind_cases scope use.1 use.2 ds with ⟨same, -⟩ | ⟨changed, notXml⟩
      · exact .inl (same ▸ m')
      · rw [changed] at m'
        rcases mem_set m' with old | rfl
        · exact .inl old
        · exact .inr ⟨List.mem_cons_self, notXml⟩
    · exact .inr ⟨List.mem_cons_of_mem _ used, notXml⟩

theorem mem_bindAll_of_mem {d : String × String} (m : d ∈ ds)
    (consistent : ∀ use ∈ uses, use.1 = d.1 → use.2 = d.2) : d ∈ ds.bindAll scope uses := by
  induction uses generalizing ds with
  | nil => exact m
  | cons use uses ih =>
    rw [bindAll_cons]
    refine ih ?_ fun other m' => consistent other (List.mem_cons_of_mem _ m')
    rcases bind_cases scope use.1 use.2 ds with ⟨same, -⟩ | ⟨changed, -⟩
    · rwa [same]
    · rw [changed]
      exact mem_set_of_mem m (consistent use List.mem_cons_self)

theorem keys_bindAll (scope : Scope) (uses : List (String × String)) (ds : Declarations) :
    ds.map Prod.fst <+: (ds.bindAll scope uses).map Prod.fst := by
  induction uses generalizing ds with
  | nil => exact List.prefix_refl _
  | cons use uses ih =>
    refine List.IsPrefix.trans ?_ (ih (ds.bind scope use.1 use.2))
    rcases bind_cases scope use.1 use.2 ds with ⟨same, -⟩ | ⟨changed, -⟩
    · exact same.symm ▸ List.prefix_refl _
    · rw [changed]
      exact keys_set ds use.1 use.2

end Declarations

end XRoad.Xml
