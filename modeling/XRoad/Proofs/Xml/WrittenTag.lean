import Mathlib.Data.List.Nodup
import XRoad.Proofs.Basic
import XRoad.Proofs.Xml.Declarations

/-!
# Written tags

A tag whose prefixes can be bound is read back from its document with the declarations that it was
written with, if nothing is wrong with what it declares itself. Main statements: `Scope.tag_of_pairs`
and `Scope.tag_written`.
-/

namespace XRoad.Xml

open Text (Raw)
open Token (raw)

/-! ### What a tag uses -/

/-- The prefixes that a tag needs, with the namespaces that they must stand for. -/
def Tag.uses (t : Tag) : List (String × String) :=
  (t.nsPrefix.getD "", t.uri) :: t.attributes.filterMap fun a =>
    match a.nsPrefix, a.nsUri with
    | some p, some u => some (p, u)
    | _, _ => none

theorem Tag.writtenDeclarations_eq (scope : Scope) (t : Tag) :
    t.writtenDeclarations scope = t.declarations.bindAll scope t.uses := by
  rw [writtenDeclarations, uses, Declarations.bindAll_cons]
  generalize t.declarations.bind scope (t.nsPrefix.getD "") t.uri = ds
  induction t.attributes generalizing ds with
  | nil => rfl
  | cons a as ih =>
    rw [List.foldl_cons, ih, List.filterMap_cons, Declarations.bindAttribute]
    obtain ⟨⟨nsPrefix, nsUri, name⟩, value⟩ := a
    cases nsPrefix with
    | none => rfl
    | some p => cases nsUri <;> rfl

namespace Tag.IsBindable

variable {t : Tag} {scope : Scope} {q : QName} {p : String}

theorem nsUri_eq (bindable : t.IsBindable) (m : q ∈ t.names) (prefixed : q.nsPrefix = some p) :
    q.nsUri = some q.uri := by
  have nonempty := (bindable.names q m).uri (by simp [prefixed])
  rw [QName.uri] at nonempty ⊢
  cases h : q.nsUri with
  | none => exact absurd (by rw [h]; rfl) nonempty
  | some u => rfl

theorem mem_uses (bindable : t.IsBindable) (m : q ∈ t.names) (prefixed : q.nsPrefix = some p) :
    (p, q.uri) ∈ t.uses := by
  have uri := bindable.nsUri_eq m prefixed
  rw [Tag.uses]
  rcases List.mem_cons.1 m with rfl | m'
  · exact List.mem_cons.2 (.inl (by rw [prefixed]; rfl))
  · obtain ⟨a, ma, rfl⟩ := List.mem_map.1 m'
    exact List.mem_cons_of_mem _ (List.mem_filterMap.2 ⟨a, ma, by rw [prefixed, uri]⟩)

theorem of_mem_uses {use : String × String} (m : use ∈ t.uses) :
    (t.nsPrefix = none ∧ use = ("", t.uri)) ∨
      ∃ q ∈ t.names, q.nsPrefix = some use.1 ∧ q.uri = use.2 := by
  rcases List.mem_cons.1 m with rfl | m
  · cases h : t.nsPrefix with
    | none => exact .inl ⟨rfl, rfl⟩
    | some p => exact .inr ⟨t.toQName, List.mem_cons_self, h, rfl⟩
  · obtain ⟨a, ma, e⟩ := List.mem_filterMap.1 m
    refine .inr ⟨a.toQName, List.mem_cons_of_mem _ (List.mem_map_of_mem ma), ?_⟩
    split at e
    · next p u hp hu =>
      obtain rfl := Option.some.inj e
      exact ⟨hp, by rw [QName.uri, hu]; rfl⟩
    · cases e

theorem uses_consistent (bindable : t.IsBindable) :
    ∀ a ∈ t.uses, ∀ b ∈ t.uses, a.1 = b.1 → a.2 = b.2 := by
  have nonempty : ∀ q ∈ t.names, q.nsPrefix ≠ some "" := fun q m e =>
    absurd rfl ((bindable.names q m).nsPrefix "" e).1
  intro a ma b mb same
  rcases of_mem_uses ma with ⟨-, rfl⟩ | ⟨q, mq, hq, hu⟩
  · rcases of_mem_uses mb with ⟨-, rfl⟩ | ⟨q', mq', hq', -⟩
    · rfl
    · exact absurd (by rw [hq', ← same]) (nonempty q' mq')
  · rcases of_mem_uses mb with ⟨-, rfl⟩ | ⟨q', mq', hq', hu'⟩
    · exact absurd (by rw [hq, same]) (nonempty q mq)
    · have := bindable.consistent q mq q' mq' (by simp [hq]) (by rw [hq, hq', same])
      rw [← hu, ← hu', QName.uri, QName.uri, this]

theorem mem_writtenDeclarations (bindable : t.IsBindable) {d : String × String}
    (m : d ∈ t.writtenDeclarations scope) :
    d ∈ t.declarations ∨ (d.1 = "" ∨ IsPlainName d.1) ∧ d.1 ≠ "xml" := by
  rw [Tag.writtenDeclarations_eq] at m
  refine (Declarations.mem_bindAll m).imp_right fun ⟨used, notXml⟩ => ⟨?_, notXml⟩
  rcases of_mem_uses used with ⟨-, rfl⟩ | ⟨q, mq, hq, -⟩
  · exact .inl rfl
  · exact .inr ((bindable.names q mq).nsPrefix _ hq)

/-- Inside a written tag, a prefix that the tag uses stands for what the tag says. -/
theorem resolve?_prefix (bindable : t.IsBindable) (m : q ∈ t.names) (prefixed : q.nsPrefix = some p)
    (notXml : p ≠ "xml") :
    Scope.resolve? (t.writtenDeclarations scope :: scope) p = some q.uri := by
  have nonempty := (bindable.names q m).uri (by simp [prefixed])
  have bound : Scope.binds (t.writtenDeclarations scope :: scope) p q.uri := by
    rw [Tag.writtenDeclarations_eq]
    exact Declarations.binds_bindAll bindable.declarations_nodup bindable.uses_consistent
      (bindable.mem_uses m prefixed) notXml (.inr nonempty)
  exact Scope.resolve?_of_binds ((bindable.names q m).nsPrefix p prefixed).1 nonempty bound

/-- Inside a written tag without a prefix, the default namespace is the one of the tag. -/
theorem resolve?_default (bindable : t.IsBindable) (unprefixed : t.nsPrefix = none) :
    Scope.resolve? (t.writtenDeclarations scope :: scope) "" = t.nsUri := by
  have used : ("", t.uri) ∈ t.uses := List.mem_cons.2 (.inl (by rw [unprefixed]; rfl))
  have bound : Scope.binds (t.writtenDeclarations scope :: scope) "" t.uri := by
    rw [Tag.writtenDeclarations_eq]
    exact Declarations.binds_bindAll bindable.declarations_nodup bindable.uses_consistent used
      (show "" ≠ "xml" by decide) (.inl rfl)
  rw [Scope.resolve?_default bound, QName.uri]
  have nonempty := bindable.uri
  cases h : t.nsUri with
  | none => rfl
  | some u =>
    rw [h] at nonempty
    exact if_neg fun e => nonempty (congrArg some e)

end Tag.IsBindable

namespace Tag.IsWritable

variable {t : Tag} {scope : Scope}

theorem declarations_clean (writable : t.IsWritable) :
    ∀ d ∈ t.writtenDeclarations scope, (d.1 = "" ∨ IsPlainName d.1) ∧ d.1 ≠ "xml" :=
  fun d m => (writable.bindable.mem_writtenDeclarations m).elim (writable.declared d) id

theorem clean_cons (writable : t.IsWritable) (clean : scope.IsClean) :
    Scope.IsClean (t.writtenDeclarations scope :: scope) := by
  intro ds m
  rcases List.mem_cons.1 m with rfl | m
  · exact fun d m => (writable.declarations_clean d m).2
  · exact clean ds m

/-- Where no tag declares the prefix `xml`, it stands for its own namespace. -/
theorem resolve?_xml (writable : t.IsWritable) (clean : scope.IsClean) {q : QName} (m : q ∈ t.names)
    (xml : q.nsPrefix = some "xml") :
    Scope.resolve? (t.writtenDeclarations scope :: scope) "xml" = some q.uri := by
  rw [Scope.resolve?_xml (writable.clean_cons clean), ← (writable.names q m).xml xml,
    writable.bindable.nsUri_eq m xml]

end Tag.IsWritable

/-! ### Written names -/

section
variable {q : QName}

theorem dropWhile_plain {s : String} (plain : IsPlainName s) (rest : List Char) :
    (s.toList ++ ':' :: rest).dropWhile (· != ':') = ':' :: rest :=
  dropWhile_append_stop rest (fun c m => by simp [plain.ne_colon c m]) rfl

theorem takeWhile_plain {s : String} (plain : IsPlainName s) (rest : List Char) :
    (s.toList ++ ':' :: rest).takeWhile (· != ':') = s.toList :=
  takeWhile_append_stop rest (fun c m => by simp [plain.ne_colon c m]) rfl

theorem splitName_written (bindable : q.IsBindable) : splitName q.written = (q.nsPrefix, q.name) := by
  rw [splitName, QName.written]
  cases prefixed : q.nsPrefix with
  | none =>
    have none_inside : q.name.toList.dropWhile (· != ':') = [] := by
      rw [List.dropWhile_eq_nil_iff]
      exact fun c m => by simpa using bindable.name.ne_colon c m
    simp only [none_inside]
  | some p =>
    have plain := bindable.nsPrefix p prefixed
    have chars : (p ++ ":" ++ q.name).toList = p.toList ++ ':' :: q.name.toList := by
      simp [String.toList_append]
    simp only [chars, dropWhile_plain plain, takeWhile_plain plain, String.ofList_toList]

theorem declaredPrefix?_prefixed (p : String) : declaredPrefix? ("xmlns:" ++ p) = some p := by
  have longer : "xmlns:" ++ p ≠ "xmlns" := by
    intro e
    have := congrArg String.toList e
    simp [String.toList_append] at this
  have starts : "xmlns:".toList.isPrefixOf ("xmlns:" ++ p).toList := by
    simp [String.toList_append]
  rw [declaredPrefix?, if_neg longer, if_pos starts, String.toList_append]
  exact congrArg some String.ofList_toList

theorem declaredPrefix?_default : declaredPrefix? "xmlns" = some "" :=
  if_pos rfl

theorem declaredPrefix?_attribute (bindable : q.IsBindable) (reserved : q.nsPrefix ≠ some "xmlns")
    (unprefixed : q.nsPrefix = none → q.name ≠ "xmlns") : declaredPrefix? q.written = none := by
  have split := splitName_written bindable
  have plain : q.written ≠ "xmlns" := by
    intro e
    rw [e] at split
    have parts : splitName "xmlns" = (none, "xmlns") := rfl
    rw [parts, Prod.mk.injEq] at split
    exact unprefixed split.1.symm split.2.symm
  rw [declaredPrefix?, if_neg plain, if_neg]
  intro starts
  obtain ⟨rest, e⟩ := List.isPrefixOf_iff_prefix.1 starts
  have parts : splitName q.written = (some "xmlns", String.ofList rest) := by
    rw [splitName, ← e]
    rfl
  rw [parts, Prod.mk.injEq] at split
  exact reserved split.1.symm

end

/-! ### Written tags are read back -/

theorem declaredPrefix?_key (p : String) :
    declaredPrefix? (if p = "" then "xmlns" else "xmlns:" ++ p) = some p := by
  split
  · next empty => rw [empty, declaredPrefix?_default]
  · exact declaredPrefix?_prefixed p

section
variable {t : Tag} {ds : Declarations}
  (undeclared : ∀ a ∈ t.attributes, declaredPrefix? a.written = none)
include undeclared

/-- The keys on a tag are different when its prefixes and the names of its attributes are. -/
theorem Tag.nodup_pairs (declared : (ds.map Prod.fst).Nodup)
    (attributes : (t.attributes.map fun a => a.written).Nodup) :
    ((t.pairs ds).map Prod.fst).Nodup := by
  rw [Tag.pairs, List.map_append, List.map_map, List.map_map, List.nodup_append]
  refine ⟨?_, attributes, ?_⟩
  · refine List.Nodup.of_map declaredPrefix? ?_
    have keys : ds.map
        (declaredPrefix? ∘ Prod.fst ∘ fun d => (if d.1 = "" then "xmlns" else "xmlns:" ++ d.1, d.2)) =
        (ds.map Prod.fst).map some := by
      rw [List.map_map]
      exact List.map_congr_left fun d _ => declaredPrefix?_key d.1
    rw [List.map_map, keys]
    exact List.Nodup.map (fun _ _ => Option.some.inj) declared
  · intro k mk l ml same
    obtain ⟨d, -, rfl⟩ := List.mem_map.1 mk
    obtain ⟨a, ma, rfl⟩ := List.mem_map.1 ml
    have isDeclared := declaredPrefix?_key d.1
    have notDeclared := undeclared a ma
    change (if d.1 = "" then "xmlns" else "xmlns:" ++ d.1) = a.written at same
    rw [← same] at notDeclared
    exact absurd (notDeclared.symm.trans isDeclared) (by simp)

theorem Declarations.ofAttributes_pairs : Declarations.ofAttributes (t.pairs ds) = ds := by
  have attributes : t.attributes.filterMap
      ((fun a => (declaredPrefix? a.1).map (·, a.2)) ∘ fun a => (a.written, a.value)) = [] :=
    List.filterMap_eq_nil_iff.2 fun a m => by simp [undeclared a m]
  have declared : ds.filterMap
      ((fun a => (declaredPrefix? a.1).map (·, a.2)) ∘
        fun d => (if d.1 = "" then "xmlns" else "xmlns:" ++ d.1, d.2)) = ds.filterMap some :=
    List.filterMap_congr fun d _ => by simp [declaredPrefix?_key]
  rw [Declarations.ofAttributes, Tag.pairs, List.filterMap_append, List.filterMap_map,
    List.filterMap_map, attributes, declared, List.filterMap_some, List.append_nil]

theorem Tag.filter_pairs :
    (t.pairs ds).filter (fun a => (declaredPrefix? a.1).isNone) =
      t.attributes.map fun a => (a.written, a.value) := by
  rw [Tag.pairs, List.filter_append, List.filter_eq_nil_iff.2, List.filter_eq_self.2,
    List.nil_append]
  · intro p m
    obtain ⟨a, ma, rfl⟩ := List.mem_map.1 m
    simp [undeclared a ma]
  · intro p m
    obtain ⟨d, -, rfl⟩ := List.mem_map.1 m
    simp [declaredPrefix?_key]

namespace Scope

variable {scope : Scope}

/-- What is written of a tag with some declarations is read as the tag with these, when its keys can
be told apart and its names stand for the same there. -/
theorem tag_of_pairs (keys : ∀ p ∈ t.pairs ds, IsKey p.1)
    (nodup : ((t.pairs ds).map Prod.fst).Nodup)
    (name : elementName (ds :: scope) t.written = .ok t.toQName)
    (names : ∀ a ∈ t.attributes, attributeName (ds :: scope) a.written = .ok a.toQName) :
    scope.tag (raw t.written) ((writePairs (t.pairs ds)).map some) =
      .ok { t with declarations := ds } := by
  have read : Attributes.list [] ((writePairs (t.pairs ds)).map some) = .ok (t.pairs ds) :=
    Attributes.list_writePairs keys nodup (by simp)
  have attributes : (t.attributes.map fun a => (a.written, a.value)).mapM (fun a => do
      let q ← attributeName (ds :: scope) a.1
      .ok { q with value := a.2 : Attribute }) = .ok t.attributes := by
    rw [List.mapM_map, mapM_ok (g := id), List.map_id]
    intro a m
    rw [Function.comp_apply, names a m]
    rfl
  rw [tag, read]
  simp only [ok_bind]
  -- Names are resolved inside the declarations of their own tag.
  rw [Declarations.ofAttributes_pairs undeclared, Tag.filter_pairs undeclared, raw,
    Attributes.text_raw, String.ofList_toList]
  simp only [ok_bind]
  rw [name]
  simp only [ok_bind]
  rw [attributes]
  rfl

end Scope

end

namespace Tag.IsBindable

variable {t : Tag} {scope : Scope}

theorem name (bindable : t.IsBindable) : t.toQName.IsBindable :=
  bindable.names _ List.mem_cons_self

theorem attribute_name (bindable : t.IsBindable) {a : Attribute} (m : a ∈ t.attributes) :
    a.toQName.IsBindable :=
  bindable.names _ (List.mem_cons_of_mem _ (List.mem_map_of_mem m))

theorem undeclared (bindable : t.IsBindable) :
    ∀ a ∈ t.attributes, declaredPrefix? a.written = none :=
  fun a m => declaredPrefix?_attribute (bindable.attribute_name m) (bindable.reserved a m).1
    (bindable.reserved a m).2

theorem keys_nodup (bindable : t.IsBindable) :
    ((t.pairs (t.writtenDeclarations scope)).map Prod.fst).Nodup := by
  refine Tag.nodup_pairs bindable.undeclared ?_ (List.Nodup.of_map splitName ?_)
  · rw [Tag.writtenDeclarations_eq]
    exact Declarations.nodup_bindAll bindable.declarations_nodup
  · have names : t.attributes.map (splitName ∘ fun a => a.written) =
        t.attributes.map fun a => (a.nsPrefix, a.name) :=
      List.map_congr_left fun a m => splitName_written (bindable.attribute_name m)
    rw [List.map_map, names]
    exact bindable.attributes_nodup

/-- What holds of the keys that a tag declares, and of all written names, holds of all keys that it
is written with. -/
theorem forall_key (bindable : t.IsBindable) {P : String → Prop}
    (written : ∀ s, IsWrittenName s → P s)
    (declared : ∀ d ∈ t.declarations, d.1 ≠ "" → P ("xmlns:" ++ d.1)) :
    ∀ p ∈ t.pairs (t.writtenDeclarations scope), P p.1 := by
  intro p m
  rcases List.mem_append.1 m with m | m
  · obtain ⟨d, md, rfl⟩ := List.mem_map.1 m
    have xmlns : IsPlainName "xmlns" := by decide
    by_cases empty : d.1 = ""
    · simpa [empty] using written "xmlns" xmlns.written
    · rw [if_neg empty]
      rcases bindable.mem_writtenDeclarations md with own | ⟨plain, -⟩
      · exact declared d own empty
      · exact written _ (isWrittenName_prefixed xmlns (plain.resolve_left empty))
  · obtain ⟨a, ma, rfl⟩ := List.mem_map.1 m
    exact written _ (bindable.attribute_name ma).written

variable (bindable : t.IsBindable)
  (xml : ∀ q ∈ t.names, q.nsPrefix = some "xml" →
    Scope.resolve? (t.writtenDeclarations scope :: scope) "xml" = some q.uri)
include bindable xml

theorem resolve?_name {q : QName} {p : String} (m : q ∈ t.names) (prefixed : q.nsPrefix = some p) :
    Scope.resolve? (t.writtenDeclarations scope :: scope) p = q.nsUri := by
  rw [bindable.nsUri_eq m prefixed]
  by_cases isXml : p = "xml"
  · subst isXml
    exact xml q m prefixed
  · exact bindable.resolve?_prefix m prefixed isXml

theorem elementName_written :
    Scope.elementName (t.writtenDeclarations scope :: scope) t.written = .ok t.toQName := by
  rw [Scope.elementName, splitName_written bindable.name]
  cases prefixed : t.nsPrefix with
  | none =>
    simp only [bindable.resolve?_default prefixed, ← prefixed]
  | some p =>
    have m : t.toQName ∈ t.names := List.mem_cons_self
    have resolved := bindable.resolve?_name xml m prefixed
    rw [bindable.nsUri_eq m prefixed] at resolved
    simp only [Scope.require, resolved]
    change Except.ok { nsPrefix := some p, nsUri := some t.uri, name := t.name : QName } = _
    rw [← bindable.nsUri_eq m prefixed, ← prefixed]

theorem attributeName_written {a : Attribute} (present : a ∈ t.attributes) :
    Scope.attributeName (t.writtenDeclarations scope :: scope) a.written = .ok a.toQName := by
  rw [Scope.attributeName, splitName_written (bindable.attribute_name present)]
  cases prefixed : a.nsPrefix with
  | none =>
    have uri := bindable.unprefixed a present prefixed
    obtain ⟨⟨nsPrefix, nsUri, name⟩, value⟩ := a
    subst prefixed uri
    rfl
  | some p =>
    have m : a.toQName ∈ t.names := List.mem_cons_of_mem _ (List.mem_map_of_mem present)
    have resolved := bindable.resolve?_name xml m prefixed
    rw [bindable.nsUri_eq m prefixed] at resolved
    simp only [Scope.require, resolved]
    change Except.ok { nsPrefix := some p, nsUri := some a.uri, name := a.name : QName } = _
    rw [← bindable.nsUri_eq m prefixed, ← prefixed]

end Tag.IsBindable

theorem Scope.tag_written {t : Tag} {scope : Scope} (bindable : t.IsBindable)
    (xml : ∀ q ∈ t.names, q.nsPrefix = some "xml" →
      Scope.resolve? (t.writtenDeclarations scope :: scope) "xml" = some q.uri)
    (keys : ∀ p ∈ t.pairs (t.writtenDeclarations scope), IsKey p.1) :
    scope.tag (raw t.written) ((writePairs (t.pairs (t.writtenDeclarations scope))).map some) =
      .ok { t with declarations := t.writtenDeclarations scope } :=
  tag_of_pairs bindable.undeclared keys bindable.keys_nodup (bindable.elementName_written xml)
    fun _ m => bindable.attributeName_written xml m

theorem Tag.IsWritable.keys_written {t : Tag} (writable : t.IsWritable) (scope : Scope) :
    ∀ p ∈ t.pairs (t.writtenDeclarations scope), IsWrittenName p.1 :=
  writable.bindable.forall_key (fun _ => id) fun d m named =>
    isWrittenName_prefixed (p := "xmlns") (by decide) ((writable.declared d m).1.resolve_left named)

end XRoad.Xml
