import XRoad.Proofs.Xml.Binding
import XRoad.Proofs.Xml.ReadTag

/-!
# Content under another prefix

Content that was read from a document is moved under a prefix and written into another one. Its
attributes keep the prefixes that they had, so that it is made out there unless an attribute takes
the same prefix for another namespace. Main statement: `Node.isLegible_qualify`.
-/

namespace XRoad.Xml

open Text (Raw)
open Token (raw)

/-! ### The prefix `xml` -/

theorem Declarations.uri?_bindAll_xml {scope : Scope} {uses : List (String × String)}
    {ds : Declarations} (nodup : (ds.map Prod.fst).Nodup) :
    (ds.bindAll scope uses).uri? "xml" = ds.uri? "xml" := by
  induction uses generalizing ds with
  | nil => rfl
  | cons use uses ih =>
    rw [bindAll_cons, ih (nodup_bind nodup)]
    rcases bind_cases scope use.1 use.2 ds with ⟨same, -⟩ | ⟨changed, notXml⟩
    · rw [same]
    · rw [changed, uri?_set nodup, if_neg (Ne.symm notXml)]

namespace Scope

theorem resolve?_cons (ds : Declarations) (scope : Scope) (p : String) :
    resolve? (ds :: scope) p = match ds.uri? p with
      | some u => if u = "" then none else some u
      | none => scope.resolve? p := by
  rw [resolve?, declared?_cons]
  cases ds.uri? p <;> rfl

/-- Declarations that a tag lacks never touch the prefix `xml`. -/
theorem resolve?_xml_written {t : Tag} {scope around : Scope}
    (nodup : (t.declarations.map Prod.fst).Nodup)
    (same : scope.resolve? "xml" = around.resolve? "xml") :
    resolve? (t.writtenDeclarations scope :: scope) "xml" =
      resolve? (t.declarations :: around) "xml" := by
  rw [resolve?_cons, resolve?_cons, Tag.writtenDeclarations_eq,
    Declarations.uri?_bindAll_xml nodup, same]

end Scope

/-! ### Tags -/

/-- The names on a tag are plain, and what it declares can be told apart. -/
structure Tag.IsPlain (t : Tag) : Prop where
  name : IsPlainName t.name
  attributes : ∀ a ∈ t.attributes, IsPlainName a.name ∧ ∀ p ∈ a.nsPrefix, IsPlainName p
  declarations_nodup : (t.declarations.map Prod.fst).Nodup
  quotes : ∀ d ∈ t.declarations, closesQuotes none d.1.toList

instance (t : Tag) : Decidable t.IsPlain :=
  decidable_of_iff (IsPlainName t.name ∧
      (∀ a ∈ t.attributes, IsPlainName a.name ∧ ∀ p ∈ a.nsPrefix, IsPlainName p) ∧
      (t.declarations.map Prod.fst).Nodup ∧ ∀ d ∈ t.declarations, closesQuotes none d.1.toList)
    ⟨fun ⟨a, b, c, d⟩ => ⟨a, b, c, d⟩, fun ⟨a, b, c, d⟩ => ⟨a, b, c, d⟩⟩

/-- The attributes of a tag leave a prefix to its binding. -/
def Binding.IsFreeOn (b : Binding) (t : Tag) : Prop :=
  ∀ a ∈ t.attributes, a.nsPrefix = some b.nsPrefix → a.nsUri = some b.nsUri

instance (b : Binding) (t : Tag) : Decidable (b.IsFreeOn t) :=
  inferInstanceAs (Decidable (∀ a ∈ t.attributes, _))

namespace Tag

variable {b : Binding} {t : Tag} {scope around : Scope}

theorem uri_of_prefixed (inScope : t.IsInScope scope) {q : QName} (m : q ∈ t.names)
    (prefixed : q.nsPrefix.isSome) : q.nsUri = some q.uri ∧ q.uri ≠ "" := by
  obtain ⟨u, isUri, nonempty⟩ := inScope.prefixed q m prefixed
  rw [QName.uri, isUri]
  exact ⟨rfl, nonempty⟩

theorem nsPrefix_qualify {p : String}
    (prefixed : (t.qualify b.nsUri b.nsPrefix).nsPrefix = some p) : p = b.nsPrefix ∧ p ≠ "" := by
  change nonEmpty? (some b.nsPrefix) = some p at prefixed
  obtain ⟨same, nonempty⟩ := nonEmpty?_eq_some_iff.1 prefixed
  exact ⟨(Option.some.inj same).symm, nonempty⟩

theorem isBindable_qualify (binding : b.IsWritable) (isRead : t.IsRead around) (plain : t.IsPlain)
    (free : b.IsFreeOn t) : (t.qualify b.nsUri b.nsPrefix).IsBindable where
  names := by
    intro q m
    rcases List.mem_cons.1 m with rfl | m
    · refine ⟨plain.name, fun p prefixed => ?_, fun _ => binding.nsUri⟩
      obtain ⟨rfl, used⟩ := nsPrefix_qualify prefixed
      exact binding.nsPrefix.resolve_left used
    · obtain ⟨a, ma, rfl⟩ := List.mem_map.1 m
      have present : a.toQName ∈ t.names := List.mem_cons_of_mem _ (List.mem_map_of_mem ma)
      exact ⟨(plain.attributes a ma).1, (plain.attributes a ma).2,
        fun prefixed => (uri_of_prefixed isRead.inScope present prefixed).2⟩
  uri := fun empty => binding.nsUri (Option.some.inj empty)
  unprefixed := by
    intro a m none_there
    rw [isRead.inScope.attributes a m, none_there]
    rfl
  reserved := by
    intro a m
    have undeclared := isRead.undeclared a m
    refine ⟨fun reserved => ?_, fun unprefixed reserved => ?_⟩
    · have written : a.written = "xmlns:" ++ a.name := by
        rw [QName.written, reserved]
        rfl
      rw [written, declaredPrefix?_prefixed] at undeclared
      cases undeclared
    · rw [QName.written, unprefixed, reserved] at undeclared
      cases undeclared
  consistent := by
    have withElement (a : Attribute) (m : a ∈ t.attributes)
        (same : a.nsPrefix = (t.qualify b.nsUri b.nsPrefix).nsPrefix) (prefixed : a.nsPrefix.isSome) :
        a.nsUri = some b.nsUri := by
      obtain ⟨p, isPrefix⟩ := Option.isSome_iff_exists.1 prefixed
      obtain ⟨rfl, -⟩ := nsPrefix_qualify (same.symm.trans isPrefix)
      exact free a m isPrefix
    intro q m q' m' prefixed same
    rcases List.mem_cons.1 m with rfl | m
    · rcases List.mem_cons.1 m' with rfl | m'
      · rfl
      · obtain ⟨a, ma, rfl⟩ := List.mem_map.1 m'
        exact (withElement a ma same.symm (same ▸ prefixed)).symm
    · obtain ⟨a, ma, rfl⟩ := List.mem_map.1 m
      rcases List.mem_cons.1 m' with rfl | m'
      · exact withElement a ma same prefixed
      · obtain ⟨a', ma', rfl⟩ := List.mem_map.1 m'
        rw [isRead.inScope.attributes a ma, isRead.inScope.attributes a' ma', same]
  attributes_nodup := by
    have written : t.attributes.map (fun a => a.written) =
        (t.attributes.map fun a => (a.nsPrefix, a.name)).map fun q =>
          QName.written { nsPrefix := q.1, name := q.2 } := by
      rw [List.map_map]
      rfl
    exact List.Nodup.of_map _ (written ▸ isRead.attributes_nodup)
  declarations_nodup := plain.declarations_nodup

/-- Under the prefix the tag is made out where the prefix `xml` stands for the same. -/
theorem isLegible_qualify (binding : b.IsWritable) (isRead : t.IsRead around) (plain : t.IsPlain)
    (free : b.IsFreeOn t) (xml : scope.resolve? "xml" = around.resolve? "xml") (cs : List Node) :
    Element.IsLegible scope { tag := t.qualify b.nsUri b.nsPrefix, children := cs } := by
  have bindable := isBindable_qualify binding isRead plain free
  have written := bindable.name.written
  have keys : ∀ p ∈ (t.qualify b.nsUri b.nsPrefix).pairs
      ((t.qualify b.nsUri b.nsPrefix).writtenDeclarations scope), IsKey p.1 ∧ Passes p.1.toList := by
    refine bindable.forall_key (P := fun s => IsKey s ∧ Passes s.toList)
      (fun s isWritten => ⟨isWritten.isKey, isWritten.passes⟩) fun d m named => ⟨?_, ?_⟩
    · have key := isRead.keys _ (List.mem_append_left _ (List.mem_map_of_mem m))
      simpa [named] using key
    · rw [String.toList_append]
      exact (passes_of_closesQuotes rfl).append (passes_of_closesQuotes (plain.quotes d m))
  refine ⟨written.isTagName, passes_content written.passes fun p m => (keys p m).2, ?_,
    fun _ => written.passes, fun _ _ => written.noSlash, fun _ _ => written.1⟩
  refine Scope.tag_written bindable (fun q m isXml => ?_) fun p m => (keys p m).1
  have same := Scope.resolve?_xml_written (t := t.qualify b.nsUri b.nsPrefix)
    plain.declarations_nodup xml
  rw [same]
  rcases List.mem_cons.1 m with rfl | m
  · exact absurd (nsPrefix_qualify isXml).1.symm binding.notXml
  · obtain ⟨a, ma, rfl⟩ := List.mem_map.1 m
    have present : a.toQName ∈ t.names := List.mem_cons_of_mem _ (List.mem_map_of_mem ma)
    rw [← (uri_of_prefixed isRead.inScope present (by rw [isXml]; rfl)).1,
      isRead.inScope.attributes a ma, isXml]
    exact Scope.resolve?_eq_nearest? _ "xml"

end Tag

/-! ### Trees -/

/-- Content that was read is made out under a prefix that its attributes leave free. -/
theorem Node.isLegible_qualify {b : Binding} (binding : b.IsWritable) {n : Node}
    {scope around : Scope} (isRead : n.Everywhere (fun scope x => x.tag.IsRead scope) around)
    (plain : ∀ x ∈ n.elements, x.tag.IsPlain) (free : ∀ x ∈ n.elements, b.IsFreeOn x.tag)
    (xml : scope.resolve? "xml" = around.resolve? "xml") :
    (n.mapTags (Tag.qualify b.nsUri b.nsPrefix)).IsLegible scope := by
  induction n using Node.induction generalizing scope around with
  | text s =>
    rw [mapTags]
    exact .text
  | element t cs ih =>
    obtain ⟨here, below⟩ := everywhere_element.1 isRead
    rw [elements, elementsAll_eq, List.forall_mem_cons] at plain free
    rw [mapTags, mapTagsAll_eq]
    refine .element (Tag.isLegible_qualify binding here plain.1 free.1 xml _) fun n m => ?_
    obtain ⟨n, mn, rfl⟩ := List.mem_map.1 m
    refine ih n mn (below n mn) (fun x mx => plain.2 x (List.mem_flatMap.2 ⟨n, mn, mx⟩))
      (fun x mx => free.2 x (List.mem_flatMap.2 ⟨n, mn, mx⟩)) ?_
    exact Scope.resolve?_xml_written (t := t.qualify b.nsUri b.nsPrefix)
      plain.1.declarations_nodup xml

end XRoad.Xml
