import XRoad.Proofs.Xml.Placed
import XRoad.Proofs.Xml.RoundTrip

/-!
# Namespaces of a document

In a tree that was read, a name lies in the namespace that the nearest declaration of its prefix
gives, so that every tag is written with the declarations that stand on it and no others. Main
statement: `Element.parse_scoped`.
-/

namespace XRoad.Xml

open Text (Raw)

/-! ### The nearest declaration -/

namespace Scope

/-- The declarations around a place, the nearest first: of two on one tag, the later one. -/
def entries (scope : Scope) : List (String × String) :=
  scope.flatMap List.reverse

/-- The namespace that the nearest declaration of a prefix gives. An empty one is none; the prefix
`xml` needs no declaration. -/
def nearest? (scope : Scope) (nsPrefix : String) : Option String :=
  match scope.entries.lookup nsPrefix with
  | some uri => if uri = "" then none else some uri
  | none => if nsPrefix = "xml" then some xmlUri else none

theorem declared?_eq_lookup (scope : Scope) (p : String) :
    scope.declared? p = scope.entries.lookup p := by
  induction scope with
  | nil => rfl
  | cons ds scope ih =>
    have here : ds.uri? p = ds.reverse.lookup p := by
      rw [Declarations.uri?]
      induction ds.reverse with
      | nil => rfl
      | cons d ds ih =>
        rw [lookup_cons_if, ← ih, List.find?_cons]
        by_cases same : p = d.1
        · simp [same]
        · simp [same, beq_false_of_ne (Ne.symm same)]
    rw [declared?_cons, here, ih, entries, entries, List.flatMap_cons, List.lookup_append]

theorem resolve?_eq_nearest? (scope : Scope) (p : String) : scope.resolve? p = scope.nearest? p := by
  rw [resolve?, declared?_eq_lookup]
  rfl

theorem resolve?_nonempty {scope : Scope} {p u : String} (found : scope.resolve? p = some u) :
    u ≠ "" := by
  rw [resolve?] at found
  split at found
  · split at found
    · cases found
    · next nonempty => exact Option.some.inj found ▸ nonempty
  · split at found
    · exact Option.some.inj found ▸ (by decide)
    · cases found

theorem binds_of_resolve? {scope : Scope} {p u : String} (found : scope.resolve? p = some u)
    (notXml : p ≠ "xml") : scope.binds p u := by
  rw [resolve?] at found
  split at found
  · next declared =>
    split at found
    · cases found
    · rw [binds, ← Option.some.inj found]
      split
      · next empty =>
        subst empty
        simp [declared]
      · simp [declared]
  · rw [if_neg notXml] at found
    cases found

theorem binds_default_of_resolve? {scope : Scope} (unbound : scope.resolve? "" = none) :
    scope.binds "" "" := by
  rw [resolve?] at unbound
  rw [binds, if_pos rfl]
  cases declared : scope.declared? "" with
  | none => rfl
  | some u =>
    rw [declared] at unbound
    by_cases empty : u = ""
    · simp [empty]
    · cases (if_neg empty).symm.trans unbound

end Scope

/-! ### Tags in their scope -/

/-- The names of a tag lie where the declarations on it and around it put them. -/
structure Tag.IsInScope (scope : Scope) (t : Tag) : Prop where
  element : t.nsUri = Scope.nearest? (t.declarations :: scope) (t.nsPrefix.getD "")
  /-- No default namespace applies to an attribute. -/
  attributes : ∀ a ∈ t.attributes,
    a.nsUri = a.nsPrefix.bind (Scope.nearest? (t.declarations :: scope))
  prefixed : ∀ q ∈ t.names, q.nsPrefix.isSome → ∃ u, q.nsUri = some u ∧ u ≠ ""

namespace Scope

variable {scope : Scope} {q : QName} {written : String}

theorem require_ok {p u : String} (required : scope.require p = .ok u) :
    scope.resolve? p = some u := by
  rw [require] at required
  split at required
  · next found => exact found.trans (congrArg some (Except.ok.inj required))
  · cases required

theorem elementName_ok (read : scope.elementName written = .ok q) :
    q.nsPrefix = (splitName written).1 ∧ q.name = (splitName written).2 ∧
      q.nsUri = scope.resolve? (q.nsPrefix.getD "") ∧ (q.nsPrefix.isSome → q.nsUri.isSome) := by
  rw [elementName] at read
  split at read
  · next p name parts =>
    obtain ⟨u, required, named⟩ := bind_ok read
    obtain rfl := Except.ok.inj named
    exact ⟨by rw [parts], by rw [parts], (require_ok required).symm, fun _ => rfl⟩
  · next name parts =>
    obtain rfl := Except.ok.inj read
    exact ⟨by rw [parts], by rw [parts], rfl, fun given => absurd given Bool.false_ne_true⟩

theorem attributeName_ok (read : scope.attributeName written = .ok q) :
    q.nsPrefix = (splitName written).1 ∧ q.name = (splitName written).2 ∧
      q.nsUri = q.nsPrefix.bind scope.resolve? ∧ (q.nsPrefix.isSome → q.nsUri.isSome) := by
  rw [attributeName] at read
  split at read
  · next p name parts =>
    obtain ⟨u, required, named⟩ := bind_ok read
    obtain rfl := Except.ok.inj named
    exact ⟨by rw [parts], by rw [parts], (require_ok required).symm, fun _ => rfl⟩
  · next name parts =>
    obtain rfl := Except.ok.inj read
    exact ⟨by rw [parts], by rw [parts], rfl, fun given => absurd given Bool.false_ne_true⟩

theorem tag_ok {name attributes : Raw} {t : Tag} (read : scope.tag name attributes = .ok t) :
    ∃ pairs written, Attributes.list [] attributes = .ok pairs ∧ Attributes.text name = .ok written ∧
      t.declarations = Declarations.ofAttributes pairs ∧
      elementName (t.declarations :: scope) written = .ok t.toQName ∧
      List.Forall₂ (fun p a => attributeName (t.declarations :: scope) p.1 = .ok a.toQName ∧
        a.value = p.2) (pairs.filter fun p => (declaredPrefix? p.1).isNone) t.attributes := by
  obtain ⟨pairs, listed, read⟩ := bind_ok read
  obtain ⟨written, named, read⟩ := bind_ok read
  obtain ⟨q, element, read⟩ := bind_ok read
  obtain ⟨as, attributes, read⟩ := bind_ok read
  obtain rfl := Except.ok.inj read
  refine ⟨pairs, written, listed, named, rfl, element, (forall₂_of_mapM attributes).imp ?_⟩
  intro p a read
  obtain ⟨q, named, made⟩ := bind_ok read
  obtain rfl := Except.ok.inj made
  exact ⟨named, rfl⟩

theorem isInScope_of_tag {name attributes : Raw} {t : Tag}
    (read : scope.tag name attributes = .ok t) : t.IsInScope scope := by
  obtain ⟨pairs, written, -, -, -, element, attributes⟩ := tag_ok read
  obtain ⟨-, -, uri, needed⟩ := elementName_ok element
  have other : ∀ a ∈ t.attributes, a.nsUri = a.nsPrefix.bind (resolve? (t.declarations :: scope)) ∧
      (a.nsPrefix.isSome → a.nsUri.isSome) := by
    intro a m
    obtain ⟨p, -, named, -⟩ := exists_of_forall₂_right attributes m
    exact (attributeName_ok named).2.2
  refine ⟨uri.trans (resolve?_eq_nearest? _ _), fun a m => ?_, fun q m prefixed => ?_⟩
  · rw [(other a m).1]
    exact congrArg a.nsPrefix.bind (funext fun p => resolve?_eq_nearest? _ p)
  · rcases List.mem_cons.1 m with rfl | m
    · obtain ⟨u, found⟩ := Option.isSome_iff_exists.1 (needed prefixed)
      exact ⟨u, found, resolve?_nonempty (uri.symm.trans found)⟩
    · obtain ⟨a, ma, rfl⟩ := List.mem_map.1 m
      obtain ⟨found, needed⟩ := other a ma
      obtain ⟨u, isUri⟩ := Option.isSome_iff_exists.1 (needed prefixed)
      obtain ⟨p, isPrefix, resolved⟩ := Option.bind_eq_some_iff.1 (found.symm.trans isUri)
      exact ⟨u, isUri, resolve?_nonempty resolved⟩

end Scope

/-! ### Tags in their scope are written with what they declare -/

theorem Declarations.bindAll_of_bound {scope : Scope} {uses : List (String × String)}
    {ds : Declarations}
    (bound : ∀ use ∈ uses, use.1 = "xml" ∨ Scope.binds (ds :: scope) use.1 use.2) :
    ds.bindAll scope uses = ds := by
  induction uses with
  | nil => rfl
  | cons use uses ih =>
    have first : ds.bind scope use.1 use.2 = ds := by
      rw [bind]
      rcases bound use List.mem_cons_self with xml | here
      · rw [if_pos (.inl xml)]
      · rw [if_pos here, ite_self]
    rw [bindAll_cons, first]
    exact ih fun other m => bound other (List.mem_cons_of_mem _ m)

theorem Tag.IsInScope.writtenDeclarations {scope : Scope} {t : Tag} (inScope : t.IsInScope scope) :
    t.writtenDeclarations scope = t.declarations := by
  obtain ⟨element, attributes, prefixed⟩ := inScope
  rw [writtenDeclarations_eq]
  refine Declarations.bindAll_of_bound fun use m => or_iff_not_imp_left.2 fun notXml => ?_
  rw [← Scope.resolve?_eq_nearest?] at element
  rcases List.mem_cons.1 m with rfl | m
  · cases uri : t.nsUri with
    | some u =>
      rw [uri] at element
      simpa [QName.uri, uri] using Scope.binds_of_resolve? element.symm notXml
    | none =>
      -- Only a tag without a prefix has no namespace.
      have unprefixed : t.nsPrefix = none := by
        by_contra has
        obtain ⟨u, found, -⟩ := prefixed _ List.mem_cons_self (Option.isSome_iff_ne_none.2 has)
        rw [uri] at found
        cases found
      rw [uri, unprefixed] at element
      simpa [QName.uri, uri, unprefixed] using Scope.binds_default_of_resolve? element.symm
  · obtain ⟨a, ma, used⟩ := List.mem_filterMap.1 m
    have found := attributes a ma
    split at used
    · next p u isPrefix isUri =>
      obtain rfl := Option.some.inj used
      rw [isPrefix, isUri] at found
      exact Scope.binds_of_resolve? ((Scope.resolve?_eq_nearest? _ p).trans found.symm) notXml
    · cases used

namespace Node

mutual

/-- The node as it is written when every tag keeps its own declarations, whatever is around it. -/
def writeOwn : Node → List Char
  | .text s => escapeContent s.toList
  | .element tag children =>
    tag.write tag.declarations ++
      if children.any isVisible then
        '>' :: writeOwnAll children ++ "</".toList ++ tag.written.toList ++ ['>']
      else "/>".toList

def writeOwnAll : List Node → List Char
  | [] => []
  | n :: rest => writeOwn n ++ writeOwnAll rest

end

/-- Every tag is written with the declarations that stand on it. -/
def KeepsDeclarations (scope : Scope) (n : Node) : Prop :=
  n.Everywhere (fun scope e => e.tag.writtenDeclarations scope = e.tag.declarations) scope

theorem write_of_keepsDeclarations {scope : Scope} {n : Node} (keeps : n.KeepsDeclarations scope) :
    n.write scope = n.writeOwn := by
  induction n using Node.induction generalizing scope with
  | text s => rw [write, writeOwn]
  | element t cs ih =>
    obtain ⟨here, below⟩ := everywhere_element.1 keeps
    simp only at here
    have content : writeAll (t.declarations :: scope) cs = writeOwnAll cs := by
      clear keeps here
      induction cs with
      | nil => rw [writeAll, writeOwnAll]
      | cons c cs ih' =>
        rw [writeAll, writeOwnAll, ih c List.mem_cons_self (below c List.mem_cons_self),
          ih' (fun n m => ih n (List.mem_cons_of_mem _ m))
            fun n m => below n (List.mem_cons_of_mem _ m)]
    rw [write, writeOwn]
    simp only [here, content]

end Node

namespace Element

/-- In a tree that was read, every name lies in the namespace that the nearest declaration of its
prefix gives, on its own tag or around it; every tag is written with its own declarations. -/
theorem parse_scoped {bytes : List UInt8} {e : Element} (read : Element.parse bytes = .ok e) :
    e.node.Everywhere (fun scope x => x.tag.IsInScope scope) [] ∧ e.node.KeepsDeclarations [] ∧
      e.toXml = String.ofList e.node.writeOwn := by
  have inScope : e.node.Everywhere (fun scope x => x.tag.IsInScope scope) [] := by
    refine everywhere_of_ofTokens (Q := fun scope x => x.tag.IsInScope scope) ⟨?_, ?_, ?_, ?_⟩ read
    · exact fun tag _ => Scope.isInScope_of_tag tag
    · exact fun _ here => here
    · exact fun _ here => here
    · intro scope x here
      rwa [dropLayout_tag]
  have keeps : e.node.KeepsDeclarations [] := fun p m => (inScope p m).writtenDeclarations
  exact ⟨inScope, keeps, congrArg String.ofList (Node.write_of_keepsDeclarations keeps)⟩

/-- A prefix that an empty tag declares anew, next to one that keeps what is around it, and a
default namespace that is taken away. -/
theorem parse_scoped_shadowed :
    let bytes := Text.bytes ("<a xmlns=\"u\" xmlns:p=\"v\"><p:b xmlns:p=\"w\" p:k=\"1\" k=\"2\"/>" ++
      "<p:c xml:k=\"3\"><d xmlns=\"\"/></p:c></a>")
    ∃ e, Element.parse bytes = .ok e ∧
      (e.node.Everywhere (fun scope x => x.tag.IsInScope scope) [] ∧ e.node.KeepsDeclarations [] ∧
        e.toXml = String.ofList e.node.writeOwn) ∧
      e.node.elements.map (fun x => (x.tag.nsUri, x.tag.attributes.map (·.nsUri))) =
        [(some "u", []), (some "w", [some "w", none]), (some "v", [some xmlUri]), (none, [])] := by
  intro bytes
  have uris : (Element.parse bytes).map (fun e =>
      e.node.elements.map fun x => (x.tag.nsUri, x.tag.attributes.map (·.nsUri))) =
      .ok [(some "u", []), (some "w", [some "w", none]), (some "v", [some xmlUri]), (none, [])] := by
    decide +kernel
  cases read : Element.parse bytes with
  | error reason =>
    rw [read] at uris
    cases uris
  | ok e =>
    rw [read] at uris
    exact ⟨e, rfl, parse_scoped read, Except.ok.inj uris⟩

end Element

end XRoad.Xml
