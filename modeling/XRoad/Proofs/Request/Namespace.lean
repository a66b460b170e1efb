import XRoad.Proofs.Request.RoundTrip
import XRoad.Proofs.Xml.Namespace
import XRoad.Proofs.Xml.Qualified
import XRoad.Proofs.Xml.Settled

/-!
# Requests in the namespace of their producer

Content that was read from a document is sent under the prefix of a producer. The element in the
body and all below it reach the other side in the namespace of the producer, with the attributes
that the content has, exactly if no attribute takes the prefix for another namespace. Main
statement: `Request.reaches_iff`.
-/

namespace XRoad

open Xml (Attribute Binding Element Node Scope Tag)

namespace Request

variable (r : Request Element) (b : Binding)

/-- The elements of the content, which is copied from below the root of the data. -/
def contentElements : List Element :=
  r.data.elim [] Element.descendants

/-- The names in the body with their attributes, in document order. -/
def bodyNames : List (String × List Attribute) :=
  (r.producer.serviceCode.text, []) ::
    (if r.wrapped && r.data.isSome then [("request", [])] else []) ++
      r.contentElements.map fun x => (x.tag.name, x.tag.attributes)

/-- The body holds one element; all of it lies in the namespace and has the prefix of the binding,
and the attributes are those of the content. -/
def Reaches (m : Soap.Message) : Prop :=
  ∃ e, m.body.childElements = [e] ∧
    (∀ x ∈ e.node.elements, x.tag.nsUri = some b.nsUri ∧
      x.tag.nsPrefix = if b.nsPrefix = "" then none else some b.nsPrefix) ∧
    e.node.elements.map (fun x => (x.tag.name, x.tag.attributes)) = r.bodyNames

/-- A request that asks for the namespace of its producer, whose content was read from a document.
Names are plain, what one tag declares can be told apart, and the root of the data, which is not
sent, leaves the prefix `xml` its meaning. -/
structure IsQualifiable : Prop where
  qualified : r.qualifyRequest
  binding : r.producer.binding? = some b
  nsPrefix : b.nsPrefix = "" ∨ Xml.IsPlainName b.nsPrefix ∧ b.nsPrefix ≠ "xml"
  name : Xml.IsPlainName r.producer.serviceCode.text
  read : ∀ d ∈ r.data, ∃ bytes, Element.parse bytes = .ok d
  plain : ∀ x ∈ r.contentElements, x.tag.IsPlain
  xml : ∀ d ∈ r.data, Scope.resolve? [d.tag.declarations] "xml" = some Xml.xmlUri

variable {r b}

/-! ### Tags in the body -/

theorem tagsAll_qualify (ns : List Node) :
    Node.tagsAll (Node.mapTagsAll (Tag.qualify b.nsUri b.nsPrefix) ns) =
      (Node.elementsAll ns).map fun x => (x.tag.qualify b.nsUri b.nsPrefix).bare := by
  rw [Node.tagsAll, Node.mapTagsAll_eq, Node.elementsAll_eq, Node.elementsAll_eq, List.flatMap_map,
    List.map_flatMap, List.map_flatMap]
  refine List.flatMap_congr fun n _ => ?_
  rw [Node.elements_mapTags, List.map_map]
  rfl

namespace IsQualifiable

variable (q : r.IsQualifiable b)
include q

theorem writable : b.IsWritable := by
  obtain ⟨-, -, nonempty⟩ := Producer.of_binding? q.binding
  rcases q.nsPrefix with empty | ⟨plain, notXml⟩
  · exact ⟨.inl empty, by rw [empty]; decide, nonempty⟩
  · exact ⟨.inr plain, notXml, nonempty⟩

theorem rootTag_eq : r.rootTag = (b.element r.producer.serviceCode.text).tag := by
  rw [rootTag, q.binding]
  rfl

theorem contentElement_eq (d : Element) :
    r.contentElement d =
      { tag := (b.element (if r.wrapped then "request" else r.producer.serviceCode.text)).tag
        children := Node.mapTagsAll (Tag.qualify b.nsUri b.nsPrefix) d.children } := by
  rw [contentElement, contentBinding?, if_pos q.qualified, q.binding, Element.qualifyIn,
    Binding.qualify_eq, q.rootTag_eq]
  split
  · rw [Tag.qualify_named]
  · rw [Tag.qualify_element]

/-- The tags in the body, without what they declare. -/
theorem root_tags : r.root.tags =
    (b.element r.producer.serviceCode.text).tag ::
      (if r.wrapped && r.data.isSome then [(b.element "request").tag] else []) ++
        r.contentElements.map fun x => (x.tag.qualify b.nsUri b.nsPrefix).bare := by
  rw [Element.tags_cons, root_tag, q.rootTag_eq, contentElements, root]
  cases r.data with
  | none =>
    rw [Bool.and_comm]
    rfl
  | some d =>
    have content := q.contentElement_eq d
    cases wrapped : r.wrapped with
    | true =>
      rw [wrapped] at content
      simp only [if_true, Node.tagsAll_node, Element.tags_cons, content, tagsAll_qualify]
      rfl
    | false =>
      rw [wrapped] at content
      simp only [Bool.false_eq_true, if_false, content, tagsAll_qualify]
      rfl

theorem names_root :
    r.root.tags.map (fun t => (t.name, t.attributes)) = r.bodyNames := by
  rw [q.root_tags, bodyNames, List.map_append, List.map_cons, List.map_map]
  refine congrArg₂ (_ :: · ++ ·) ?_ rfl
  split <;> rfl

theorem root_tag_qualified {t : Tag} (m : t ∈ r.root.tags) : t.nsUri = some b.nsUri ∧
    t.nsPrefix = if b.nsPrefix = "" then none else some b.nsPrefix := by
  rw [q.root_tags] at m
  rcases List.mem_append.1 m with m | m
  · rcases List.mem_cons.1 m with rfl | m
    · exact ⟨rfl, rfl⟩
    · split at m
      · rw [List.mem_singleton.1 m]
        exact ⟨rfl, rfl⟩
      · cases m
  · obtain ⟨x, -, rfl⟩ := List.mem_map.1 m
    exact ⟨rfl, Tag.nonEmpty?_some b.nsPrefix⟩

/-! ### The content is made out -/

theorem isLegible_content (free : ∀ x ∈ r.contentElements, b.IsFreeOn x.tag) {d : Element}
    (content : d ∈ r.data) {scope : Scope} (clean : scope.IsClean) :
    (r.contentElement d).node.IsLegible scope := by
  have name : Xml.IsPlainName (if r.wrapped then "request" else r.producer.serviceCode.text) := by
    split
    · decide
    · exact q.name
  have tag := q.writable.element name
  obtain ⟨bytes, read⟩ := q.read d content
  have isRead := (Node.everywhere_element.1 (Element.everywhere_isRead read)).2
  have elements : r.contentElements = d.descendants := by
    rw [contentElements, Option.mem_def.1 content]
    rfl
  have plain := q.plain
  rw [elements, Element.descendants, Node.elementsAll_eq] at free plain
  rw [q.contentElement_eq, Node.mapTagsAll_eq]
  refine .element (tag.legible clean _) fun n m => ?_
  obtain ⟨n, mn, rfl⟩ := List.mem_map.1 m
  refine Node.isLegible_qualify q.writable (fun p mp => (isRead n mn p mp).tag)
    (fun x mx => plain x (List.mem_flatMap.2 ⟨n, mn, mx⟩))
    (fun x mx => free x (List.mem_flatMap.2 ⟨n, mn, mx⟩)) ?_
  rw [Scope.resolve?_xml (tag.clean_cons clean), q.xml d content]

theorem isLegible_root (free : ∀ x ∈ r.contentElements, b.IsFreeOn x.tag) {scope : Scope}
    (clean : scope.IsClean) : r.root.node.IsLegible scope := by
  have tag : r.rootTag.IsWritable := by
    rw [q.rootTag_eq]
    exact q.writable.element q.name
  rw [root]
  split
  · exact .element (tag.legible clean _) fun n m => absurd m List.not_mem_nil
  · next d content =>
    split
    · refine .element (tag.legible clean _) fun n m => ?_
      rw [List.mem_singleton.1 m]
      exact q.isLegible_content free content (tag.clean_cons clean)
    · exact q.isLegible_content free content clean

/-! ### The whole way -/

theorem reaches_of_free (free : ∀ x ∈ r.contentElements, b.IsFreeOn x.tag) {m : Soap.Message}
    (envelope : m.envelope = r.header.envelope)
    (header : m.header = some (r.header.element r.consumer r.producer.toService r.id))
    (body : m.body = { tag := (Protocol.soap.element "Body").tag, children := [r.root.node] }) :
    ∃ m', Soap.Message.parse m.toBytes = .ok m' ∧ r.Reaches b m' := by
  have envelopeWritable : m.envelope.IsWritable := envelope ▸ r.header.envelope_writable
  have clean := Soap.Message.scope_clean envelopeWritable
  have bodyTag : (Protocol.soap.element "Body").tag.IsWritable := by decide
  have legible : m.toElement.node.IsLegible [] := by
    refine Soap.Message.isLegible envelopeWritable (fun h found => ?_) ?_
    · obtain rfl := Option.some.inj (header.symm.trans found)
      exact Header.hasWritableTags_element.legible clean
    · rw [body]
      refine .element (bodyTag.legible clean _) fun n mem => ?_
      rw [List.mem_singleton.1 mem]
      exact q.isLegible_root free (bodyTag.clean_cons clean)
  refine ⟨m.reread, Soap.Message.parse_of_legible legible, ?_⟩
  have children := Element.childElements_reread m.scope (Protocol.soap.element "Body").tag [r.root]
  rw [List.map_singleton, List.map_singleton, ← body] at children
  refine ⟨_, children, fun x mx => ?_, ?_⟩
  · have tag : x.tag.bare ∈ r.root.tags := by
      rw [← Element.tags_reread]
      exact List.mem_map_of_mem mx
    exact q.root_tag_qualified (t := x.tag.bare) tag
  · rw [← q.names_root, ← Element.tags_reread, Element.tags, List.map_map]
    rfl

end IsQualifiable

/-- A message that was read has all names in the scope of the declarations around them. -/
theorem inScope_of_parse {bytes : List UInt8} {m : Soap.Message}
    (read : Soap.Message.parse bytes = .ok m) {e : Element} (child : e ∈ m.body.childElements) :
    ∀ x ∈ e.node.elements, ∃ scope, x.tag.IsInScope scope := by
  obtain ⟨document, parsed, made⟩ := bind_ok read
  have body : m.body ∈ document.childElements := by
    unfold Soap.Message.ofElement at made
    split at made
    · split at made
      · cases made
      · next found =>
        obtain rfl := Except.ok.inj made
        exact List.mem_of_find?_eq_some found
    · cases made
  intro x mx
  have below : x ∈ document.node.elements := by
    rw [Node.elements_node] at mx ⊢
    refine List.mem_cons_of_mem _ ?_
    rw [Element.descendants_eq]
    refine List.mem_flatMap.2 ⟨m.body, body, List.mem_cons_of_mem _ ?_⟩
    rw [Element.descendants_eq]
    exact List.mem_flatMap.2 ⟨e, child, mx⟩
  rw [Node.elements_eq_placed []] at below
  obtain ⟨p, mp, rfl⟩ := List.mem_map.1 below
  exact ⟨p.1, (Element.parse_scoped parsed).1 p mp⟩

/-- A prefix stands for one namespace on a tag that was read. -/
theorem free_of_reaches (q : r.IsQualifiable b) {bytes : List UInt8} {m : Soap.Message}
    (read : Soap.Message.parse bytes = .ok m) (reaches : r.Reaches b m) :
    ∀ x ∈ r.contentElements, b.IsFreeOn x.tag := by
  obtain ⟨e, alone, qualified, names⟩ := reaches
  intro y my a ma isPrefix
  have used : b.nsPrefix ≠ "" := (((q.plain y my).attributes a ma).2 _ isPrefix).1
  obtain ⟨x, mx, same⟩ : ∃ x ∈ e.node.elements, x.tag.attributes = y.tag.attributes := by
    have present : (y.tag.name, y.tag.attributes) ∈ r.bodyNames :=
      List.mem_append_right _ (List.mem_map.2 ⟨y, my, rfl⟩)
    rw [← names] at present
    obtain ⟨x, mx, same⟩ := List.mem_map.1 present
    exact ⟨x, mx, (Prod.mk.inj same).2⟩
  obtain ⟨isUri, xPrefix⟩ := qualified x mx
  obtain ⟨scope, element, attributes, -⟩ := inScope_of_parse read (by rw [alone]; simp) x mx
  rw [if_neg used] at xPrefix
  rw [attributes a (same ▸ ma), isPrefix, Option.bind_some, ← isUri, element, xPrefix,
    Option.getD_some]

/-- The body reaches the other side in the namespace of the producer exactly if no attribute of the
content takes its prefix for another namespace. -/
theorem reaches_iff (r : Request Element) (b : Binding) (q : r.IsQualifiable b) :
    ∃ m, RequestWriter.children.write r = .ok m ∧
      ((∃ m', Soap.Message.parse m.toBytes = .ok m' ∧ r.Reaches b m') ↔
        ∀ x ∈ r.contentElements, b.IsFreeOn x.tag) := by
  obtain ⟨m, written, envelope, header, body⟩ := r.write_ok
  refine ⟨m, written, fun ⟨m', read, reaches⟩ => free_of_reaches q read reaches, fun free => ?_⟩
  exact q.reaches_of_free free envelope header body

/-- A request with some content, to a service in the namespace `urn:u` under the prefix `ns1`. -/
def underNs1 (data : Element) : Request Element :=
  let code (s : String) (h : s ≠ "") : Code := ⟨s, h⟩
  let member : Member :=
    { xRoadInstance := code "EE" (by decide), memberClass := code "GOV" (by decide)
      memberCode := code "1" (by decide) }
  { consumer := { member with }
    producer :=
      { xRoadInstance := member.xRoadInstance
        owner := some ⟨member.memberClass, member.memberCode⟩
        serviceCode := code "get" (by decide)
        bodyPrefix := some "ns1", bodyUri := some "urn:u" }
    id := "7"
    data := some data }

/-- The prefix of the producer stands for another namespace in the content, but for its attributes
it is another prefix; one of them is in the namespace of the producer. -/
theorem reaches_iff_declared :
    let x : Element :=
      { tag := { nsPrefix := some "ns1", nsUri := some "urn:v", name := "x"
                 declarations := [("ns1", "urn:v"), ("a", "urn:w"), ("u", "urn:u")]
                 attributes := [{ nsPrefix := some "a", nsUri := some "urn:w", name := "k", value := "1" },
                                { nsPrefix := some "u", nsUri := some "urn:u", name := "k", value := "2" }] } }
    let d : Element := { tag := .named "d", children := [x.node] }
    let b : Binding := ⟨"ns1", "urn:u"⟩
    (underNs1 d).IsQualifiable b ∧
      ∃ m, RequestWriter.children.write (underNs1 d) = .ok m ∧
        ((∃ m', Soap.Message.parse m.toBytes = .ok m' ∧ (underNs1 d).Reaches b m') ↔
          ∀ x ∈ (underNs1 d).contentElements, b.IsFreeOn x.tag) ∧
        ∀ x ∈ (underNs1 d).contentElements, b.IsFreeOn x.tag := by
  intro x d b
  have read : Element.parse (Text.bytes ("<d><ns1:x xmlns:ns1=\"urn:v\" xmlns:a=\"urn:w\" " ++
      "xmlns:u=\"urn:u\" a:k=\"1\" u:k=\"2\"/></d>")) = .ok d := by
    decide +kernel
  have q : (underNs1 d).IsQualifiable b := by
    refine ⟨rfl, rfl, .inr (by decide), by decide, fun e m => ?_, by decide, fun e m => ?_⟩
    · obtain rfl := Option.some.inj m
      exact ⟨_, read⟩
    · obtain rfl := Option.some.inj m
      decide
  obtain ⟨m, written, exactly⟩ := reaches_iff (underNs1 d) b q
  exact ⟨q, m, written, exactly, by decide⟩

/-- An attribute takes the prefix of the producer along: its element is read in the namespace of the
attribute. -/
theorem reaches_not_shadowed :
    let x : Element :=
      { tag := { name := "x", declarations := [("ns1", "urn:v")]
                 attributes := [{ nsPrefix := some "ns1", nsUri := some "urn:v", name := "a", value := "1" }] } }
    let d : Element := { tag := .named "d", children := [x.node] }
    Element.parse (Text.bytes "<d><x xmlns:ns1=\"urn:v\" ns1:a=\"1\"/></d>") = .ok d ∧
      (underNs1 d).producer.binding? = some ⟨"ns1", "urn:u"⟩ ∧
      ∃ m m', RequestWriter.children.write (underNs1 d) = .ok m ∧
        Soap.Message.parse m.toBytes = .ok m' ∧
        m'.body.descendants.map (fun x => (x.tag.name, x.tag.nsUri)) =
          [("get", some "urn:u"), ("x", some "urn:v")] ∧
        ¬ (underNs1 d).Reaches ⟨"ns1", "urn:u"⟩ m' := by
  intro x d
  obtain ⟨m, written, -⟩ := (underNs1 d).write_ok
  have found : (RequestWriter.children.write (underNs1 d)).toOption.bind (fun m =>
      (Soap.Message.parse m.toBytes).toOption.map fun m' =>
        m'.body.descendants.map fun x => (x.tag.name, x.tag.nsUri)) =
      some [("get", some "urn:u"), ("x", some "urn:v")] := by
    decide +kernel
  rw [written] at found
  obtain ⟨m', read, names⟩ := Option.map_eq_some_iff.1 found
  refine ⟨by decide +kernel, rfl, m, m', written, ?_, names, ?_⟩
  · cases parsed : Soap.Message.parse m.toBytes with
    | error reason =>
      rw [parsed] at read
      cases read
    | ok other =>
      rw [parsed] at read
      exact congrArg _ (Option.some.inj read)
  · rintro ⟨e, alone, qualified, -⟩
    rw [Element.descendants_eq, alone, List.flatMap_singleton, ← Node.elements_node] at names
    have other : ("x", some "urn:v") ∈ e.node.elements.map fun x => (x.tag.name, x.tag.nsUri) := by
      rw [names]
      decide
    obtain ⟨x, mx, same⟩ := List.mem_map.1 other
    have isUri := (qualified x mx).1.symm.trans (Prod.mk.inj same).2
    exact absurd (Option.some.inj isUri) (by decide)

end Request

end XRoad
