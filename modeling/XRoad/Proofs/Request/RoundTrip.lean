import XRoad.Proofs.Header.RoundTrip
import XRoad.Proofs.Request.Reader
import XRoad.Proofs.Xml.RoundTrip
import XRoad.Request.Printer

/-!
# Requests over the wire

A request is read back with its content, whether or not the content stands in an element of its own
and whatever namespace it takes. Main statement: `Request.parse_write`.
-/

namespace XRoad

open Xml (Element Node Tag Scope Binding only?)

/-! ### The element in the body -/

namespace Request

variable (r : Request Element)

def rootTag : Tag :=
  (Element.bound r.producer.binding? r.producer.serviceCode.text).tag

def contentBinding? : Option Binding :=
  if r.qualifyRequest then r.producer.binding? else none

/-- The element that the content is written into, with the content. -/
def contentElement (d : Element) : Element :=
  let tag := if r.wrapped then .named "request" else r.rootTag
  Element.qualifyIn r.contentBinding? { tag, children := d.children }

/-- What a reader of the content is given, nothing when there is no content. -/
def content? : Option Element :=
  (r.data.filter (!·.children.isEmpty)).map r.contentElement

def root : Element :=
  match r.data with
  | none => { tag := r.rootTag }
  | some d =>
    if r.wrapped then { tag := r.rootTag, children := [(r.contentElement d).node] }
    else r.contentElement d

variable {r}

theorem bodyElement_root : RequestWriter.children.bodyElement r = .ok r.root := by
  have rootElement : Element.bound r.producer.binding? r.producer.serviceCode.text =
      { tag := r.rootTag } := Element.bound_eq _ _
  have fill (d : Element) (content : r.data = some d) (t : Tag) :
      RequestWriter.children.fill r { tag := t } =
        .ok (Element.qualifyIn r.contentBinding? { tag := t, children := d.children }) := by
    rw [RequestWriter.fill, RequestWriter.children, content]
    rfl
  rw [RequestWriter.bodyElement, rootElement, root]
  cases content : r.data with
  | none => rfl
  | some d =>
    simp only [Option.isNone_some, Bool.false_eq_true, ↓reduceIte, contentElement]
    by_cases wrapped : r.wrapped
    · simp only [if_pos wrapped]
      rw [Element.named, fill d content]
      rfl
    · simp only [if_neg wrapped]
      exact fill d content r.rootTag

/-! ### It can be written -/

/-- The service has a plain name, bodies a usable prefix, and the content can be written both as it
is and in the namespace of bodies. -/
structure IsWritable (r : Request Element) : Prop where
  name : Xml.IsPlainName r.producer.serviceCode.text
  binding : ∀ b ∈ r.producer.binding?,
    b.nsPrefix = "" ∨ Xml.IsPlainName b.nsPrefix ∧ b.nsPrefix ≠ "xml"
  content : ∀ d ∈ r.data, d.IsWritable ∧ ∀ b ∈ r.producer.binding?, (b.qualify d).IsWritable

theorem IsWritable.binding_writable (writable : r.IsWritable) :
    ∀ b ∈ r.producer.binding?, b.IsWritable := by
  intro b m
  obtain ⟨-, -, nonempty⟩ := Producer.of_binding? m
  rcases writable.binding b m with empty | ⟨plain, notXml⟩
  · exact ⟨.inl empty, by rw [empty]; decide, nonempty⟩
  · exact ⟨.inr plain, notXml, nonempty⟩

theorem IsWritable.rootTag (writable : r.IsWritable) : r.rootTag.IsWritable :=
  Element.isWritable_bound writable.binding_writable writable.name

theorem IsWritable.contentElement (writable : r.IsWritable) {d : Element} (content : d ∈ r.data) :
    (r.contentElement d).IsWritable := by
  obtain ⟨asIs, qualified⟩ := writable.content d content
  have request : Xml.IsPlainName "request" := by decide
  rw [Request.contentElement, contentBinding?]
  split
  · cases binding : r.producer.binding? with
    | none =>
      refine asIs.retag ?_
      split
      · exact Tag.isWritable_named request
      · exact writable.rootTag
    | some b =>
      have target : Tag.IsWritable
          ((if r.wrapped then Tag.named "request" else r.rootTag).qualify b.nsUri b.nsPrefix) := by
        split
        · rw [Tag.qualify_named]
          exact (writable.binding_writable b binding).element request
        · rw [Request.rootTag, binding]
          refine Eq.subst (Tag.qualify_element b r.producer.serviceCode.text).symm ?_
          exact (writable.binding_writable b binding).element writable.name
      exact (qualified b binding).retag target
  · refine asIs.retag ?_
    split
    · exact Tag.isWritable_named request
    · exact writable.rootTag

theorem IsWritable.root (writable : r.IsWritable) : r.root.IsWritable := by
  rw [Request.root]
  split
  · exact Element.isWritable_empty writable.rootTag
  · next d content =>
    split
    · exact (writable.contentElement content).under writable.rootTag
    · exact writable.contentElement content

/-! ### What is read -/

theorem root_tag : r.root.tag = r.rootTag := by
  rw [Request.root]
  split
  · rfl
  · next d _ =>
    split
    · rfl
    · next unwrapped =>
      rw [Request.contentElement, contentBinding?, if_neg unwrapped]
      split
      · rw [Request.rootTag]
        cases r.producer.binding? with
        | none => rfl
        | some b => exact Tag.qualify_element b _
      · rfl

theorem contentElement_name (d : Element) (wrapped : r.wrapped) :
    (r.contentElement d).tag.name = "request" := by
  rw [Request.contentElement, if_pos wrapped]
  cases r.contentBinding? <;> rfl

theorem contentElement_isEmpty (d : Element) :
    (r.contentElement d).children.isEmpty = d.children.isEmpty := by
  rw [Request.contentElement]
  cases r.contentBinding? with
  | none => rfl
  | some b =>
    rw [Element.qualifyIn, Binding.qualify_eq, Node.mapTagsAll_eq, List.isEmpty_map]

theorem content?_of_data {d : Element} (content : r.data = some d) :
    r.content? = if d.children.isEmpty then none else some (r.contentElement d) := by
  rw [content?, content, Option.filter_some]
  cases d.children.isEmpty <;> rfl

theorem readChildren_content {d : Element} (content : r.data = some d) (scope : Scope)
    (m : Soap.Message) : ∃ data,
      ContentReader.element.readChildren ((r.contentElement d).declared scope) m = .ok data ∧
        data.map Element.bare = r.content?.map Element.bare := by
  have same : ((r.contentElement d).declared scope).children.isEmpty = d.children.isEmpty := by
    rw [Element.declared, Node.declaredAll_eq, List.isEmpty_map, contentElement_isEmpty]
  rw [ContentReader.readChildren, same, content?_of_data content]
  split
  · exact ⟨none, rfl, rfl⟩
  · refine ⟨some ((r.contentElement d).declared scope), rfl, ?_⟩
    rw [Option.map_some, Option.map_some, Element.bare_declared]

theorem contentOf?_root (r : Request Element) (scope : Scope) (m : Soap.Message) :
    contentOf? r.wrapped "request" (r.root.declared scope) = none ∧ r.content? = none ∨
      ∃ e data, contentOf? r.wrapped "request" (r.root.declared scope) = some e ∧
        ContentReader.element.readChildren e m = .ok data ∧
        data.map Element.bare = r.content?.map Element.bare := by
  rw [contentOf?, Request.root]
  cases content : r.data with
  | none =>
    have nothing : r.content? = none := by
      rw [content?, content]
      rfl
    split
    · exact .inl ⟨rfl, nothing⟩
    · refine .inr ⟨_, none, rfl, rfl, ?_⟩
      rw [nothing]
  | some d =>
    refine .inr ?_
    simp only
    split
    · next wrapped =>
      let inner := Tag.writtenDeclarations scope r.rootTag :: scope
      obtain ⟨data, read, same⟩ := readChildren_content content inner m
      refine ⟨(r.contentElement d).declared inner, data, ?_, read, same⟩
      have name : ((r.contentElement d).declared inner).tag.name = "request" :=
        contentElement_name d wrapped
      have root := Element.declared_elements scope r.rootTag [r.contentElement d]
      rw [List.map_singleton, List.map_singleton] at root
      rw [root, Element.child?, Element.childElements_elements, List.find?_singleton,
        if_pos (beq_iff_eq.2 name)]
    · obtain ⟨data, read, same⟩ := readChildren_content content scope m
      exact ⟨_, data, rfl, read, same⟩

/-- The header of a written request is read, and says what was written. -/
theorem readHeader_written {m : Soap.Message} {scope : Scope}
    (found : m.header = some ((r.header.element r.consumer r.producer.toService r.id).reread scope))
    (trimmed : ∀ p ∈ r.header.codes, p.IsTrimmed) (present : Text.isBlank r.id = false) :
    ∃ r' : Request Element, readHeader m = .ok r' ∧ r'.header = r.header.readBack ∧
      r'.producer = .ofService r.producer.toService.readBack ∧ r'.received = some m := by
  have children : ((r.header.element r.consumer r.producer.toService r.id).reread
      scope).hasChildElements := by
    rw [Header.element, Element.reread_elements]
    rfl
  have read := r.header.read_element scope rfl rfl rfl trimmed
  rw [readHeader, found, Option.filter_some, if_pos children]
  simp only [read, ok_bind]
  rw [ofHeader, Header.readBack, Request.header]
  simp only [Option.filter_some, present, Option.map_some, requireHeader, ok_bind]
  refine ⟨_, rfl, ?_, rfl, rfl⟩
  rfl

theorem bodyRoot_written {m : Soap.Message} {t : Tag} {scope : Scope} {expected : Option String}
    (body : m.body = { tag := t, children := [(r.root.declared scope).node] })
    (accepted : expected = none ∨ expected = some "*" ∨ expected = some r.rootTag.uri) :
    bodyRoot m (expectedUri? expected) r.producer.serviceCode.text =
      .ok (r.root.declared scope) := by
  have tag : (r.root.declared scope).tag.toQName = r.rootTag.toQName := by
    change r.root.tag.toQName = _
    rw [root_tag]
  have name : r.rootTag.name = r.producer.serviceCode.text := Element.name_bound _ _
  have named : (r.root.declared scope).tag.isNamed (expectedUri? expected)
      r.producer.serviceCode.text := by
    rw [tag]
    rcases accepted with rfl | rfl | rfl
    · simp [expectedUri?, Xml.QName.isNamed, name]
    · simp [expectedUri?, Option.filter_some, Xml.QName.isNamed, name]
    · rw [expectedUri?, Option.filter_some]
      split <;> simp [Xml.QName.isNamed, name]
  have roots : bodyRoots m (expectedUri? expected) r.producer.serviceCode.text =
      [r.root.declared scope] := by
    rw [bodyRoots, body]
    have children := Element.childElements_elements t [r.root.declared scope]
    rw [List.map_singleton] at children
    rw [children, List.filter_singleton, named]
    rfl
  rw [bodyRoot, roots]
  rfl

theorem readBody_ok {α : Type} {reader : ContentReader α} {expected : Option String}
    {r : Request α} {m : Soap.Message} {rpc : Element} {data : Option α}
    (received : r.received = some m)
    (root : bodyRoot m (expectedUri? expected) r.producer.serviceCode.text = .ok rpc)
    (content : contentOf? r.wrapped "request" rpc = none ∧ data = none ∨
      ∃ e, contentOf? r.wrapped "request" rpc = some e ∧ reader.readChildren e m = .ok data) :
    readBody reader expected r =
      .ok { r with data, producer := r.producer.observed rpc.tag.toQName } := by
  rw [readBody_eq, received]
  simp only [bodyOf_ok root content]
  rfl

/-! ### The whole way -/

theorem write_ok (r : Request Element) :
    ∃ m, RequestWriter.children.write r = .ok m ∧ m.envelope = r.header.envelope ∧
      m.header = some (r.header.element r.consumer r.producer.toService r.id) ∧
      m.body = { tag := (Protocol.soap.element "Body").tag, children := [r.root.node] } := by
  obtain ⟨m, written, envelope, header, body⟩ :=
    r.header.writeTo_empty (c := r.consumer) (s := r.producer.toService) rfl rfl rfl
  refine ⟨m.pushBody [r.root.node], ?_, envelope, header, ?_⟩
  · rw [RequestWriter.write, written, ok_bind, bodyElement_root]
    rfl
  · change Element.mk m.body.tag (m.body.children ++ [r.root.node]) = _
    rw [body]
    rfl

theorem hasWritableTags_body {e : Element} (writable : e.IsWritable) :
    (Element.mk (Protocol.soap.element "Body").tag [e.node]).node.HasWritableTags := by
  have tag : (Protocol.soap.element "Body").tag.IsWritable := by decide
  refine .element tag fun n mem => ?_
  rw [List.mem_singleton.1 mem]
  exact writable.tags

theorem reread_body {e : Element} (writable : e.IsWritable) (scope : Scope) :
    Element.reread scope { tag := (Protocol.soap.element "Body").tag, children := [e.node] } =
      { tag := (Protocol.soap.element "Body").tag.declared scope
        children :=
          [(e.declared
            ((Protocol.soap.element "Body").tag.writtenDeclarations scope :: scope)).node] } := by
  have reread := Element.reread_elements scope (Protocol.soap.element "Body").tag [e]
  rw [List.map_singleton, List.map_singleton, List.map_singleton,
    Element.reread_of_compact writable.compact] at reread
  exact reread

/-- A request is read back from the wire with its content, but for the declarations in it, and with
the namespace that its body was written in. -/
theorem parse_write (r : Request Element) (writable : r.IsWritable)
    (trimmed : ∀ p ∈ r.header.codes, p.IsTrimmed) (present : Text.isBlank r.id = false)
    (expected : Option String)
    (accepted : expected = none ∨ expected = some "*" ∨ expected = some r.rootTag.uri) :
    ∃ m r', RequestWriter.children.write r = .ok m ∧
      parse ContentReader.element expected r.wrapped m.toBytes = .ok r' ∧
      r'.header = r.header.readBack ∧
      r'.producer.bodyPrefix = r.producer.binding?.map (·.nsPrefix) ∧
      r'.producer.bodyUri = r.producer.binding?.map (·.nsUri) ∧
      r'.data.map Element.bare = r.content?.map Element.bare := by
  obtain ⟨m, written, envelope, header, body⟩ := r.write_ok
  have bodyWritable : m.body.node.HasWritableTags := by
    rw [body]
    exact hasWritableTags_body writable.root
  obtain ⟨parsed, found⟩ := Header.parse_message envelope header bodyWritable
  have bodyRead : m.reread.body = _ := (congrArg (Element.reread m.scope) body).trans
    (reread_body writable.root m.scope)
  generalize (Protocol.soap.element "Body").tag.writtenDeclarations m.scope :: m.scope = inner
    at bodyRead
  obtain ⟨r', readHeader, sameHeader, producer, received⟩ :=
    readHeader_written found trimmed present
  have rpc := bodyRoot_written bodyRead accepted
  have code : r'.producer.serviceCode = r.producer.serviceCode := by
    rw [producer]
    exact r.producer.toService.readBack_serviceCode
  have tag : (r.root.declared inner).tag.toQName = r.rootTag.toQName := by
    change r.root.tag.toQName = _
    rw [root_tag]
  have read (data : Option Element)
      (content : contentOf? r.wrapped "request" (r.root.declared inner) = none ∧ data = none ∨
        ∃ e, contentOf? r.wrapped "request" (r.root.declared inner) = some e ∧
          ContentReader.element.readChildren e m.reread = .ok data) :
      parse ContentReader.element expected r.wrapped m.toBytes =
        .ok { r' with
          data, wrapped := r.wrapped
          producer := r'.producer.observed (r.root.declared inner).tag.toQName } := by
    rw [parse, parsed]
    simp only [Request.read, readHeader, ok_bind]
    exact readBody_ok received (by rw [code]; exact rpc) content
  have hints : (r'.producer.observed (r.root.declared inner).tag.toQName).bodyPrefix =
        r.producer.binding?.map (·.nsPrefix) ∧
      (r'.producer.observed (r.root.declared inner).tag.toQName).bodyUri =
        r.producer.binding?.map (·.nsUri) := by
    rw [tag, Request.rootTag, Producer.observed_bound]
    exact ⟨rfl, rfl⟩
  -- Without a wrapper there is always an element to look for the content in.
  rcases r.contentOf?_root inner m.reread with ⟨absent, nothing⟩ | ⟨e, data, present, readData, same⟩
  · refine ⟨m, _, written, read none (.inl ⟨absent, rfl⟩), sameHeader, hints.1, hints.2, ?_⟩
    rw [nothing]
  · exact ⟨m, _, written, read data (.inr ⟨e, present, readData⟩), sameHeader, hints.1, hints.2, same⟩

/-- Wrapped content with a text, a declaration and an attribute of another namespace. -/
theorem parse_write_wrapped :
    let code (s : String) (h : s ≠ "") : Code := ⟨s, h⟩
    let member : Member :=
      { xRoadInstance := code "EE" (by decide), memberClass := code "GOV" (by decide)
        memberCode := code "1" (by decide) }
    let leaf : Element :=
      { tag := { nsPrefix := some "q", nsUri := some "urn:q", name := "a"
                 declarations := [("q", "urn:q")]
                 attributes := [{ nsPrefix := some "x", nsUri := some "urn:x", name := "k"
                                  value := "<&>" }] }
        children := [.text " 1 & 2 "] }
    let r : Request Element :=
      { consumer := { member with }
        producer :=
          { xRoadInstance := member.xRoadInstance
            owner := some ⟨member.memberClass, member.memberCode⟩
            serviceCode := code "get" (by decide)
            bodyPrefix := some "p", bodyUri := some "urn:p" }
        id := "7"
        data := some { tag := .named "any", children := [leaf.node] }
        wrapped := true }
    r.IsWritable ∧ (∀ p ∈ r.header.codes, p.IsTrimmed) ∧ Text.isBlank r.id = false ∧
      some "urn:p" = some r.rootTag.uri ∧
      ∃ m r', RequestWriter.children.write r = .ok m ∧
        parse ContentReader.element (some "urn:p") r.wrapped m.toBytes = .ok r' ∧
        r'.header = r.header.readBack ∧
        r'.producer.bodyPrefix = some "p" ∧ r'.producer.bodyUri = some "urn:p" ∧
        r'.data.map Element.bare = r.content?.map Element.bare := by
  intro code member leaf r
  have binding : r.producer.binding? = some ⟨"p", "urn:p"⟩ := rfl
  have writable : r.IsWritable := by
    refine ⟨by decide, ?_, ?_⟩
    · intro b m
      obtain rfl := Option.some.inj (binding.symm.trans m)
      decide
    · intro d content
      obtain rfl := Option.some.inj content
      refine ⟨by decide, fun b m => ?_⟩
      obtain rfl := Option.some.inj (binding.symm.trans m)
      decide
  have trimmed : ∀ p ∈ r.header.codes, p.IsTrimmed := by decide
  exact ⟨writable, trimmed, by decide, rfl,
    parse_write r writable trimmed (by decide) (some "urn:p") (.inr (.inr rfl))⟩

end Request

end XRoad
