import XRoad.Header.Basic
import XRoad.Proofs.Header.Identifier
import XRoad.Proofs.Xml.Binding
import XRoad.Request.Basic

/-!
# Headers over the wire

A header that is written is read back without what is empty and without a request hash. Main
statement: `Request.read_written_header`.
-/

namespace XRoad

open Xml (Element Node Tag Scope Slots only?)

/-! ### Tags that can be written -/

def Part.names : List String :=
  [xRoadInstance, memberClass, memberCode, subsystemCode, serviceCode, serviceVersion, serverCode]

theorem Part.isPlainName : ∀ part ∈ names, Xml.IsPlainName part := by
  decide

/-- Can be written, and holds nothing but texts and parts of an identifier. -/
structure IsHeaderElement (e : Element) : Prop where
  writable : e.node.HasWritableTags
  below : ∀ scope, ∀ d ∈ (e.reread scope).descendants, d.tag.uri = Protocol.identifiers.nsUri

theorem isHeaderElement_identifier {name : String} {type : ObjectType}
    (parts : List (String × Code)) (tag : (identifierTag name type).IsWritable)
    (named : ∀ p ∈ parts, p.1 ∈ Part.names) :
    IsHeaderElement (identifierElement name type parts) where
  writable := by
    rw [identifierElement_eq]
    refine .element tag fun n m => ?_
    obtain ⟨e, me, rfl⟩ := List.mem_map.1 m
    obtain ⟨p, mp, rfl⟩ := List.mem_map.1 me
    have binding : Protocol.identifiers.IsWritable := by decide
    exact Xml.Binding.textElement_writable binding (Part.isPlainName p.1 (named p mp)) p.2.text
  below := by
    intro scope
    rw [identifierElement_eq, Element.reread_elements, Element.descendants_elements]
    intro d m
    obtain ⟨e, me, md⟩ := List.mem_flatMap.1 m
    obtain ⟨e', me', rfl⟩ := List.mem_map.1 me
    obtain ⟨p, -, rfl⟩ := List.mem_map.1 me'
    rw [partElement_reread] at md
    rw [List.mem_singleton.1 md]
    rfl

theorem isHeaderElement_text {t : Tag} (tag : t.IsWritable) (text : String) :
    IsHeaderElement { tag := t, children := [.text text] } where
  writable := .withText tag text
  below := by
    intro scope d m
    rw [Element.reread_text, Element.descendants] at m
    split at m <;> cases m

theorem Member.mem_names {m : Member} {p : String × Code} (h : p ∈ m.namedParts) :
    p.1 ∈ Part.names := by
  simp only [namedParts, List.mem_cons, List.not_mem_nil, or_false] at h
  rcases h with rfl | rfl | rfl <;> simp [Part.names]

theorem Consumer.isHeaderElement (c : Consumer) : IsHeaderElement c.element := by
  refine isHeaderElement_identifier c.namedParts ?_ fun p m => ?_
  · have one : (identifierTag "client" .member).IsWritable := by decide
    exact one.setValue c.objectType.name
  · rcases List.mem_append.1 m with inMember | inSubsystem
    · exact Member.mem_names inMember
    · obtain ⟨code, -, rfl⟩ := List.mem_map.1 inSubsystem
      simp [Part.names]

theorem Service.isHeaderElement (s : Service) : IsHeaderElement s.element := by
  refine isHeaderElement_identifier s.namedParts ?_ fun p m => ?_
  · have one : (identifierTag "service" .service).IsWritable := by decide
    exact one.setValue s.objectType.name
  · simp only [namedParts, List.mem_append, List.mem_map, List.mem_singleton] at m
    rcases m with ((((rfl | ⟨code, -, rfl⟩) | ⟨code, -, rfl⟩) | ⟨code, -, rfl⟩) | rfl) |
      ⟨code, -, rfl⟩ <;> simp [Part.names]

theorem SecurityServer.isHeaderElement (s : SecurityServer) : IsHeaderElement s.element := by
  refine isHeaderElement_identifier s.namedParts ?_ fun p m => ?_
  · have one : (identifierTag "securityServer" .server).IsWritable := by decide
    exact one
  · rcases List.mem_append.1 m with inMember | isServer
    · exact Member.mem_names inMember
    · rw [List.mem_singleton.1 isServer]
      simp [Part.names]

namespace Header

theorem tokenElement_eq (type : Option String) (token : String) :
    tokenElement type token =
      { tag := (tokenElement type token).tag, children := [.text token] } := by
  rw [tokenElement]
  cases nonEmpty? type <;> rfl

theorem isHeaderElement_token (type : Option String) (token : String) :
    IsHeaderElement (tokenElement type token) := by
  rw [tokenElement_eq]
  refine isHeaderElement_text ?_ token
  rw [tokenElement]
  cases nonEmpty? type with
  | none =>
    have plain : Xml.IsPlainName "securityToken" := by decide
    have binding : Protocol.securityToken.IsWritable := by decide
    exact binding.element plain
  | some type =>
    have typed : (tokenElement (some "type") "").tag.IsWritable := by decide
    exact typed.setValue type

theorem isHeaderElement_textElement {name : String} (plain : Xml.IsPlainName name) (text : String) :
    IsHeaderElement (textElement name text) := by
  have binding : Protocol.header.IsWritable := by decide
  exact isHeaderElement_text (binding.element plain) text

def textNames : List String :=
  ["userId", "id", "issue", "protocolVersion"]

/-- What holds of identifiers, of texts and of a token holds of all elements of a header. -/
theorem forall_elements {h : Header} {c : Consumer} {s : Service} {id : String}
    {P : Element → Prop} (client : P c.element) (service : P s.element)
    (server : ∀ x : SecurityServer, P x.element)
    (text : ∀ name ∈ textNames, ∀ text, P (textElement name text))
    (token : ∀ token ∈ nonEmpty? h.securityToken, P (tokenElement h.securityTokenType token)) :
    ∀ e ∈ h.elements c s id, P e := by
  intro e m
  simp only [elements, List.mem_append, List.mem_cons, List.not_mem_nil, or_false, List.mem_map] at m
  rcases m with ((((((rfl | rfl) | ⟨x, -, rfl⟩) | ⟨user, -, rfl⟩) | rfl) | ⟨issue, -, rfl⟩) |
    ⟨x, present, rfl⟩) | ⟨version, -, rfl⟩
  · exact client
  · exact service
  · exact server x
  · exact text "userId" (by decide) user
  · exact text "id" (by decide) id
  · exact text "issue" (by decide) issue
  · exact token x (Option.mem_toList.1 present)
  · exact text "protocolVersion" (by decide) version

theorem elements_isHeaderElement (h : Header) (c : Consumer) (s : Service) (id : String) :
    ∀ e ∈ h.elements c s id, IsHeaderElement e := by
  have plain : ∀ name ∈ textNames, Xml.IsPlainName name := by decide
  exact forall_elements c.isHeaderElement s.isHeaderElement SecurityServer.isHeaderElement
    (fun name m => isHeaderElement_textElement (plain name m))
    fun token _ => isHeaderElement_token h.securityTokenType token

/-! ### The written message -/

def element (h : Header) (c : Consumer) (s : Service) (id : String) : Element where
  tag := (Protocol.soap.element "Header").tag
  children := (h.elements c s id).map (·.node)

def envelope (h : Header) : Tag :=
  h.bindings.foldl (fun t b => b.declare t) Soap.Message.empty.envelope

variable {h : Header} {c : Consumer} {s : Service} {id : String}

theorem declare_all (bindings : List Xml.Binding) (m : Soap.Message) :
    (bindings.foldl Soap.Message.declare m).envelope =
        bindings.foldl (fun t b => b.declare t) m.envelope ∧
      (bindings.foldl Soap.Message.declare m).header = m.header ∧
      (bindings.foldl Soap.Message.declare m).body = m.body := by
  induction bindings generalizing m with
  | nil => exact ⟨rfl, rfl, rfl⟩
  | cons b bindings ih => exact ih (m.declare b)

section
variable (consumer : h.consumer = some c) (service : h.service = some s) (messageId : h.id = some id)
include consumer service messageId

theorem writeInto_empty :
    ∃ m, (h.writeInto.run.run .empty).run = (.ok (), m) ∧ m.envelope = h.envelope ∧
      m.header = some (h.element c s id) ∧ m.body = Protocol.soap.element "Body" := by
  obtain ⟨envelope, header, body⟩ := declare_all h.bindings .empty
  rw [writeInto_run, consumer, service, messageId]
  refine ⟨_, rfl, envelope, ?_, body⟩
  rw [Soap.Message.header_pushHeader, Soap.Message.headerOrNew_eq header]
  rfl

theorem writeTo_empty :
    ∃ m, h.writeTo .empty = .ok m ∧ m.envelope = h.envelope ∧ m.header = some (h.element c s id) ∧
      m.body = Protocol.soap.element "Body" := by
  obtain ⟨m, written, parts⟩ := writeInto_empty consumer service messageId
  refine ⟨m, ?_, parts⟩
  rw [writeTo, written]

end

theorem envelope_writable (h : Header) : h.envelope.IsWritable := by
  have plain : Tag.IsWritable ([Protocol.identifiers, Protocol.header].foldl
      (fun t b => b.declare t) Soap.Message.empty.envelope) := by decide
  have secured : Tag.IsWritable
      ([Protocol.securityToken, Protocol.identifiers, Protocol.header].foldl
        (fun t b => b.declare t) Soap.Message.empty.envelope) := by decide
  rw [envelope, bindings]
  cases nonEmpty? h.securityToken with
  | none => exact plain
  | some token => exact secured

theorem hasWritableTags_element : (h.element c s id).node.HasWritableTags := by
  have tag : (Protocol.soap.element "Header").tag.IsWritable := by decide
  refine .element tag fun n m => ?_
  obtain ⟨e, me, rfl⟩ := List.mem_map.1 m
  exact (h.elements_isHeaderElement c s id e me).writable

/-! ### Finding the elements again -/

/-- The elements of a header under their namespaces and names. -/
def slots (h : Header) (c : Consumer) (s : Service) (id : String) : Slots :=
  let xrd := Protocol.header.nsUri
  [((xrd, "client"), some c.element),
    ((xrd, "service"), some s.element),
    ((xrd, "securityServer"), h.securityServer.map SecurityServer.element),
    ((xrd, "userId"), (nonEmpty? h.userId).map (textElement "userId")),
    ((xrd, "id"), some (textElement "id" id)),
    ((xrd, "issue"), (nonEmpty? h.issue).map (textElement "issue")),
    ((Protocol.securityToken.nsUri, "securityToken"),
      (nonEmpty? h.securityToken).map (tokenElement h.securityTokenType)),
    ((xrd, "protocolVersion"), h.protocolVersion.map (textElement "protocolVersion"))]

theorem elements_slots : (h.slots c s id).elements = h.elements c s id := by
  simp only [slots, Slots.elements_cons, elements, Option.toList_map, Option.toList_some,
    List.append_assoc, List.cons_append, List.nil_append]
  rw [show Slots.elements [] = [] from rfl, List.append_nil]

theorem slots_isNamed : (h.slots c s id).IsNamed where
  named := by
    intro slot m e found
    simp only [slots, List.mem_cons, List.not_mem_nil, or_false] at m
    rcases m with rfl | rfl | rfl | rfl | rfl | rfl | rfl | rfl
    · obtain rfl := Option.some.inj found
      exact ⟨rfl, rfl⟩
    · obtain rfl := Option.some.inj found
      exact ⟨rfl, rfl⟩
    · obtain ⟨server, -, rfl⟩ := Option.map_eq_some_iff.1 found
      exact ⟨rfl, rfl⟩
    · obtain ⟨user, -, rfl⟩ := Option.map_eq_some_iff.1 found
      exact ⟨rfl, rfl⟩
    · obtain rfl := Option.some.inj found
      exact ⟨rfl, rfl⟩
    · obtain ⟨issue, -, rfl⟩ := Option.map_eq_some_iff.1 found
      exact ⟨rfl, rfl⟩
    · obtain ⟨token, -, rfl⟩ := Option.map_eq_some_iff.1 found
      rw [tokenElement]
      cases nonEmpty? h.securityTokenType <;> exact ⟨rfl, rfl⟩
    · obtain ⟨version, -, rfl⟩ := Option.map_eq_some_iff.1 found
      exact ⟨rfl, rfl⟩
  nodup := by
    simp [slots, Protocol.header, Protocol.securityToken]

def innerScope (scope : Scope) : Scope :=
  (Protocol.soap.element "Header").tag.writtenDeclarations scope :: scope

variable (h c s id) in
theorem unique?_element (scope : Scope) (b : Xml.Binding) (name : String)
    (other : Protocol.identifiers.nsUri ≠ b.nsUri) :
    unique? ((h.element c s id).reread scope) b name =
      ((h.slots c s id).lookup (b.nsUri, name)).join.map (Element.reread (innerScope scope)) := by
  rw [element, Element.reread_elements, unique?, Element.find_elements, List.filter_map, Xml.only?_map,
    ← Slots.only?_filter slots_isNamed, elements_slots]
  · have same : ((·.tag.isNamed (some b.nsUri) name) ∘ Element.reread (innerScope scope)) =
        fun e : Element => e.tag.isNamed (some b.nsUri) name := by
      funext e
      rw [Function.comp_apply, Element.reread_tag]
      rfl
    exact congrArg (fun p => (only? ((h.elements c s id).filter p)).map
      (Element.reread (innerScope scope))) same
  · intro e m d below
    obtain ⟨e', m', rfl⟩ := List.mem_map.1 m
    have uri := (h.elements_isHeaderElement c s id e' m').below _ d below
    rw [Xml.QName.isNamed, uri]
    simp [other]

/-! ### Reading -/

def codes (h : Header) : List Code :=
  h.consumer.toList.flatMap Consumer.parts ++ h.service.toList.flatMap Service.parts ++
    h.securityServer.toList.flatMap SecurityServer.parts

/-- What is read of a header that was written. -/
def readBack (h : Header) : Header :=
  { h with
    service := h.service.map Service.readBack
    userId := nonEmpty? h.userId
    issue := nonEmpty? h.issue
    requestHash := none
    requestHashAlgorithm := none
    securityToken := nonEmpty? h.securityToken
    securityTokenType := (nonEmpty? h.securityToken).bind fun _ => nonEmpty? h.securityTokenType }

theorem textContent_textElement (name text : String) (scope : Scope) :
    ((textElement name text).reread scope).textContent = text :=
  Element.textContent_reread scope (Protocol.header.element name).tag text

theorem textOf?_element (scope : Scope) (name : String) (text : Option String)
    (found : ((h.slots c s id).lookup (Protocol.header.nsUri, name)).join =
      text.map (textElement name)) :
    textOf? ((h.element c s id).reread scope) name = text := by
  have other : Protocol.identifiers.nsUri ≠ Protocol.header.nsUri := by decide
  rw [textOf?, unique?_element h c s id scope _ name other, found, Option.map_map, Option.map_map]
  cases text with
  | none => rfl
  | some text => exact congrArg some (textContent_textElement name text _)

theorem textContent_tokenElement (type : Option String) (token : String) (scope : Scope) :
    ((tokenElement type token).reread scope).textContent = token := by
  rw [tokenElement_eq]
  exact Element.textContent_reread scope (tokenElement type token).tag token

theorem type_tokenElement (type : Option String) (token : String) (scope : Scope) :
    (((tokenElement type token).reread scope).tag.attribute? "tokenType" <|>
      ((tokenElement type token).reread scope).tag.attributeIn? Protocol.securityToken.nsUri
        "tokenType") = nonEmpty? type := by
  rw [Element.reread_tag, tokenElement]
  cases nonEmpty? type <;> rfl

theorem readTexts_element (scope : Scope) (messageId : h.id = some id) :
    readTexts ((h.element c s id).reread scope) =
      { h.readBack with consumer := none, service := none, securityServer := none } := by
  let e := (h.element c s id).reread scope
  have idText : textOf? e "id" = some id := textOf?_element scope "id" (some id) rfl
  have userId : textOf? e "userId" = nonEmpty? h.userId := textOf?_element scope "userId" _ rfl
  have issue : textOf? e "issue" = nonEmpty? h.issue := textOf?_element scope "issue" _ rfl
  have version : textOf? e "protocolVersion" = h.protocolVersion :=
    textOf?_element scope "protocolVersion" _ rfl
  have hash : unique? e Protocol.header "requestHash" = none :=
    unique?_element h c s id scope Protocol.header "requestHash" (by decide)
  have token : unique? e Protocol.securityToken "securityToken" =
      ((nonEmpty? h.securityToken).map (tokenElement h.securityTokenType)).map
        (Element.reread (innerScope scope)) :=
    unique?_element h c s id scope Protocol.securityToken "securityToken" (by decide)
  change readTexts e = _
  rw [readTexts, idText, userId, issue, version, hash, token, readBack, messageId]
  cases nonEmpty? h.securityToken with
  | none => rfl
  | some token =>
    simp only [Option.map_some, Option.bind_some, textContent_tokenElement, type_tokenElement]
    rfl

theorem identifier_element {α β : Type} (strict : Bool) (scope : Scope) {name : String} (o : Option α)
    (written : α → Element) {read : Element → Except ReadError β} (result : α → β)
    (found : ((h.slots c s id).lookup (Protocol.header.nsUri, name)).join = o.map written)
    (reads : ∀ a ∈ o, ∀ inner, read ((written a).reread inner) = .ok (result a)) :
    identifier strict ((h.element c s id).reread scope) name read = .ok (o.map result) := by
  have other : Protocol.identifiers.nsUri ≠ Protocol.header.nsUri := by decide
  rw [identifier, unique?_element h c s id scope _ name other, found]
  cases o with
  | none => rfl
  | some a =>
    rw [Option.map_some, Option.map_some]
    simp only [reads a rfl]
    rfl

/-- A header that was written with trimmed codes is read back. -/
theorem read_element (scope : Scope) (consumer : h.consumer = some c) (service : h.service = some s)
    (messageId : h.id = some id) (trimmed : ∀ p ∈ h.codes, p.IsTrimmed) :
    read ((h.element c s id).reread scope) = .ok h.readBack := by
  let e := (h.element c s id).reread scope
  have client : identifier true e "client" Consumer.ofElement = .ok (h.consumer.map fun c => c) := by
    refine identifier_element true scope h.consumer Consumer.element _ ?_ fun c m inner => ?_
    · rw [consumer]
      rfl
    · exact Consumer.ofElement_reread (fun p m' => trimmed p (by simp [codes, Option.mem_def.1 m, m']))
        inner
  have service' : identifier true e "service" Service.ofElement =
      .ok (h.service.map Service.readBack) := by
    refine identifier_element true scope h.service Service.element _ ?_ fun s m inner => ?_
    · rw [service]
      rfl
    · exact Service.ofElement_reread (fun p m' => trimmed p (by simp [codes, Option.mem_def.1 m, m']))
        inner
  have server : identifier true e "securityServer" SecurityServer.ofElement =
      .ok (h.securityServer.map fun s => s) := by
    refine identifier_element true scope h.securityServer SecurityServer.element _ rfl fun s m inner => ?_
    exact SecurityServer.ofElement_reread
      (fun p m' => trimmed p (by simp [codes, Option.mem_def.1 m, m'])) inner
  change read e = _
  rw [read, readIn, client, ok_bind, service', ok_bind, server, ok_bind, readTexts_element scope messageId,
    Option.map_id', Option.map_id']
  rfl

/-! ### The whole way -/

/-- A message with a header that was written comes back with that header as it is read. -/
theorem parse_message {m : Soap.Message} (envelope : m.envelope = h.envelope)
    (header : m.header = some (h.element c s id)) (body : m.body.node.HasWritableTags) :
    Soap.Message.parse m.toBytes = .ok m.reread ∧
      m.reread.header = some ((h.element c s id).reread m.scope) := by
  refine ⟨Soap.Message.parse_toBytes (Soap.Message.hasWritableTags ?_ ?_ body), ?_⟩
  · rw [envelope]
    exact h.envelope_writable
  · intro e found
    obtain rfl := Option.some.inj (header.symm.trans found)
    exact hasWritableTags_element
  · change m.header.map (Element.reread m.scope) = _
    rw [header, Option.map_some]

end Header

namespace Request

variable {α : Type}

/-- The header of a request is read back from the wire, whatever its texts are. -/
theorem read_written_header (r : Request α) (trimmed : ∀ p ∈ r.header.codes, p.IsTrimmed)
    (central : r.producer.owner = none → r.producer.subsystem = none ∧ r.producer.version = none) :
    ∃ m m' e, r.header.writeTo .empty = .ok m ∧ Soap.Message.parse m.toBytes = .ok m' ∧
      m'.header = some e ∧
      Header.read e = .ok
        { consumer := some r.consumer
          service := some r.producer.toService
          securityServer := r.securityServer
          id := some r.id
          userId := Header.nonEmpty? r.userId
          issue := Header.nonEmpty? r.issue
          protocolVersion := some r.protocolVersion
          requestHash := none
          requestHashAlgorithm := none
          securityToken := Header.nonEmpty? r.securityToken
          securityTokenType :=
            (Header.nonEmpty? r.securityToken).bind fun _ => Header.nonEmpty? r.securityTokenType } := by
  obtain ⟨m, written, envelope, header, body⟩ :=
    r.header.writeTo_empty (c := r.consumer) (s := r.producer.toService) rfl rfl rfl
  have empty : m.body.node.HasWritableTags := by
    rw [body]
    decide
  obtain ⟨parsed, found⟩ := Header.parse_message envelope header empty
  refine ⟨m, m.reread, _, written, parsed, found, ?_⟩
  rw [Header.read_element m.scope rfl rfl rfl trimmed]
  rw [Header.readBack, Request.header]
  simp only [Option.map_some, Service.readBack_eq_self central]

/-- Markup in every text, blank characters around them, and an empty issue. -/
theorem read_written_header_markup :
    let code (s : String) (h : s ≠ "") : Code := ⟨s, h⟩
    let r : Request Unit :=
      { consumer :=
          { xRoadInstance := code "A&B" (by decide), memberClass := code "<x>" (by decide)
            memberCode := code "1 \"2\"" (by decide), subsystem := some (code "'" (by decide)) }
        producer :=
          { xRoadInstance := code "EE" (by decide), owner := none
            serviceCode := code "get]]>" (by decide) }
        id := " <id/>\n"
        userId := some " "
        issue := some ""
        securityToken := some "&amp;"
        securityTokenType := some "a\tb" }
    (∀ p ∈ r.header.codes, p.IsTrimmed) ∧
      (r.producer.owner = none → r.producer.subsystem = none ∧ r.producer.version = none) ∧
      ∃ m m' e, r.header.writeTo .empty = .ok m ∧ Soap.Message.parse m.toBytes = .ok m' ∧
        m'.header = some e ∧
        Header.read e = .ok { r.header with issue := none } := by
  intro code r
  have trimmed : ∀ p ∈ r.header.codes, p.IsTrimmed := by decide
  have central : r.producer.owner = none → r.producer.subsystem = none ∧ r.producer.version = none :=
    fun _ => ⟨rfl, rfl⟩
  exact ⟨trimmed, central, read_written_header r trimmed central⟩

end Request

end XRoad
