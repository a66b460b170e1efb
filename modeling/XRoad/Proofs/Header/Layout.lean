import XRoad.Proofs.Header.RoundTrip
import XRoad.Proofs.Xml.Layout
import XRoad.Response.Basic

/-!
# The layout of a header

A header is written in one way: all namespaces are declared on the envelope and nowhere below it,
the elements stand in a fixed order, and what is missing or empty is left out. A header that cannot
be written changes nothing. Main statement: `Header.write_layout`.
-/

namespace XRoad

open Xml (Binding Element Node Scope Tag markup escapeContent)

/-! ### The layout -/

def identifierMarkup (name type : String) (parts : List (String × Code)) : List Char :=
  markup ("xrd:" ++ name) [("id:objectType", type)]
    (parts.flatMap fun p => markup ("id:" ++ p.1) [] (escapeContent p.2.text.toList))

def Consumer.layout (c : Consumer) : List Char :=
  identifierMarkup "client" (if c.subsystem.isSome then "SUBSYSTEM" else "MEMBER")
    ([("xRoadInstance", c.xRoadInstance), ("memberClass", c.memberClass),
        ("memberCode", c.memberCode)] ++
      c.subsystem.toList.map ("subsystemCode", ·))

def Service.layout (s : Service) : List Char :=
  identifierMarkup "service" (if s.owner.isSome then "SERVICE" else "CENTRALSERVICE")
    ([("xRoadInstance", s.xRoadInstance)] ++
      s.owner.toList.flatMap (fun o => [("memberClass", o.memberClass), ("memberCode", o.memberCode)]) ++
      s.subsystem.toList.map ("subsystemCode", ·) ++ [("serviceCode", s.serviceCode)] ++
      s.version.toList.map ("serviceVersion", ·))

def SecurityServer.layout (s : SecurityServer) : List Char :=
  identifierMarkup "securityServer" "SERVER"
    [("xRoadInstance", s.xRoadInstance), ("memberClass", s.memberClass),
      ("memberCode", s.memberCode), ("serverCode", s.serverCode)]

namespace Header

def textMarkup (name text : String) : List Char :=
  markup ("xrd:" ++ name) [] (escapeContent text.toList)

def tokenMarkup (type : Option String) (token : String) : List Char :=
  markup "extsec:securityToken" ((nonEmpty? type).toList.map ("extsec:tokenType", ·))
    (escapeContent token.toList)

def fields (h : Header) (c : Consumer) (s : Service) (id version : String) : List (List Char) :=
  [c.layout, s.layout] ++ h.securityServer.toList.map SecurityServer.layout ++
    (nonEmpty? h.userId).toList.map (textMarkup "userId") ++ [textMarkup "id" id] ++
    (nonEmpty? h.issue).toList.map (textMarkup "issue") ++
    (nonEmpty? h.securityToken).toList.map (tokenMarkup h.securityTokenType) ++
    [textMarkup "protocolVersion" version]

/-- The namespaces that are declared on the envelope; that of tokens only if there is a token. -/
def declared (h : Header) : List (String × String) :=
  [("xmlns:SOAP-ENV", "http://schemas.xmlsoap.org/soap/envelope/")] ++
    (nonEmpty? h.securityToken).toList.map
      (fun _ => ("xmlns:extsec", "http://x-road.eu/xsd/security-token.xsd")) ++
    [("xmlns:id", "http://x-road.eu/xsd/identifiers"),
      ("xmlns:xrd", "http://x-road.eu/xsd/xroad.xsd")]

/-- A message without content under a header. -/
def layout (h : Header) (c : Consumer) (s : Service) (id version : String) : List Char :=
  markup "SOAP-ENV:Envelope" h.declared
    (markup "SOAP-ENV:Header" [] (h.fields c s id version).flatten ++ markup "SOAP-ENV:Body" [] [])

/-- The header of a request or of a response, which always has a version of the protocol. -/
inductive IsOfMessage : Header → Prop
  | request {α : Type} (r : Request α) : IsOfMessage r.header
  | response {α β : Type} (a : Response α β) : IsOfMessage a.header

theorem IsOfMessage.version {h : Header} (ofMessage : h.IsOfMessage) :
    ∃ version, h.protocolVersion = some version := by
  cases ofMessage with
  | request r => exact ⟨r.protocolVersion, rfl⟩
  | response a => exact ⟨a.protocolVersion, rfl⟩

/-! ### The fields -/

theorem writeOwn_textElement (name text : String) :
    (textElement name text).node.writeOwn = textMarkup name text :=
  Node.writeOwn_text (Protocol.header.element name).tag text

theorem writeOwn_tokenElement (type : Option String) (token : String) :
    (tokenElement type token).node.writeOwn = tokenMarkup type token := by
  rw [tokenElement_eq, Element.node, Node.writeOwn_text, tokenMarkup, tokenElement]
  cases nonEmpty? type <;> rfl

theorem writeOwn_identifierElement (name : String) (type : ObjectType)
    (parts : List (String × Code)) :
    (identifierElement name type parts).node.writeOwn = identifierMarkup name type.name parts := by
  rw [identifierElement_eq, Element.node, Node.writeOwn_element, List.flatMap_map, List.flatMap_map]
  refine congrArg (markup _ _) (List.flatMap_congr fun p _ => ?_)
  exact Node.writeOwn_text (Protocol.identifiers.element p.1).tag p.2.text

theorem writeOwn_consumer (c : Consumer) : c.element.node.writeOwn = c.layout := by
  rw [Consumer.element, writeOwn_identifierElement, Consumer.layout, Consumer.objectType]
  cases c.subsystem <;> rfl

theorem writeOwn_service (s : Service) : s.element.node.writeOwn = s.layout := by
  rw [Service.element, writeOwn_identifierElement, Service.layout, Service.objectType,
    Service.memberClass, Service.memberCode]
  cases s.owner <;> rfl

theorem writeOwn_securityServer (s : SecurityServer) : s.element.node.writeOwn = s.layout := by
  rw [SecurityServer.element, writeOwn_identifierElement]
  rfl

variable {h : Header} {c : Consumer} {s : Service} {id version : String}

theorem writeOwn_elements (given : h.protocolVersion = some version) :
    (h.elements c s id).map (·.node.writeOwn) = h.fields c s id version := by
  have text (name : String) :
      (fun e : Element => e.node.writeOwn) ∘ textElement name = textMarkup name :=
    funext (writeOwn_textElement name)
  have server : (fun e : Element => e.node.writeOwn) ∘ SecurityServer.element =
      SecurityServer.layout :=
    funext writeOwn_securityServer
  have token : (fun e : Element => e.node.writeOwn) ∘ tokenElement h.securityTokenType =
      tokenMarkup h.securityTokenType :=
    funext (writeOwn_tokenElement h.securityTokenType)
  rw [elements, given, fields]
  simp only [List.map_append, List.map_cons, List.map_nil, List.map_map, Option.toList_some,
    writeOwn_consumer, writeOwn_service, writeOwn_textElement, text, server, token]

/-! ### The namespaces -/

def namespaces (h : Header) : List Binding :=
  Protocol.soap :: h.bindings

theorem envelope_eq (h : Header) :
    h.envelope =
      { (Protocol.soap.element "Envelope").tag with
        declarations := h.namespaces.map fun b => (b.nsPrefix, b.nsUri) } := by
  rw [envelope, namespaces, bindings]
  cases nonEmpty? h.securityToken <;> rfl

theorem namespaces_cases (h : Header) :
    h.namespaces = [Protocol.soap, Protocol.identifiers, Protocol.header] ∨
      h.namespaces =
        [Protocol.soap, Protocol.securityToken, Protocol.identifiers, Protocol.header] := by
  rw [namespaces, bindings]
  cases nonEmpty? h.securityToken with
  | none => exact .inl rfl
  | some token => exact .inr rfl

theorem binds_namespaces (h : Header) :
    ∀ b ∈ h.namespaces, Scope.binds [h.envelope.declarations] b.nsPrefix b.nsUri := by
  rw [envelope_eq]
  rcases h.namespaces_cases with plain | secured
  · rw [plain]
    decide
  · rw [secured]
    decide

theorem writtenDeclarations_envelope (h : Header) :
    h.envelope.writtenDeclarations [] = h.envelope.declarations := by
  rw [envelope_eq]
  rcases h.namespaces_cases with plain | secured
  · rw [plain]
    decide
  · rw [secured]
    decide

section
variable {bs : List Binding}

theorem isWithin_textElement (bound : Protocol.header ∈ bs) (name text : String) :
    (textElement name text).node.IsWithin bs :=
  Node.isWithin_withText rfl (Binding.usesOnly_element bound name) text

theorem isWithin_tokenElement (bound : Protocol.securityToken ∈ bs) (type : Option String)
    (token : String) : (tokenElement type token).node.IsWithin bs := by
  have uses := Binding.usesOnly_element bound "securityToken"
  rw [tokenElement_eq, tokenElement]
  cases nonEmpty? type with
  | none => exact Node.isWithin_withText rfl uses token
  | some type =>
    refine Node.isWithin_withText rfl (fun use m => ?_) token
    -- The type is in the namespace of its element.
    refine uses use ?_
    rcases List.mem_cons.1 m with rfl | typed
    · exact List.mem_singleton_self _
    · exact typed

theorem isWithin_identifierElement (bound : Protocol.header ∈ bs) (ids : Protocol.identifiers ∈ bs)
    (name : String) (type : ObjectType) (parts : List (String × Code)) :
    (identifierElement name type parts).node.IsWithin bs := by
  rw [identifierElement_eq]
  refine Node.isWithin_element rfl (fun use m => ?_) fun n m => ?_
  · rcases List.mem_cons.1 m with rfl | typed
    · exact Binding.usesOnly_element bound name _ (List.mem_singleton_self _)
    · exact ⟨_, ids, List.mem_singleton.1 typed⟩
  · obtain ⟨e, me, rfl⟩ := List.mem_map.1 m
    obtain ⟨p, -, rfl⟩ := List.mem_map.1 me
    exact Node.isWithin_withText rfl (Binding.usesOnly_element ids p.1) p.2.text

end

theorem isWithin_element (h : Header) (c : Consumer) (s : Service) (id : String) :
    (h.element c s id).node.IsWithin h.namespaces := by
  have xrd : Protocol.header ∈ h.namespaces := by simp [namespaces, bindings]
  have ids : Protocol.identifiers ∈ h.namespaces := by simp [namespaces, bindings]
  have extsec (token : String) (present : token ∈ nonEmpty? h.securityToken) :
      Protocol.securityToken ∈ h.namespaces := by
    simp [namespaces, bindings, Option.mem_def.1 present]
  have all : ∀ e ∈ h.elements c s id, e.node.IsWithin h.namespaces :=
    forall_elements (isWithin_identifierElement xrd ids _ _ _)
      (isWithin_identifierElement xrd ids _ _ _)
      (fun _ => isWithin_identifierElement xrd ids _ _ _)
      (fun name _ text => isWithin_textElement xrd name text)
      fun token present => isWithin_tokenElement (extsec token present) _ token
  refine Node.isWithin_element rfl (Binding.usesOnly_element List.mem_cons_self "Header") fun n m => ?_
  obtain ⟨e, me, rfl⟩ := List.mem_map.1 m
  exact all e me

/-! ### The message -/

theorem write_envelope (given : h.protocolVersion = some version) :
    (Node.element h.envelope
      [(h.element c s id).node, (Protocol.soap.element "Body").node]).write [] =
      h.layout c s id version := by
  have header := (h.isWithin_element c s id).undeclared h.binds_namespaces
  have body : (Protocol.soap.element "Body").node.IsWithin h.namespaces :=
    Node.isWithin_element rfl (Binding.usesOnly_element List.mem_cons_self "Body") nofun
  have keeps : (Node.element h.envelope
      [(h.element c s id).node, (Protocol.soap.element "Body").node]).KeepsDeclarations [] := by
    refine Node.everywhere_element.2 ⟨h.writtenDeclarations_envelope, fun n m => ?_⟩
    rcases List.mem_pair.1 m with rfl | rfl
    · exact header.2
    · exact (body.undeclared h.binds_namespaces).2
  have fields : (h.element c s id).node.writeOwn =
      markup "SOAP-ENV:Header" [] (h.fields c s id version).flatten := by
    rw [element, Element.node, Node.writeOwn_element, List.flatMap_map, List.flatMap_def,
      writeOwn_elements given]
    rfl
  have empty : (Protocol.soap.element "Body").node.writeOwn = markup "SOAP-ENV:Body" [] [] :=
    Node.writeOwn_element _ _
  rw [Node.write_of_keepsDeclarations keeps, Node.writeOwn_element, List.flatMap_cons,
    List.flatMap_singleton, fields, empty, layout, declared, envelope_eq, namespaces, bindings]
  cases nonEmpty? h.securityToken <;> rfl

/-- A header that names a consumer, a service and an identifier is written into an empty message in
one layout. All its namespaces are declared on the envelope, and no element of the header is written
with a declaration. A header that lacks one of the three leaves every message as it is. -/
theorem write_layout {h : Header} (ofMessage : h.IsOfMessage) :
    (∀ c s id, h.consumer = some c → h.service = some s → h.id = some id →
      ∃ m e version, (h.writeInto.run.run .empty).run = (.ok (), m) ∧
        h.protocolVersion = some version ∧ m.toXml = String.ofList (h.layout c s id version) ∧
        m.header = some e ∧
        e.node.Everywhere (fun scope x => x.tag.writtenDeclarations scope = [])
          [m.envelope.writtenDeclarations []]) ∧
    (h.consumer = none ∨ h.service = none ∨ h.id = none →
      ∀ m, ∃ part, (h.writeInto.run.run m).run = (.error (.missing part), m)) := by
  constructor
  · intro c s id consumer service messageId
    obtain ⟨version, given⟩ := ofMessage.version
    obtain ⟨m, written, envelope, header, body⟩ := writeInto_empty consumer service messageId
    refine ⟨m, _, version, written, given, ?_, header, ?_⟩
    · have tree : m.toElement.node =
          .element h.envelope [(h.element c s id).node, (Protocol.soap.element "Body").node] := by
        rw [Soap.Message.toElement, envelope, header, body]
        rfl
      rw [Soap.Message.toXml, Element.toXml, tree, write_envelope given]
    · rw [envelope, writtenDeclarations_envelope]
      exact ((h.isWithin_element c s id).undeclared h.binds_namespaces).1
  · intro incomplete m
    rw [writeInto_run]
    cases consumer : h.consumer with
    | none => exact ⟨_, rfl⟩
    | some c =>
      cases service : h.service with
      | none => exact ⟨_, rfl⟩
      | some s =>
        cases messageId : h.id with
        | none => exact ⟨_, rfl⟩
        | some id =>
          rw [consumer, service, messageId] at incomplete
          rcases incomplete with missing | missing | missing <;> cases missing

/-- A token without a type, an empty issue, and markup in a text. -/
theorem write_layout_secured :
    let code (s : String) (h : s ≠ "") : Code := ⟨s, h⟩
    let r : Request Unit :=
      { consumer :=
          { xRoadInstance := code "EE" (by decide), memberClass := code "GOV" (by decide)
            memberCode := code "1" (by decide), subsystem := some (code "A&B" (by decide)) }
        producer :=
          { xRoadInstance := code "EE" (by decide), owner := none
            serviceCode := code "get" (by decide) }
        id := ""
        issue := some ""
        securityToken := some "<t>"
        securityTokenType := some "" }
    r.header.IsOfMessage ∧
      ∃ m, (r.header.writeInto.run.run .empty).run = (.ok (), m) ∧
        m.toXml = String.ofList (List.flatMap String.toList
          ["<SOAP-ENV:Envelope", " xmlns:SOAP-ENV=\"http://schemas.xmlsoap.org/soap/envelope/\"",
            " xmlns:extsec=\"http://x-road.eu/xsd/security-token.xsd\"",
            " xmlns:id=\"http://x-road.eu/xsd/identifiers\"",
            " xmlns:xrd=\"http://x-road.eu/xsd/xroad.xsd\">", "<SOAP-ENV:Header>",
            "<xrd:client id:objectType=\"SUBSYSTEM\">", "<id:xRoadInstance>EE</id:xRoadInstance>",
            "<id:memberClass>GOV</id:memberClass>", "<id:memberCode>1</id:memberCode>",
            "<id:subsystemCode>A&amp;B</id:subsystemCode>", "</xrd:client>",
            "<xrd:service id:objectType=\"CENTRALSERVICE\">", "<id:xRoadInstance>EE</id:xRoadInstance>",
            "<id:serviceCode>get</id:serviceCode>", "</xrd:service>", "<xrd:id/>",
            "<extsec:securityToken>&lt;t&gt;</extsec:securityToken>",
            "<xrd:protocolVersion>4.0</xrd:protocolVersion>", "</SOAP-ENV:Header>",
            "<SOAP-ENV:Body/>", "</SOAP-ENV:Envelope>"]) := by
  intro code r
  refine ⟨.request r, ?_⟩
  obtain ⟨m, -, version, written, given, text, -⟩ :=
    (write_layout (.request r)).1 r.consumer r.producer.toService "" rfl rfl rfl
  obtain rfl : version = "4.0" := (Option.some.inj given).symm
  refine ⟨m, written, text.trans (congrArg String.ofList ?_)⟩
  decide +kernel

end Header

end XRoad
