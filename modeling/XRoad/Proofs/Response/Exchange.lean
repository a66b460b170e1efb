import XRoad.Proofs.Request.Reader
import XRoad.Proofs.Xml.Binding
import XRoad.Proofs.Xml.Namespace
import XRoad.Response.Printer
import XRoad.Response.Reader

/-!
# Exchanges

An answer to a request that was read is read with the content that was sent, and with the header
fields of the request. Main statement: `Request.read_answer`.
-/

namespace XRoad

open Xml (Element Node Tag Binding only?)

/-- A `Fault` in the namespace of envelopes. -/
def Xml.Element.IsSoapFault (e : Element) : Prop :=
  e.tag.isNamed (some Protocol.soap.nsUri) "Fault"

instance (e : Element) : Decidable e.IsSoapFault :=
  inferInstanceAs (Decidable (_ = true))

def Soap.Message.IsFault (m : Soap.Message) : Prop :=
  ∃ e ∈ m.body.childElements, e.tag.isNamed (some Protocol.soap.nsUri) "Fault"

instance (m : Soap.Message) : Decidable m.IsFault :=
  inferInstanceAs (Decidable (∃ e ∈ m.body.childElements, _))

theorem isFault_toMessage (f : Fault) (write : DetailWriter) : (f.toMessage write).IsFault :=
  ⟨f.element write, List.mem_singleton_self _, rfl⟩

namespace Service

theorem responseName_ne (s : Service) {t : String} (other : ¬ "Response".toList <:+ t.toList) :
    s.responseName ≠ t := by
  rintro rfl
  refine other ⟨s.serviceCode.text.toList, ?_⟩
  rw [responseName, String.toList_append]

end Service

/-! ### What is written -/

namespace Response

variable {α β : Type} (a : Response α β)

/-- The namespace that a part of an answer takes when it is to take one. -/
def bindingIf (qualify : Bool) : Option Binding :=
  if qualify then a.producer.bind (·.binding?) else none

theorem bindingIf_of_producer {a : Response α β} {p : Producer} (producer : a.producer = some p)
    (qualify : Bool) : a.bindingIf qualify = if qualify then p.binding? else none := by
  rw [bindingIf, producer, Option.bind_some]

/-- The content as an answer carries it: all of it in the namespace, or what had none. -/
def moved (d : Element) : Element :=
  match a.bindingIf a.qualifyResponse with
  | none => d
  | some b => if a.qualifyAll then b.qualify d else b.fill d

def rootTag (name : String) : Tag :=
  (Element.bound (a.bindingIf a.qualifyRoot) name).tag

def contentTag (t : Tag) : Tag :=
  match a.bindingIf a.qualifyResponse with
  | none => t
  | some b => t.qualify b.nsUri b.nsPrefix

/-- The element that the content stands in, with these nodes for the content. -/
def holder (name : String) (content : List Node) : Element where
  tag := a.contentTag (if a.wrapped then .named "response" else a.rootTag name)
  children := content

def around (wrapper : Element) (name : String) (e : Element) : Element :=
  if a.wrapped then { tag := a.rootTag name, children := [wrapper.node, e.node] } else e

/-- The element that the content stands in. -/
def contentElement (name : String) (d : Element) : Element where
  tag := a.contentTag (if a.wrapped then .named "response" else a.rootTag name)
  children := [(a.moved d).node]

def root (wrapper : Element) (name : String) (d : Element) : Element :=
  if a.wrapped then
    { tag := a.rootTag name, children := [wrapper.node, (a.contentElement name d).node] }
  else a.contentElement name d

variable {name : String}

theorem contentTag_name (t : Tag) : (a.contentTag t).name = t.name := by
  rw [contentTag]
  split <;> rfl

theorem rootTag_name (name : String) : (a.rootTag name).name = name :=
  Element.name_bound _ name

theorem holder_name (content : List Node) :
    (a.holder name content).tag.name = if a.wrapped then "response" else name := by
  rw [holder, contentTag_name]
  split
  · rfl
  · exact a.rootTag_name name

theorem around_name (wrapper : Element) (content : List Node) :
    (a.around wrapper name (a.holder name content)).tag.name = name := by
  rw [around]
  split
  · exact a.rootTag_name name
  · next unwrapped => rw [holder_name, if_neg unwrapped]

theorem names_moved (d : Element) : (a.moved d).names = d.names := by
  rw [moved]
  split
  · rfl
  · next b _ =>
    split
    · exact b.names_qualify d
    · exact b.names_fill d

theorem moved_name (d : Element) : (a.moved d).tag.name = d.tag.name := by
  have same := a.names_moved d
  rw [Element.names_cons, Element.names_cons] at same
  exact (List.cons.inj same).1

end Response

namespace ResponseWriter

variable {α : Type} {a : Response α Element} {d : Element} {p : Producer}

theorem fill_child (noFault : a.fault = none) (content : a.responseData = some d)
    (producer : a.producer = some p) (t : Tag) :
    (child : ResponseWriter α Element).fill a p.binding? { tag := t } =
      .ok { tag := a.contentTag t, children := [(a.moved d).node] } := by
  have write (e : Element) : (child : ResponseWriter α Element).writeContent a e =
      .ok (e.push [d.node]) := by
    have pushed : (child : ResponseWriter α Element).content a e = .ok (e.push [d.node]) := by
      simp only [child, content]
      rfl
    rw [writeContent, content, pushed]
    rfl
  rw [fill, noFault, Response.contentTag, Response.moved, Response.bindingIf_of_producer producer]
  cases target : (if a.qualifyResponse then p.binding? else none) with
  | none => exact write _
  | some b =>
    simp only
    split
    · rw [write, ok_bind]
      exact congrArg Except.ok (Element.mapTags_child (Tag.qualify b.nsUri b.nsPrefix) t d)
    · rw [write, ok_bind]
      exact congrArg Except.ok (b.fill_qualified d t)

/-- The element in the body, when the element that the content stands in is filled with these
nodes whatever its tag is. -/
theorem bodyElement_of_fill {β : Type} {w : ResponseWriter α β} {a : Response α β} {ns : List Node}
    (producer : a.producer = some p) (request : Request α)
    (filled : ∀ t, w.fill a p.binding? { tag := t } = .ok { tag := a.contentTag t, children := ns }) :
    w.bodyElement a request =
      .ok (a.around (requestWrapper a request p.serviceCode.text p.binding?) p.responseName
        (a.holder p.responseName ns)) := by
  have same : producerOf a request = p := by
    rw [producerOf, producer, Option.getD_some]
  have bound : Element.bound (if a.qualifyRoot then p.binding? else none) p.responseName =
      { tag := a.rootTag p.responseName } := by
    rw [Response.rootTag, Response.bindingIf_of_producer producer]
    exact Element.bound_eq _ _
  rw [bodyElement, same]
  simp only [bound]
  rw [Response.around, Response.holder]
  split
  · rw [Element.named, filled]
    rfl
  · exact filled _

theorem bodyElement_child (noFault : a.fault = none) (content : a.responseData = some d)
    (producer : a.producer = some p) (request : Request α) :
    (child : ResponseWriter α Element).bodyElement a request =
      .ok (a.root (requestWrapper a request p.serviceCode.text p.binding?) p.responseName d) :=
  bodyElement_of_fill producer request (fill_child noFault content producer)

theorem writeAnswerTo_of_parts {β : Type} {w : ResponseWriter α β} {a : Response α β}
    {request : Request α} {m : Soap.Message} {rpc : Element}
    (uri : ¬ lacksNamespace a (producerOf a request)) (base : base request = .ok m)
    (body : w.bodyElement a request = .ok rpc) :
    w.writeAnswerTo a (some request) = .ok (m.pushBody [rpc.node]) := by
  rw [writeAnswerTo, writeAnswer, if_neg uri, base, ok_bind, body, ok_bind]

/-- An answer to a request that was read is a fault, or the message read with another body. -/
theorem write_of_bodyElement {β : Type} {w : ResponseWriter α β} {a : Response α β}
    (ordinary : ∀ f ∈ a.fault, ¬ f.isStandard) {request : Request α} {m : Soap.Message}
    {rpc : Element} (received : request.received = some m) (wrapped : a.wrapped = request.wrapped)
    (body : w.bodyElement a request = .ok rpc)
    (sound : ¬ (w.write a (some request)).2.IsFault) :
    (w.write a (some request)).2 = m.withoutBody.pushBody [rpc.node] := by
  have like : wrapLike a (some request) = a := by
    rw [wrapLike, ← wrapped]
  have noStandard : a.fault.filter Fault.isStandard = none :=
    Option.filter_eq_none_iff.2 ordinary
  have base : base request = .ok m.withoutBody := by
    rw [base, received]
  -- Nothing but a missing namespace can keep the answer from being written.
  by_cases lacks : lacksNamespace a (producerOf a request)
  · have failed : w.writeAnswerTo a (some request) = .error .missingNamespaceUri := by
      rw [writeAnswerTo, writeAnswer, if_pos lacks]
    refine absurd ?_ sound
    simp only [write, like, noStandard, failed]
    exact isFault_toMessage _ _
  · simp only [write, like, noStandard, writeAnswerTo_of_parts lacks base body]

theorem write_child (noFault : a.fault = none) (content : a.responseData = some d)
    (producer : a.producer = some p) {request : Request α} {m : Soap.Message}
    (received : request.received = some m) (wrapped : a.wrapped = request.wrapped)
    (sound : ¬ ((child : ResponseWriter α Element).write a (some request)).2.IsFault) :
    ((child : ResponseWriter α Element).write a (some request)).2 =
      m.withoutBody.pushBody
        [(a.root (requestWrapper a request p.serviceCode.text p.binding?) p.responseName d).node] := by
  refine write_of_bodyElement ?_ received wrapped (bodyElement_child noFault content producer _) sound
  rw [noFault]
  exact nofun

theorem names_requestWrapper {β : Type} {a : Response α β} {request : Request α} {code : String}
    {s : Service}
    (echoed : ∀ w ∈ receivedWrapper? request code, s.responseName ∉ w.names)
    (binding : Option Binding) :
    s.responseName ∉ (requestWrapper a request code binding).names := by
  rw [requestWrapper, Element.names_qualifyIn]
  cases found : receivedWrapper? request code with
  | none =>
    intro m
    exact s.responseName_ne (by decide) (List.mem_singleton.1 m)
  | some w => exact echoed w found

theorem requestWrapper_name {β : Type} {a : Response α β} (request : Request α) (code : String)
    (binding : Option Binding) : (requestWrapper a request code binding).tag.name = "request" := by
  have name : ((receivedWrapper? request code).getD (.named "request")).tag.name = "request" := by
    cases found : receivedWrapper? request code with
    | none => rfl
    | some e =>
      rw [receivedWrapper?] at found
      obtain ⟨m, -, found⟩ := Option.bind_eq_some_iff.1 found
      obtain ⟨rpc, -, found⟩ := Option.bind_eq_some_iff.1 found
      rw [Element.child?] at found
      simpa using List.find?_some found
  rw [requestWrapper]
  cases (if a.qualifyRequest then binding else none) with
  | none => exact name
  | some b => exact name

end ResponseWriter

/-! ### What is read -/

namespace Response

variable {α β : Type} {a : Response α β} {d wrapper : Element} {name : String}

/-- No element below the one in the body is named like it. -/
theorem name_of_mem_around {ns : List Node} {x : Element} {s : Service}
    (absent : ∀ x ∈ Node.elementsAll ns, x.tag.name ≠ s.responseName)
    (echoed : a.wrapped → s.responseName ∉ wrapper.names)
    (below : x ∈ (a.around wrapper s.responseName (a.holder s.responseName ns)).descendants) :
    x.tag.name ≠ s.responseName := by
  rw [around] at below
  split at below
  · next wrapped =>
    rw [Element.descendants, Node.elementsAll, Node.elementsAll, Node.elementsAll, List.append_nil,
      List.mem_append, Node.elements_node (a.holder s.responseName ns), List.mem_cons] at below
    rcases below with inWrapper | rfl | inContent
    · intro same
      refine echoed wrapped ?_
      rw [← same]
      exact List.mem_map_of_mem inWrapper
    · rw [holder_name, if_pos wrapped]
      exact (s.responseName_ne (by decide)).symm
    · exact absent x inContent
  · exact absent x below

theorem name_of_mem_moved {s : Service} (absent : s.responseName ∉ d.names) :
    ∀ x ∈ Node.elementsAll [(a.moved d).node], x.tag.name ≠ s.responseName := by
  intro x m same
  refine absent ?_
  rw [Node.elementsAll, Node.elementsAll, List.append_nil] at m
  rw [← a.names_moved d, ← same]
  exact List.mem_map_of_mem m

theorem contentOf?_around (named : wrapper.tag.name = "request") (ns : List Node) :
    Request.contentOf? a.wrapped "response" (a.around wrapper name (a.holder name ns)) =
      some (a.holder name ns) := by
  rw [Request.contentOf?, around]
  split
  · next wrapped =>
    have content : (a.holder name ns).tag.name = "response" := by
      rw [holder_name, if_pos wrapped]
    have children := Element.childElements_elements (a.rootTag name) [wrapper, a.holder name ns]
    rw [List.map_cons, List.map_singleton] at children
    rw [Element.child?, children, List.find?_cons_of_neg (by simp [named]),
      List.find?_singleton, if_pos (beq_iff_eq.2 content)]
  · rfl

/-- The element in the body takes the namespace when it is to take one, or when it is itself the
element of content that is to take one. -/
theorem around_tag (ns : List Node) : (a.around wrapper name (a.holder name ns)).tag =
    (Element.bound (a.bindingIf (a.qualifyRoot || !a.wrapped && a.qualifyResponse)) name).tag := by
  rw [around]
  split
  · next wrapped => simp [rootTag, wrapped]
  · next unwrapped =>
    rw [holder, contentTag, if_neg unwrapped, rootTag]
    simp only [unwrapped, bindingIf, Bool.not_false, Bool.true_and]
    cases a.qualifyResponse with
    | false => simp
    | true =>
      cases a.producer.bind (·.binding?) with
      | none => simp
      | some b =>
        simp only [↓reduceIte, Bool.or_true]
        cases a.qualifyRoot with
        | false => exact Tag.qualify_named b name
        | true => exact Tag.qualify_element b name

end Response

namespace ResponseReader

theorem headerOf_of_read {m : Soap.Message} {e : Element} {h : Header} (found : m.header = some e)
    (children : e.hasChildElements) (reads : Header.read e = .ok h) : headerOf m = h := by
  rw [headerOf, found, Option.filter_some, if_pos children]
  exact Header.readLenient_of_read reads

theorem answer?_of_body {expected : Option String} (anywhere : expectedUri? expected = none)
    {m : Soap.Message} {t : Tag} {s : Service} {rpc : Element}
    (body : m.body = { tag := t, children := [rpc.node] }) (named : rpc.tag.name = s.responseName)
    (alone : ∀ x ∈ rpc.descendants, x.tag.name ≠ s.responseName) :
    answer? (some s) expected m = some rpc := by
  have found : m.body.find none s.responseName = [rpc].filter (·.tag.isNamed none s.responseName) := by
    have below : ∀ e ∈ [rpc], ∀ x ∈ e.descendants, x.tag.isNamed none s.responseName = false := by
      intro e m x below
      rw [List.mem_singleton.1 m] at below
      simp [Xml.QName.isNamed, alone x below]
    rw [body]
    exact Element.find_elements below
  have isNamed : rpc.tag.isNamed none s.responseName := by
    simp [Xml.QName.isNamed, named]
  rw [answer?, Option.bind_some, anywhere, found, List.filter_singleton, isNamed]
  rfl

theorem readRequest_unwanted {α β : Type} {reader : ResponseReader α β} (quiet : reader.request = none)
    (wrapped : Bool) (rpc : Element) (m : Soap.Message) :
    reader.readRequest wrapped rpc m = .ok none := by
  unfold readRequest
  split
  · next wanted _ =>
    rw [quiet] at wanted
    cases wanted
  · rfl

theorem readContent_eq {α β γ : Type} {reader : ResponseReader α β}
    (ordinary : reader.metaService = false) (hook : ContentReader γ) (e : Element)
    (m : Soap.Message) : reader.readContent hook e m = hook.readChildren e m := by
  rw [readContent, ordinary, if_neg Bool.false_ne_true]

theorem readOutcome_content {α β : Type} {a : Response α β} {d : Element} {name : String}
    {reader : ResponseReader α Element} (keeps : reader.response = ContentReader.element)
    (ordinary : reader.metaService = false) (m : Soap.Message)
    (noCode : Text.sameLetters d.tag.name "faultcode" = false)
    (noText : Text.sameLetters d.tag.name "faultstring" = false) :
    reader.readOutcome (a.contentElement name d) m =
      .ok (.content (some (a.contentElement name d))) := by
  have children : (a.contentElement name d).childElements = [a.moved d] := by
    have one := Element.childElements_elements (a.contentElement name d).tag [a.moved d]
    rwa [List.map_singleton] at one
  have absent (fault : String) (different : Text.sameLetters d.tag.name fault = false) :
      Fault.textAnyCase? (a.contentElement name d) fault = none := by
    rw [Fault.textAnyCase?, Fault.childAnyCase?, children, List.find?_singleton, a.moved_name,
      if_neg (by simp [different])]
    rfl
  have noFault : Fault.ofAnswer? (a.contentElement name d) = none := by
    rw [Fault.ofAnswer?, absent "faultcode" noCode, absent "faultstring" noText]
  rw [readOutcome, ordinary, noFault]
  simp only [readContent_eq ordinary, keeps]
  rfl

theorem read_of_answer {α β : Type} (reader : ResponseReader α β) {expected : Option String}
    {h : Header} {wrapped : Bool} {m : Soap.Message} {rpc e : Element} {echo : Option α}
    {outcome : Outcome β} (header : headerOf m = h) (answered : answer? h.service expected m = some rpc)
    (repeated : reader.readRequest wrapped rpc m = .ok echo)
    (content : Request.contentOf? wrapped "response" rpc = some e)
    (read : reader.readOutcome e m = .ok outcome) :
    reader.read expected wrapped m = .ok
      { (Response.ofHeader h : Response α β) with
        wrapped
        received := some m
        producer := (Response.ofHeader h : Response α β).producer.map (·.observed rpc.tag.toQName)
        requestData := echo
        responseData := outcome.data?
        fault := outcome.fault? } := by
  rw [ResponseReader.read]
  simp only [header, answered, repeated, ok_bind, content, read]

end ResponseReader

/-! ### The whole exchange -/

namespace Request

variable {α β : Type}

/-- Every reader finds the same in an answer to a request that was read, but for what it makes of the
repeated request and of the content. -/
theorem read_sent (γ δ : Type) {reader : ContentReader α} {expected : Option String} {wrapped : Bool}
    {m : Soap.Message} {r : Request α} (reads : read reader expected wrapped m = .ok r)
    (a : Response α β) (like : a.wrapped = r.wrapped) {wrapper : Element} {ns : List Node}
    (named : wrapper.tag.name = "request")
    (echoed : a.wrapped → r.producer.responseName ∉ wrapper.names)
    (absent : ∀ x ∈ Node.elementsAll ns, x.tag.name ≠ r.producer.responseName)
    {accepted : Option String} (anywhere : expectedUri? accepted = none) :
    let holder := a.holder r.producer.responseName ns
    let rpc := a.around wrapper r.producer.responseName holder
    let sent := m.withoutBody.pushBody [rpc.node]
    let binding := a.bindingIf (a.qualifyRoot || !a.wrapped && a.qualifyResponse)
    ∃ base : Response γ δ,
      { base.header with requestHash := none, requestHashAlgorithm := none } = r.header ∧
      base.producer =
        some { r.producer with
          bodyPrefix := binding.map (·.nsPrefix)
          bodyUri := binding.map (·.nsUri) } ∧
      ∀ (reader : ResponseReader γ δ) (echo : Option γ) (outcome : ResponseReader.Outcome δ),
        reader.readRequest r.wrapped rpc sent = .ok echo →
        reader.readOutcome holder sent = .ok outcome →
        reader.read accepted r.wrapped sent = .ok
          { base with
            requestData := echo
            responseData := outcome.data?
            fault := outcome.fault? } := by
  intro holder rpc sent binding
  obtain ⟨e, h, found, children, read, agrees, -, -⟩ := read_ok reads
  have header : ResponseReader.headerOf sent = h :=
    ResponseReader.headerOf_of_read (m := sent) found children read
  have service : h.service = some r.producer.toService :=
    (congrArg Header.service agrees).symm
  have answered : ResponseReader.answer? h.service accepted sent = some rpc := by
    rw [service]
    refine ResponseReader.answer?_of_body anywhere rfl (a.around_name wrapper ns) fun x below => ?_
    exact Response.name_of_mem_around absent echoed below
  have content : contentOf? r.wrapped "response" rpc = some holder := by
    rw [← like]
    exact Response.contentOf?_around named ns
  have tag : rpc.tag = (Element.bound binding r.producer.responseName).tag :=
    Response.around_tag ns
  have producer : (Response.ofHeader h : Response γ δ).producer.map (·.observed rpc.tag.toQName) =
      some { r.producer with
        bodyPrefix := binding.map (·.nsPrefix)
        bodyUri := binding.map (·.nsUri) } := by
    rw [tag, ← r.producer.observed_bound binding r.producer.responseName, Response.ofHeader, service]
    rfl
  refine ⟨{ (Response.ofHeader h : Response γ δ) with
    wrapped := r.wrapped
    received := some sent
    producer := some _ }, ?_, rfl, fun reader echo outcome repeated outcomeRead => ?_⟩
  · rw [agrees, headerOf, service]
    rfl
  · have read := reader.read_of_answer header answered repeated content outcomeRead
    rwa [producer] at read

/-- An answer to a request with some content, from a producer with other hints, where the parts
of the answer take a namespace as they are told to. -/
def answer (r : Request α) (d : Element) (nsPrefix nsUri : Option String)
    (root request response all : Bool) : Response α Element :=
  { (Response.ofRequest r : Response α Element) with
    producer := some { r.producer with bodyPrefix := nsPrefix, bodyUri := nsUri }
    responseData := some d
    qualifyRoot := root
    qualifyRequest := request
    qualifyResponse := response
    qualifyAll := all }

/-- An answer to a request that was read is read with the header fields of the request and with the
content that was sent, moved as the answer says. -/
theorem read_answer {reader : ContentReader α} {expected : Option String} {wrapped : Bool}
    {m : Soap.Message} {r : Request α} (reads : read reader expected wrapped m = .ok r)
    (d : Element) (nsPrefix nsUri : Option String) (root request response all : Bool)
    (detail : Fault.DetailReader)
    (sound : ¬ (ResponseWriter.child.write
      (r.answer d nsPrefix nsUri root request response all) (some r)).2.IsFault)
    (absent : r.producer.responseName ∉ d.names)
    (echoed : r.wrapped → ∀ w ∈ ResponseWriter.receivedWrapper? r r.producer.serviceCode.text,
      r.producer.responseName ∉ w.names)
    (noCode : Text.sameLetters d.tag.name "faultcode" = false)
    (noText : Text.sameLetters d.tag.name "faultstring" = false) :
    let a := r.answer d nsPrefix nsUri root request response all
    let binding := a.bindingIf (root || !r.wrapped && response)
    ∃ result,
      ResponseReader.read { response := ContentReader.element, detail } none r.wrapped
          (ResponseWriter.child.write a (some r)).2 = .ok (result : Response α Element) ∧
        result.fault = none ∧
        { result.header with requestHash := none, requestHashAlgorithm := none } = r.header ∧
        result.producer =
          some { r.producer with
            bodyPrefix := binding.map (·.nsPrefix)
            bodyUri := binding.map (·.nsUri) } ∧
        result.responseData = some (a.contentElement r.producer.responseName d) := by
  intro a binding
  obtain ⟨-, -, -, -, -, -, received, -⟩ := read_ok reads
  let p : Producer := { r.producer with bodyPrefix := nsPrefix, bodyUri := nsUri }
  let wrapper := ResponseWriter.requestWrapper a r p.serviceCode.text p.binding?
  let rpc := a.root wrapper r.producer.responseName d
  let sent := m.withoutBody.pushBody [rpc.node]
  have out : (ResponseWriter.child.write a (some r)).2 = sent :=
    ResponseWriter.write_child (p := p) rfl rfl rfl received rfl sound
  have named : wrapper.tag.name = "request" := ResponseWriter.requestWrapper_name r _ _
  have elsewhere (wrapped : r.wrapped) : r.producer.responseName ∉ wrapper.names :=
    ResponseWriter.names_requestWrapper (echoed wrapped) _
  have other : ∀ x ∈ Node.elementsAll [(a.moved d).node], x.tag.name ≠ r.producer.responseName :=
    Response.name_of_mem_moved absent
  obtain ⟨base, header, producer, found⟩ :=
    read_sent α Element reads a rfl named elsewhere other (show expectedUri? none = none from rfl)
  let lenient : ResponseReader α Element := { response := ContentReader.element, detail }
  have outcome : lenient.readOutcome (a.contentElement r.producer.responseName d) sent =
      .ok (.content (some (a.contentElement r.producer.responseName d))) :=
    ResponseReader.readOutcome_content rfl rfl sent noCode noText
  have quiet : lenient.readRequest r.wrapped rpc sent = .ok none :=
    ResponseReader.readRequest_unwanted rfl r.wrapped rpc sent
  rw [out]
  exact ⟨_, found lenient none _ quiet outcome, rfl, header, producer, rfl⟩

/-- A wrapped exchange: the content had no namespace in part and takes that of the body. -/
theorem read_answer_wrapped :
    let code (s : String) (h : s ≠ "") : Code := ⟨s, h⟩
    let member : Member :=
      { xRoadInstance := code "EE" (by decide), memberClass := code "GOV" (by decide)
        memberCode := code "1" (by decide) }
    let consumer : Consumer := { member with subsystem := some (code "sub" (by decide)) }
    let service : Service :=
      { xRoadInstance := member.xRoadInstance, owner := some ⟨member.memberClass, member.memberCode⟩
        serviceCode := code "get" (by decide) }
    let wrapper : Element := { tag := .within "request" "p" "urn:p", children := [.text "7"] }
    let header : Element :=
      { tag := .named "Header"
        children := [consumer.element.node, service.element.node, (Header.textElement "id" "7").node] }
    let m : Soap.Message :=
      { Soap.Message.empty with
        header := some header
        body := { tag := .named "Body"
                  children := [.element (.within "get" "p" "urn:p") [wrapper.node]] }
        header_name := fun h e => by rw [← Option.some.inj e]; rfl
        body_name := rfl }
    let r : Request Element :=
      { consumer
        producer := { service with bodyPrefix := some "p", bodyUri := some "urn:p" }
        id := "7"
        data := some wrapper
        wrapped := true
        received := some m }
    let d : Element :=
      { tag := .named "get", children := [.element (.within "a" "x" "urn:x") [.text "faultcode"]] }
    let a := r.answer d (some "n") (some "urn:n") true false true false
    read ContentReader.element (some "urn:p") true m = .ok r ∧
      ¬ (ResponseWriter.child.write a (some r)).2.IsFault ∧
      r.producer.responseName ∉ d.names ∧
      (∀ w ∈ ResponseWriter.receivedWrapper? r r.producer.serviceCode.text,
        r.producer.responseName ∉ w.names) ∧
      Text.sameLetters d.tag.name "faultcode" = false ∧
      Text.sameLetters d.tag.name "faultstring" = false ∧
      ∃ result,
        ResponseReader.read { response := ContentReader.element } none r.wrapped
            (ResponseWriter.child.write a (some r)).2 = .ok (result : Response Element Element) ∧
          result.fault = none ∧
          { result.header with requestHash := none, requestHashAlgorithm := none } = r.header ∧
          result.producer = some { r.producer with bodyPrefix := some "n", bodyUri := some "urn:n" } ∧
          result.responseData = some
            { tag := .within "response" "n" "urn:n"
              children := [.element (.within "get" "n" "urn:n")
                [.element (.within "a" "x" "urn:x") [.text "faultcode"]]] } := by
  intro code member consumer service wrapper header m r d a
  have reads : read ContentReader.element (some "urn:p") true m = .ok r := by decide
  have sound : ¬ (ResponseWriter.child.write a (some r)).2.IsFault := by decide
  have absent : r.producer.responseName ∉ d.names := by decide
  have echoed : ∀ w ∈ ResponseWriter.receivedWrapper? r r.producer.serviceCode.text,
      r.producer.responseName ∉ w.names := by decide
  have noCode : Text.sameLetters d.tag.name "faultcode" = false := by decide
  have noText : Text.sameLetters d.tag.name "faultstring" = false := by decide
  exact ⟨reads, sound, absent, echoed, noCode, noText,
    read_answer reads d (some "n") (some "urn:n") true false true false (fun _ => none) sound absent
      (fun _ => echoed) noCode noText⟩

end Request

end XRoad
