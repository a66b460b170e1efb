import XRoad.Proofs.Request.Reader
import XRoad.Proofs.Response.Writer

/-!
# The request that an answer repeats

A request is read in the expected namespace, and looked for again by its local name alone when it is
repeated. The answer repeats what was read exactly when the body holds no element of that name in
another namespace; else it repeats an empty element. Main statement:
`ResponseWriter.write_echo_iff`.
-/

namespace XRoad

open Xml (Element Node only?)

namespace Request

/-- A child of the body has the name, but is not in the expected namespace. -/
def HasNamesake (expected : Option String) (m : Soap.Message) (name : String) : Prop :=
  ∃ c ∈ m.body.childElements, c.tag.name = name ∧ ¬ c.tag.isNamed (expectedUri? expected) name

instance (expected : Option String) (m : Soap.Message) (name : String) :
    Decidable (HasNamesake expected m name) :=
  inferInstanceAs (Decidable (∃ c ∈ m.body.childElements, _))

variable {expected : Option String} {m : Soap.Message} {name : String} {rpc : Element}

theorem bodyRoots_of_bodyRoot {nsUri : Option String} (root : bodyRoot m nsUri name = .ok rpc) :
    bodyRoots m nsUri name = [rpc] := by
  unfold bodyRoot at root
  split at root
  · next e found =>
    rw [← Except.ok.inj root]
    exact Xml.only?_eq_some_iff.1 found
  · cases root

/-- A child that was found in its namespace is found by its name alone, unless it has a namesake. -/
theorem bodyRoots_none_iff (root : bodyRoot m (expectedUri? expected) name = .ok rpc) :
    bodyRoots m none name = [rpc] ↔ ¬ HasNamesake expected m name := by
  have found := bodyRoots_of_bodyRoot root
  constructor
  · rintro alone ⟨c, here, named, elsewhere⟩
    have same : c ∈ bodyRoots m none name :=
      List.mem_filter.2 ⟨here, Xml.QName.isNamed_none_iff.2 named⟩
    rw [alone, ← found] at same
    exact elsewhere (List.mem_filter.1 same).2
  · intro single
    rw [← found]
    refine List.filter_congr fun c here => Bool.eq_iff_iff.2 ?_
    rw [Xml.QName.isNamed_none_iff]
    refine ⟨fun named => ?_, Xml.QName.name_of_isNamed⟩
    by_contra elsewhere
    exact single ⟨c, here, named, elsewhere⟩

theorem only?_bodyRoots (root : bodyRoot m (expectedUri? expected) name = .ok rpc) :
    only? (bodyRoots m none name) = if HasNamesake expected m name then none else some rpc := by
  split
  · next namesake =>
    rw [Option.eq_none_iff_forall_ne_some]
    intro c alone
    -- The child that was found has the name as well, so it would have to be this one.
    have here : rpc ∈ bodyRoots m (expectedUri? expected) name := by
      rw [bodyRoots_of_bodyRoot root]
      exact List.mem_singleton_self rpc
    obtain ⟨child, named⟩ := List.mem_filter.1 here
    have sameName : rpc ∈ bodyRoots m none name :=
      List.mem_filter.2 ⟨child, Xml.QName.isNamed_none_iff.2 (Xml.QName.name_of_isNamed named)⟩
    rw [Xml.only?_eq_some_iff] at alone
    rw [alone, List.mem_singleton] at sameName
    rw [← sameName] at alone
    exact (bodyRoots_none_iff root).1 alone namesake
  · next single => exact Xml.only?_eq_some_iff.2 ((bodyRoots_none_iff root).2 single)

end Request

/-- The only node in the body is an element of this name, and this element is its first child. -/
def Soap.Message.AnswersWith (m : Soap.Message) (name : String) (e : Element) : Prop :=
  ∃ (rpc : Element) (rest : List Node),
    m.body.children = [rpc.node] ∧ rpc.tag.name = name ∧ rpc.children = e.node :: rest

theorem Soap.Message.AnswersWith.unique {m : Soap.Message} {name : String} {e e' : Element}
    (begins : m.AnswersWith name e) (begins' : m.AnswersWith name e') : e = e' := by
  obtain ⟨rpc, rest, body, -, children⟩ := begins
  obtain ⟨rpc', rest', body', -, children'⟩ := begins'
  rw [body, List.singleton_inj, Element.node_injective.eq_iff] at body'
  rw [← body', children, List.cons.injEq] at children'
  exact Element.node_injective children'.1

namespace ResponseWriter

variable {α β : Type} {w : ResponseWriter α β} {a : Response α β}

theorem write_of_not_fault {request : Option (Request α)}
    (sound : ¬ (w.write a request).2.IsFault) :
    w.writeAnswerTo (wrapLike a request) request = .ok (w.write a request).2 := by
  by_cases standard : ∃ f ∈ a.fault, f.isStandard
  · obtain ⟨f, fault, isStandard⟩ := standard
    rw [write_of_standard w a request fault isStandard] at sound
    exact absurd (isFault_toMessage f w.detail) sound
  · have ordinary : ∀ f ∈ a.fault, ¬ f.isStandard := fun f fault isStandard =>
      standard ⟨f, fault, isStandard⟩
    cases answered : w.writeAnswerTo (wrapLike a request) request with
    | error error =>
      rw [write_of_error ordinary answered] at sound
      exact absurd (isFault_toMessage .internal w.detail) sound
    | ok m => rw [write_of_ok ordinary answered]

theorem answersWith_of_writeAnswer {request : Request α} {m : Soap.Message} {p : Producer}
    (wrapped : a.wrapped) (producer : a.producer = some p)
    (answered : w.writeAnswer a request = .ok m) :
    m.AnswersWith p.responseName
      (((receivedWrapper? request p.serviceCode.text).getD (.named "request")).qualifyIn
        (a.bindingIf a.qualifyRequest)) := by
  have origin : producerOf a request = p := by
    rw [producerOf, producer, Option.getD_some]
  unfold writeAnswer at answered
  split at answered
  · cases answered
  · obtain ⟨started, base, answered⟩ := bind_ok answered
    obtain ⟨rpc, body, answered⟩ := bind_ok answered
    obtain ⟨kept, -, emptied⟩ := base_ok request
    obtain rfl := Except.ok.inj (emptied.symm.trans base)
    obtain rfl := Except.ok.inj answered
    unfold bodyElement at body
    simp only [wrapped, ↓reduceIte, origin] at body
    obtain ⟨wrapper, -, body⟩ := bind_ok body
    obtain rfl := Except.ok.inj body
    refine ⟨_, [wrapper.node], rfl, Element.name_bound _ _, ?_⟩
    rw [Element.bound_eq, Response.bindingIf_of_producer producer]
    rfl

/-- What is repeated of a request that was read: the element that was read, or an empty one if its
parent has a namesake. -/
theorem receivedWrapper?_of_root {request : Request α} {expected : Option String}
    {m : Soap.Message} {name : String} {rpc e : Element} (received : request.received = some m)
    (root : Request.bodyRoot m (expectedUri? expected) name = .ok rpc)
    (found : rpc.child? "request" = some e) :
    receivedWrapper? request name =
      if Request.HasNamesake expected m name then none else some e := by
  unfold receivedWrapper?
  rw [received]
  change (only? (Request.bodyRoots m none name)).bind (·.child? "request") = _
  rw [Request.only?_bodyRoots root]
  split
  · rfl
  · exact found

/-- An answer to a request that was read in wrapped mode repeats the element `request` that was read
if and only if its parent has no namesake in the body, or that element was empty itself. Beside a
namesake it repeats an empty element. -/
theorem write_echo_iff {reader : ContentReader α} {expected : Option String} {m : Soap.Message}
    {request : Request α} (reads : Request.read reader expected true m = .ok request)
    {rpc e : Element}
    (root : Request.bodyRoot m (expectedUri? expected) request.producer.serviceCode.text = .ok rpc)
    (found : rpc.child? "request" = some e) (w : ResponseWriter α β) {a : Response α β}
    {p : Producer} (producer : a.producer = some p)
    (same : p.toService = request.producer.toService)
    (sound : ¬ (w.write a (some request)).2.IsFault) :
    let sent := (w.write a (some request)).2
    let binding := a.bindingIf a.qualifyRequest
    let namesake := Request.HasNamesake expected m request.producer.serviceCode.text
    (sent.AnswersWith p.responseName (e.qualifyIn binding) ↔
      ¬ namesake ∨ e.qualifyIn binding = (Element.named "request").qualifyIn binding) ∧
      (namesake →
        sent.AnswersWith p.responseName ((Element.named "request").qualifyIn binding)) := by
  intro sent binding namesake
  obtain ⟨-, -, -, -, -, -, received, wrapped⟩ := Request.read_ok reads
  have begins : sent.AnswersWith p.responseName
      (((receivedWrapper? request p.serviceCode.text).getD (.named "request")).qualifyIn binding) :=
    answersWith_of_writeAnswer (a := wrapLike a (some request)) wrapped producer
      (write_of_not_fault sound)
  have code : p.serviceCode = request.producer.serviceCode := congrArg Service.serviceCode same
  rw [code, receivedWrapper?_of_root received root found] at begins
  by_cases twin : namesake
  · rw [if_pos twin] at begins
    refine ⟨?_, fun _ => begins⟩
    constructor
    · exact fun repeated => .inr (repeated.unique begins)
    · rintro (single | empty)
      · exact absurd twin single
      · rw [empty]
        exact begins
  · rw [if_neg twin] at begins
    exact ⟨iff_of_true begins (.inl twin), fun yes => absurd yes twin⟩

/-- Elements further down may be named after the service too, and what is repeated takes the
namespace of the answer. -/
theorem write_echo_iff_qualified :
    let code (s : String) (h : s ≠ "") : Code := ⟨s, h⟩
    let consumer : Consumer :=
      { xRoadInstance := code "EE" (by decide), memberClass := code "GOV" (by decide)
        memberCode := code "1" (by decide), subsystem := none }
    let service : Service :=
      { xRoadInstance := code "EE" (by decide), owner := none, serviceCode := code "get" (by decide) }
    let e := (Element.named "request").pushChild (.withText "get" "7")
    let rpc := (Element.within "get" "p" "urn:p").push
      [.text "\n", e.node, (Element.named "get").node]
    let other := (Element.within "put" "p" "urn:p").pushChild (.named "get")
    let m := (Soap.Message.empty.pushHeader
      [consumer.element.node, service.element.node, (Header.textElement "id" "1").node]).pushBody
        [other.node, rpc.node]
    let r : Request Element :=
      { consumer, producer := { service with bodyPrefix := some "p", bodyUri := some "urn:p" }
        id := "1", data := some e, wrapped := true, received := some m }
    let p : Producer := { service with bodyPrefix := some "n", bodyUri := some "urn:n" }
    let a : Response Element Element :=
      { (Response.ofRequest r : Response Element Element) with
        producer := some p, responseData := some (.named "data") }
    let w : ResponseWriter Element Element := child
    Request.read ContentReader.element (some "urn:p") true m = .ok r ∧
      Request.bodyRoot m (expectedUri? (some "urn:p")) r.producer.serviceCode.text = .ok rpc ∧
      rpc.child? "request" = some e ∧ a.producer = some p ∧
      p.toService = r.producer.toService ∧ ¬ (w.write a (some r)).2.IsFault ∧
      (w.write a (some r)).2.AnswersWith "getResponse"
        ((Element.within "request" "n" "urn:n").push
          [.element (.within "get" "n" "urn:n") [.text "7"]]) := by
  intro code consumer service e rpc other m r p a w
  have reads : Request.read ContentReader.element (some "urn:p") true m = .ok r := by decide
  have root : Request.bodyRoot m (expectedUri? (some "urn:p")) r.producer.serviceCode.text =
      .ok rpc := by decide
  have found : rpc.child? "request" = some e := by decide
  have sound : ¬ (w.write a (some r)).2.IsFault := by decide
  have single : ¬ Request.HasNamesake (some "urn:p") m r.producer.serviceCode.text := by decide
  refine ⟨reads, root, found, rfl, rfl, sound, ?_⟩
  exact (write_echo_iff reads root found w (p := p) rfl rfl sound).1.2 (.inl single)

/-- Beside an element of the same name in another namespace, the request that was read is repeated
as an empty element. -/
theorem echo_emptied :
    let code (s : String) (h : s ≠ "") : Code := ⟨s, h⟩
    let consumer : Consumer :=
      { xRoadInstance := code "EE" (by decide), memberClass := code "GOV" (by decide)
        memberCode := code "1" (by decide), subsystem := none }
    let service : Service :=
      { xRoadInstance := code "EE" (by decide), owner := none, serviceCode := code "get" (by decide) }
    let e := Element.withText "request" "7"
    let rpc := (Element.within "get" "p" "urn:p").pushChild e
    let m := (Soap.Message.empty.pushHeader
      [consumer.element.node, service.element.node, (Header.textElement "id" "1").node]).pushBody
        [rpc.node, (Element.within "get" "q" "urn:q").node]
    let r : Request Element :=
      { consumer, producer := { service with bodyPrefix := some "p", bodyUri := some "urn:p" }
        id := "1", data := some e, wrapped := true, received := some m }
    let a : Response Element Element :=
      { (Response.ofRequest r : Response Element Element) with responseData := some (.named "data") }
    let sent := ((child : ResponseWriter Element Element).write a (some r)).2
    Request.read ContentReader.element (some "urn:p") true m = .ok r ∧
      Request.bodyRoot m (expectedUri? (some "urn:p")) r.producer.serviceCode.text = .ok rpc ∧
      rpc.child? "request" = some e ∧ ¬ sent.IsFault ∧
      sent.AnswersWith "getResponse" (.within "request" "p" "urn:p") ∧
      ∀ binding, ¬ sent.AnswersWith "getResponse" (e.qualifyIn binding) := by
  intro code consumer service e rpc m r a sent
  have emptied : sent.AnswersWith "getResponse" (.within "request" "p" "urn:p") :=
    ⟨_, _, rfl, rfl, rfl⟩
  refine ⟨by decide, by decide, by decide, by decide, emptied, fun binding repeated => ?_⟩
  have same := congrArg Element.children (repeated.unique emptied)
  cases binding <;> cases same

end ResponseWriter

end XRoad
