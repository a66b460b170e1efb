import XRoad.Proofs.Fault.Element
import XRoad.Proofs.Response.Writer

/-!
# Errors of a service

An error that a service reports is read from its answer as it was sent, and no content beside it.
Main statement: `Request.read_serviceError`.
-/

namespace XRoad

open Xml (Element Node Binding)

/-! ### What is written -/

namespace ResponseWriter

variable {α β : Type} {w w' : ResponseWriter α β} {a : Response α β} {p : Producer} {f : Fault}

theorem write_eq_of_fault (fault : a.fault = some f) (detail : w.detail = w'.detail)
    (request : Option (Request α)) : w.write a request = w'.write a request := by
  have same (a : Response α β) (reports : a.fault = some f) (binding : Option Binding) (e : Element) :
      w.fill a binding e = w'.fill a binding e := by
    rw [fill_of_fault reports, fill_of_fault reports]
  have body (q : Request α) : w.bodyElement (wrapLike a request) q =
      w'.bodyElement (wrapLike a request) q := by
    have reports : (wrapLike a request).fault = some f := (fault_wrapLike a request).trans fault
    unfold bodyElement
    simp only [same _ reports]
  have answer : w.writeAnswerTo (wrapLike a request) request =
      w'.writeAnswerTo (wrapLike a request) request := by
    cases request with
    | none => rfl
    | some q =>
      rw [writeAnswerTo, writeAnswerTo, writeAnswer, writeAnswer, body]
  unfold write
  simp only [answer, detail]

theorem bodyElement_fault (fault : a.fault = some f) (producer : a.producer = some p)
    (request : Request α) :
    w.bodyElement a request =
      .ok (a.around (requestWrapper a request p.serviceCode.text p.binding?) p.responseName
        (a.holder p.responseName f.answerNodes)) := by
  refine bodyElement_of_fill producer request fun t => ?_
  rw [fill_of_fault fault, Response.contentTag, Response.bindingIf_of_producer producer]
  cases (if a.qualifyResponse then p.binding? else none) with
  | none => rfl
  | some b => rfl

end ResponseWriter

/-! ### What is read -/

namespace ResponseReader

variable {γ δ : Type} {reader : ResponseReader γ δ}

theorem readOutcome_fault (ordinary : reader.metaService = false) {e : Element} {f : Fault}
    (found : Fault.ofAnswer? e = some f) (m : Soap.Message) :
    reader.readOutcome e m = .ok (.fault f) := by
  unfold readOutcome
  rw [ordinary, if_neg (by decide), found]

theorem readRequest_ok {wrapped : Bool} {m : Soap.Message}
    (readable : wrapped → ∀ hook ∈ reader.request, ∀ e, ∃ c, hook e m = .ok c)
    (ordinary : reader.metaService = false) (rpc : Element) :
    ∃ c, reader.readRequest wrapped rpc m = .ok c := by
  unfold readRequest
  split
  · next hook e wanted found =>
    obtain ⟨c, read⟩ := readable rfl hook wanted e
    rw [readContent_eq ordinary]
    rcases hook.readChildren_cases e m with
      ⟨-, result⟩ | ⟨-, a, -, result⟩ | ⟨-, reason, refused, -⟩
    · exact ⟨none, result⟩
    · exact ⟨some a, result⟩
    · cases read.symm.trans refused
  · exact ⟨none, rfl⟩

end ResponseReader

theorem Fault.name_of_mem_answerNodes {f : Fault} {s : Service} {x : Element}
    (m : x ∈ Node.elementsAll f.answerNodes) : x.tag.name ≠ s.responseName := by
  rw [answerNodes, Node.elementsAll_eq, List.flatMap_map] at m
  obtain ⟨e, me, mx⟩ := List.mem_flatMap.1 m
  simp only [optionalText, List.mem_append, List.mem_map] at me
  have code : s.responseName ≠ "faultcode" := s.responseName_ne (by decide)
  have text : s.responseName ≠ "faultstring" := s.responseName_ne (by decide)
  rcases me with ⟨t, -, rfl⟩ | ⟨t, -, rfl⟩
  · rw [List.mem_singleton.1 mx]
    exact code.symm
  · rw [List.mem_singleton.1 mx]
    exact text.symm

/-! ### The whole exchange -/

namespace Request

variable {α β γ δ : Type}

/-- An answer to a request that reports an error, whatever content stands beside it, from a producer
with other hints. -/
def answerError (r : Request α) (f : Fault) (data : Option β) (nsPrefix nsUri : Option String)
    (root request response all : Bool) : Response α β :=
  { (Response.ofRequest r : Response α β) with
    producer := some { r.producer with bodyPrefix := nsPrefix, bodyUri := nsUri }
    responseData := data
    fault := some f
    qualifyRoot := root
    qualifyRequest := request
    qualifyResponse := response
    qualifyAll := all }

/-- An error of a service is read from the answer to a request that was read, with the header fields
of the request and nothing but the texts of the error, if the repeated request can be read where it
is wanted. Neither the writer nor the reader of content has a part in it. -/
theorem read_serviceError {content : ContentReader α} {expected : Option String} {wrapped : Bool}
    {m : Soap.Message} {r : Request α} (reads : read content expected wrapped m = .ok r)
    {f : Fault} (business : f.kind = .nonTechnical) (present : f.code.isSome ∨ f.text.isSome)
    (data : Option β) (nsPrefix nsUri : Option String) (root request response all : Bool)
    (w : ResponseWriter α β)
    (sound : ¬ (w.write (r.answerError f data nsPrefix nsUri root request response all)
      (some r)).2.IsFault)
    (echoed : r.wrapped → ∀ x ∈ ResponseWriter.receivedWrapper? r r.producer.serviceCode.text,
      r.producer.responseName ∉ x.names)
    (reader : ResponseReader γ δ) (ordinary : reader.metaService = false)
    {accepted : Option String} (anywhere : accepted = none ∨ accepted = some "*")
    (readable : r.wrapped → ∀ hook ∈ reader.request, ∀ e, ∃ c, hook e
      (w.write (r.answerError f data nsPrefix nsUri root request response all) (some r)).2 = .ok c) :
    let a := r.answerError f data nsPrefix nsUri root request response all
    let out := (w.write a (some r)).2
    let binding := a.bindingIf (root || !r.wrapped && response)
    (∃ result, reader.read accepted r.wrapped out = .ok result ∧
        result.fault = some (.nonTechnical (f.code.map Text.trim) (f.text.map Text.trim)) ∧
        result.responseData = none ∧
        { result.header with requestHash := none, requestHashAlgorithm := none } = r.header ∧
        result.producer =
          some { r.producer with
            bodyPrefix := binding.map (·.nsPrefix)
            bodyUri := binding.map (·.nsUri) }) ∧
      (∀ content, ({ w with content } : ResponseWriter α β).write a (some r) = w.write a (some r)) ∧
      ∀ response, ({ reader with response } : ResponseReader γ δ).read accepted r.wrapped out =
        reader.read accepted r.wrapped out := by
  intro a out binding
  obtain ⟨-, -, -, -, -, -, received, -⟩ := read_ok reads
  let p : Producer := { r.producer with bodyPrefix := nsPrefix, bodyUri := nsUri }
  let wrapper := ResponseWriter.requestWrapper a r p.serviceCode.text p.binding?
  let holder := a.holder r.producer.responseName f.answerNodes
  let rpc := a.around wrapper r.producer.responseName holder
  let sent := m.withoutBody.pushBody [rpc.node]
  have notStandard : ∀ g ∈ a.fault, ¬ g.isStandard := by
    intro g given
    rw [← Option.some.inj given, Fault.isStandard, business]
    decide
  have written : out = sent :=
    ResponseWriter.write_of_bodyElement notStandard received rfl
      (ResponseWriter.bodyElement_fault (p := p) rfl rfl r) sound
  have named : wrapper.tag.name = "request" := ResponseWriter.requestWrapper_name r _ _
  have elsewhere (wrapped : r.wrapped) : r.producer.responseName ∉ wrapper.names :=
    ResponseWriter.names_requestWrapper (echoed wrapped) _
  have unbound : expectedUri? accepted = none := by
    rcases anywhere with rfl | rfl <;> rfl
  obtain ⟨base, header, producer, found⟩ := read_sent γ δ reads a rfl named elsewhere
    (fun x m => Fault.name_of_mem_answerNodes m) unbound
  obtain ⟨echo, repeated⟩ : ∃ c, reader.readRequest r.wrapped rpc sent = .ok c := by
    refine ResponseReader.readRequest_ok ?_ ordinary rpc
    rw [← written]
    exact readable
  have error : Fault.ofAnswer? holder =
      some (.nonTechnical (f.code.map Text.trim) (f.text.map Text.trim)) :=
    Fault.ofAnswer?_answerNodes present _
  -- What is found does not depend on the reader of content.
  let other (response : ContentReader δ) : ResponseReader γ δ := { reader with response }
  have outcome (response : ContentReader δ) : (other response).readOutcome holder sent =
      .ok (.fault (.nonTechnical (f.code.map Text.trim) (f.text.map Text.trim))) := by
    apply ResponseReader.readOutcome_fault
    · exact ordinary
    · exact error
  have read (response : ContentReader δ) := found (other response) echo _ repeated (outcome response)
  rw [written]
  refine ⟨⟨_, read reader.response, rfl, rfl, header, producer⟩, fun content => ?_,
    fun response => ?_⟩
  · exact ResponseWriter.write_eq_of_fault rfl rfl (some r)
  · exact (read response).trans (read reader.response).symm

/-- Content that could be neither written nor read stands beside an error without a code. -/
theorem read_serviceError_wrapped :
    let code (s : String) (h : s ≠ "") : Code := ⟨s, h⟩
    let consumer : Consumer :=
      { xRoadInstance := code "EE" (by decide), memberClass := code "GOV" (by decide)
        memberCode := code "1" (by decide), subsystem := none }
    let service : Service :=
      { xRoadInstance := code "EE" (by decide), owner := none, serviceCode := code "get" (by decide) }
    let wrapper := Element.withText "request" "7"
    let m := (Soap.Message.empty.pushHeader
      [consumer.element.node, service.element.node, (Header.textElement "id" "7").node]).pushBody
        [((Element.named "get").pushChild wrapper).node]
    let r : Request Element :=
      { consumer, producer := { service with }, id := "7", data := some wrapper, wrapped := true
        received := some m }
    let f : Fault := { kind := .nonTechnical, code := none, text := some " no id\n", actor := some "a" }
    let w : ResponseWriter Element Unit := { content := fun _ _ => .error "not written" }
    let reader : ResponseReader Element Unit :=
      { request := some ContentReader.element, response := fun _ _ => .error "not read" }
    let out := (w.write (r.answerError f (some ()) (some "n") (some "urn:n") true false true false)
      (some r)).2
    read ContentReader.element none true m = .ok r ∧ f.kind = .nonTechnical ∧ f.text.isSome ∧
      ¬ out.IsFault ∧
      (∀ x ∈ ResponseWriter.receivedWrapper? r r.producer.serviceCode.text,
        r.producer.responseName ∉ x.names) ∧
      reader.metaService = false ∧
      (∀ hook ∈ reader.request, ∀ e, ∃ c, hook e out = .ok c) ∧
      ∃ result, reader.read (some "*") r.wrapped out = .ok result ∧
        result.fault = some (.nonTechnical none (some "no id")) ∧ result.responseData = none := by
  intro code consumer service wrapper m r f w reader out
  have reads : read ContentReader.element none true m = .ok r := by decide
  have sound : ¬ out.IsFault := by decide
  have echoed : ∀ x ∈ ResponseWriter.receivedWrapper? r r.producer.serviceCode.text,
      r.producer.responseName ∉ x.names := by decide
  have readable : ∀ hook ∈ reader.request, ∀ e, ∃ c, hook e out = .ok c := by
    intro hook wanted e
    obtain rfl := Option.some.inj wanted
    exact ⟨e, rfl⟩
  obtain ⟨⟨result, read, fault, data, -⟩, -⟩ := read_serviceError reads (f := f) rfl (.inr rfl)
    (some ()) (some "n") (some "urn:n") true false true false w sound (fun _ => echoed) reader rfl
    (.inr rfl) (fun _ => readable)
  exact ⟨reads, rfl, rfl, sound, echoed, rfl, readable, result, read, fault, data⟩

end Request

end XRoad
