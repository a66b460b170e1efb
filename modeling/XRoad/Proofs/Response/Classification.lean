import XRoad.Proofs.Fault.Element
import XRoad.Proofs.Response.Exchange

/-!
# Faults among the messages that are read

A message is taken for an answer before it is taken for a fault, and only one element of its body
may be named `Fault`. Main statement: `ResponseReader.read_soapFault_iff`.
-/

namespace XRoad

open Xml (Element only?)

/-- A response that reports the SOAP fault of an element, and nothing else of the body. -/
structure Response.Reports {α β : Type} (r : Response α β) (e : Element) : Prop where
  fault : ∃ f, r.fault = some f ∧ f.kind = .standard ∧
    f.code = Fault.textAnyCase? e "faultcode" ∧ f.text = Fault.textAnyCase? e "faultstring" ∧
    f.actor = Fault.textAnyCase? e "faultactor"
  requestData : r.requestData = none
  responseData : r.responseData = none

namespace ResponseReader

variable {α β : Type} {reader : ResponseReader α β} {expected : Option String} {wrapped : Bool}
  {m : Soap.Message}

theorem answer?_of_fault {e : Element} (alone : m.body.childElements = [e])
    (named : e.tag.name = "Fault") (service : Option Service) (expected : Option String) :
    answer? service expected m =
      service.bind fun s => only? (e.find (expectedUri? expected) s.responseName) := by
  unfold answer?
  cases service with
  | none => rfl
  | some s =>
    have other : e.tag.isNamed (expectedUri? expected) s.responseName = false := by
      have different : "Fault" ≠ s.responseName := (s.responseName_ne (by decide)).symm
      simp [Xml.QName.isNamed, named, different]
    rw [Option.bind_some, Option.bind_some, Element.find_of_alone alone, List.filter_singleton, other]
    rfl

theorem read_of_no_answer (missing : answer? (headerOf m).service expected m = none) :
    reader.read expected wrapped m = .ok
      { (Response.ofHeader (headerOf m) : Response α β) with
        wrapped
        received := some m
        fault := Fault.ofBody? reader.detail m.body } := by
  unfold read
  simp only [missing]

theorem kind_of_readOutcome {e : Element} {outcome : Outcome β} {f : Fault}
    (reads : reader.readOutcome e m = .ok outcome) (carried : outcome.fault? = some f) :
    f.kind = .nonTechnical := by
  unfold readOutcome at reads
  split at reads
  · next g found =>
    rw [← Except.ok.inj reads] at carried
    obtain rfl : g = f := Option.some.inj carried
    split at found
    · cases found
    · exact Fault.ofAnswer?_kind found
  · cases content : reader.readContent reader.response e m with
    | error reason =>
      rw [content] at reads
      cases reads
    | ok data =>
      rw [content] at reads
      rw [← Except.ok.inj reads] at carried
      cases carried

/-- What is read of an answer is never a SOAP fault. -/
theorem kind_of_answer {rpc : Element} {r : Response α β}
    (answered : answer? (headerOf m).service expected m = some rpc)
    (reads : reader.read expected wrapped m = .ok r) : ∀ f ∈ r.fault, f.kind = .nonTechnical := by
  unfold read at reads
  simp only [answered] at reads
  obtain ⟨requestData, -, reads⟩ := bind_ok reads
  intro f carried
  split at reads
  · rw [← Except.ok.inj reads] at carried
    cases carried
  · obtain ⟨outcome, content, reads⟩ := bind_ok reads
    rw [← Except.ok.inj reads] at carried
    exact kind_of_readOutcome content carried

/-- A SOAP fault that stands alone in a body is reported if and only if no element in it is named
`Fault` and the service of the header does not find its answer in it. -/
theorem read_soapFault_iff (reader : ResponseReader α β) (expected : Option String) (wrapped : Bool)
    {m : Soap.Message} {e : Element} (alone : m.body.childElements = [e]) (fault : e.IsSoapFault) :
    (∃ r, reader.read expected wrapped m = .ok r ∧ r.Reports e) ↔
      (∀ x ∈ e.descendants, x.tag.name ≠ "Fault") ∧
        ∀ s ∈ (headerOf m).service,
          only? (e.find (expectedUri? expected) s.responseName) = none := by
  have named : e.tag.name = "Fault" := by
    unfold Element.IsSoapFault Xml.QName.isNamed at fault
    rw [Bool.and_eq_true, beq_iff_eq] at fault
    exact fault.1
  have answer : answer? (headerOf m).service expected m = none ↔
      ∀ s ∈ (headerOf m).service,
        only? (e.find (expectedUri? expected) s.responseName) = none := by
    rw [answer?_of_fault alone named, Option.bind_eq_none_iff]
    rfl
  rw [← answer]
  constructor
  · rintro ⟨r, reads, ⟨⟨f, carried, standard, -⟩, -, -⟩⟩
    cases answered : answer? (headerOf m).service expected m with
    | some rpc =>
      have business := kind_of_answer answered reads f carried
      rw [standard] at business
      cases business
    | none =>
      rw [read_of_no_answer answered] at reads
      rw [← Except.ok.inj reads] at carried
      exact ⟨((Fault.ofBody?_of_alone alone named).1 carried).2, rfl⟩
  · rintro ⟨noneBelow, answered⟩
    refine ⟨_, read_of_no_answer answered, ?_, rfl, rfl⟩
    refine ⟨_, (Fault.ofBody?_of_alone alone named).2 ⟨rfl, noneBelow⟩, ?_⟩
    exact ⟨rfl, rfl, rfl, rfl⟩

/-- The texts are found in any case and between blanks, whatever else the detail holds. -/
theorem read_soapFault_iff_mixed :
    let code (s : String) (h : s ≠ "") : Code := ⟨s, h⟩
    let service : Service :=
      { xRoadInstance := code "EE" (by decide), owner := none, serviceCode := code "get" (by decide) }
    let detail : Element :=
      { tag := .named "detail", children := [(Element.withText "response" "faultcode").node] }
    let e : Element := (Protocol.soap.element "Fault").push
      [.text "\n", (Element.withText "faultString" " s ").node, (Element.withText "FAULTCODE" "").node,
        (Element.withText "faultcode" "c").node, detail.node]
    let m := (Soap.Message.empty.pushHeader [service.element.node]).pushBody [.text " ", e.node]
    let reader : ResponseReader Unit Element := { response := ContentReader.element }
    m.body.childElements = [e] ∧ e.IsSoapFault ∧
      ∃ r, reader.read (some "urn:n") true m = .ok r ∧ r.Reports e ∧
        ∃ f, r.fault = some f ∧ f.code = some "" ∧ f.text = some "s" ∧ f.actor = none := by
  intro code service detail e m reader
  have alone : m.body.childElements = [e] := by decide
  have fault : e.IsSoapFault := by decide
  have clear : (∀ x ∈ e.descendants, x.tag.name ≠ "Fault") ∧
      ∀ s ∈ (headerOf m).service,
        only? (e.find (expectedUri? (some "urn:n")) s.responseName) = none := by decide
  obtain ⟨r, reads, reports⟩ :=
    (read_soapFault_iff reader (some "urn:n") true alone fault).2 clear
  obtain ⟨f, carried, -, code, text, actor⟩ := reports.fault
  refine ⟨alone, fault, r, reads, reports, f, carried, ?_, ?_, ?_⟩
  · rw [code]
    decide
  · rw [text]
    decide
  · rw [actor]
    decide

/-- A fault goes unreported when its detail names another one, or repeats the element of an answer. -/
theorem soapFault_unreported :
    let code (s : String) (h : s ≠ "") : Code := ⟨s, h⟩
    let service : Service :=
      { xRoadInstance := code "EE" (by decide), owner := none, serviceCode := code "get" (by decide) }
    let e (name : String) : Element := (Protocol.soap.element "Fault").push
      [(Element.withText "faultcode" "c").node, ((Element.named "detail").pushChild (.named name)).node]
    let m (name : String) : Soap.Message :=
      (Soap.Message.empty.pushHeader [service.element.node]).pushBody [(e name).node]
    let reader : ResponseReader Unit Element := { response := ContentReader.element }
    ∀ name ∈ ["Fault", "getResponse"],
      (m name).body.childElements = [e name] ∧ (e name).IsSoapFault ∧
        ¬ ∃ r, reader.read none false (m name) = .ok r ∧ r.Reports (e name) := by
  intro code service e m reader name listed
  have unread : (m name).body.childElements = [e name] ∧ (e name).IsSoapFault ∧
      (reader.read none false (m name)).map (·.fault) = .ok none := by
    revert name
    decide
  obtain ⟨alone, fault, silent⟩ := unread
  refine ⟨alone, fault, ?_⟩
  rintro ⟨r, reads, reports⟩
  obtain ⟨f, carried, -⟩ := reports.fault
  rw [reads] at silent
  cases carried.symm.trans (Except.ok.inj silent)

end ResponseReader

end XRoad
