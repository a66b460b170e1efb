import XRoad.Proofs.Header.RoundTrip
import XRoad.Proofs.Response.Exchange

/-!
# There is always an answer

A response is written as a SOAP fault exactly when it comes back with one, and otherwise under the
header and the envelope of its request. Main statement: `ResponseWriter.write_consistent`.
-/

namespace XRoad

open Xml (Binding Element Tag)

theorem Producer.binding?_isNone_iff {p : Producer} (known : p.bodyPrefix.isSome) :
    p.binding?.isNone ↔ p.bodyUri.getD "" = "" := by
  obtain ⟨nsPrefix, found⟩ := Option.isSome_iff_exists.1 known
  unfold binding?
  rw [found]
  cases p.bodyUri with
  | none => simp
  | some uri => by_cases empty : uri = "" <;> simp [empty]

theorem Xml.Element.name_qualifyIn (binding : Option Binding) (e : Element) :
    (e.qualifyIn binding).tag.name = e.tag.name := by
  cases binding <;> rfl

theorem Xml.Binding.name_fill (b : Binding) (e : Element) : (b.fill e).tag.name = e.tag.name := by
  unfold fill Element.fillNamespace
  split
  · rfl
  · exact Tag.name_fill b.nsUri (some b.nsPrefix) e.tag

namespace Response

variable {α β : Type} (r : Response α β)

/-- A namespace is asked for under a prefix, and there is no URI for it. -/
def LacksUri (p : Producer) : Prop :=
  (r.qualifyRoot ∨ r.qualifyRequest ∨ r.qualifyResponse) ∧ p.bodyPrefix.isSome ∧
    p.bodyUri.getD "" = ""

/-- An element as content is given it to be written into. -/
def offered (binding : Option Binding) (e : Element) : Element :=
  if r.qualifyAll then e else e.qualifyIn (if r.qualifyResponse then binding else none)

def contentTarget (p : Producer) : Element :=
  r.offered p.binding? (if r.wrapped then .named "response"
    else .bound (if r.qualifyRoot then p.binding? else none) p.responseName)

end Response

namespace ResponseWriter

variable {α β : Type}

/-- Content goes below the element that it is written into. -/
def KeepsTag (w : ResponseWriter α β) : Prop :=
  ∀ r e e', w.content r e = .ok e' → e'.tag = e.tag

/-- An element does not take the content of a response that has content and no fault. -/
def Refuses (w : ResponseWriter α β) (r : Response α β) (e : Element) : Prop :=
  r.fault = none ∧ r.responseData.isSome ∧ ∃ reason, w.content r e = .error reason

/-- There is nothing to answer, no namespace to answer in, or content that cannot be written. -/
def Fails (w : ResponseWriter α β) (r : Response α β) (request : Option (Request α)) : Prop :=
  request = none ∨ ∃ q, request = some q ∧
    (r.LacksUri (producerOf r q) ∨ w.Refuses r (r.contentTarget (producerOf r q)))

theorem lacksNamespace_iff (r : Response α β) (p : Producer) :
    lacksNamespace r p ↔ r.LacksUri p := by
  unfold lacksNamespace Response.LacksUri
  simp only [Bool.and_eq_true, Bool.or_eq_true, and_assoc, or_assoc]
  refine and_congr_right fun _ => and_congr_right fun known => ?_
  exact Producer.binding?_isNone_iff known

/-! ### The element in the body -/

section
variable {w : ResponseWriter α β} {r : Response α β} {binding : Option Binding} {e : Element}

theorem fill_of_fault {f : Fault} (fault : r.fault = some f) (binding : Option Binding)
    (e : Element) : w.fill r binding e =
      .ok ((e.qualifyIn (if r.qualifyResponse then binding else none)).push f.answerNodes) := by
  unfold fill
  rw [fault]

theorem fill_of_content (noFault : r.fault = none) (binding : Option Binding) (e : Element) :
    ∃ settle : Element → Element, (∀ x, (settle x).tag.name = x.tag.name) ∧
      w.fill r binding e = (w.writeContent r (r.offered binding e)).map settle := by
  unfold fill Response.offered
  rw [noFault]
  cases (if r.qualifyResponse then binding else none) with
  | none =>
    refine ⟨id, fun x => rfl, ?_⟩
    simp only [Element.qualifyIn, ite_self]
    cases w.writeContent r e <;> rfl
  | some b =>
    simp only [Element.qualifyIn]
    split
    · refine ⟨b.qualify, fun x => rfl, ?_⟩
      cases w.writeContent r e <;> rfl
    · refine ⟨b.fill, b.name_fill, ?_⟩
      cases w.writeContent r (b.qualify e) <;> rfl

theorem fill_error (refused : w.Refuses r (r.offered binding e)) :
    ∃ error, w.fill r binding e = .error error := by
  obtain ⟨noFault, present, reason, failed⟩ := refused
  obtain ⟨data, found⟩ := Option.isSome_iff_exists.1 present
  obtain ⟨settle, -, filled⟩ := fill_of_content (w := w) noFault binding e
  have written : w.writeContent r (r.offered binding e) = .error (.payload reason) := by
    simp [writeContent, found, failed]
  refine ⟨.payload reason, ?_⟩
  rw [filled, written]
  rfl

theorem fill_ok (keeps : w.KeepsTag) (taken : ¬ w.Refuses r (r.offered binding e)) :
    ∃ e', w.fill r binding e = .ok e' ∧ e'.tag.name = e.tag.name := by
  cases fault : r.fault with
  | some f =>
    refine ⟨_, fill_of_fault fault binding e, ?_⟩
    exact Element.name_qualifyIn _ e
  | none =>
    obtain ⟨settle, sameName, filled⟩ := fill_of_content (w := w) fault binding e
    have offeredName : (r.offered binding e).tag.name = e.tag.name := by
      unfold Response.offered
      split
      · rfl
      · exact Element.name_qualifyIn _ e
    have written : ∃ x, w.writeContent r (r.offered binding e) = .ok x ∧
        x.tag.name = e.tag.name := by
      unfold writeContent
      cases present : r.responseData with
      | none => exact ⟨_, rfl, offeredName⟩
      | some data =>
        cases content : w.content r (r.offered binding e) with
        | ok x =>
          refine ⟨x, by simp, ?_⟩
          rw [keeps r _ x content, offeredName]
        | error reason => exact absurd ⟨fault, by simp [present], reason, content⟩ taken
    obtain ⟨x, content, name⟩ := written
    refine ⟨settle x, ?_, (sameName x).trans name⟩
    rw [filled, content]
    rfl

theorem bodyElement_error {request : Request α}
    (refused : w.Refuses r (r.contentTarget (producerOf r request))) :
    ∃ error, w.bodyElement r request = .error error := by
  obtain ⟨error, failed⟩ := fill_error refused
  refine ⟨error, ?_⟩
  unfold bodyElement
  by_cases wrapped : r.wrapped
  · rw [if_pos wrapped] at failed
    simp only [wrapped, ↓reduceIte, failed]
    rfl
  · rw [if_neg wrapped] at failed
    simp only [wrapped, Bool.false_eq_true, ↓reduceIte]
    exact failed

theorem bodyElement_ok (keeps : w.KeepsTag) {request : Request α}
    (taken : ¬ w.Refuses r (r.contentTarget (producerOf r request))) :
    ∃ rpc, w.bodyElement r request = .ok rpc ∧
      rpc.tag.name = (producerOf r request).responseName := by
  obtain ⟨e, filled, name⟩ := fill_ok keeps taken
  unfold bodyElement
  by_cases wrapped : r.wrapped
  · rw [if_pos wrapped] at filled
    simp only [wrapped, ↓reduceIte, filled, ok_bind]
    exact ⟨_, rfl, Element.name_bound _ _⟩
  · rw [if_neg wrapped] at filled name
    simp only [wrapped, Bool.false_eq_true, ↓reduceIte]
    exact ⟨e, filled, name.trans (Element.name_bound _ _)⟩

/-! ### The message -/

/-- The message whose header and envelope an answer repeats: the one that was received, or a new one
with the header of the request. -/
def IsBase (request : Request α) (m : Soap.Message) : Prop :=
  request.received = some m ∨ request.received = none ∧ request.header.writeTo .empty = .ok m

theorem base_ok (request : Request α) :
    ∃ m, IsBase request m ∧ base request = .ok m.withoutBody := by
  unfold base
  cases received : request.received with
  | some m => exact ⟨m, .inl received, rfl⟩
  | none =>
    obtain ⟨m, written, -, -, body⟩ := request.header.writeTo_empty (c := request.consumer)
      (s := request.producer.toService) rfl rfl rfl
    refine ⟨m, .inr ⟨received, written⟩, ?_⟩
    have empty : m.withoutBody = m := by
      refine Soap.Message.ext rfl rfl ?_
      change { m.body with children := [] } = m.body
      rw [body]
      rfl
    simp only [written, empty]

theorem writeAnswerTo_error {request : Option (Request α)} (fails : w.Fails r request) :
    ∃ error, w.writeAnswerTo r request = .error error := by
  rcases fails with rfl | ⟨q, rfl, lacks | refused⟩
  · exact ⟨_, rfl⟩
  · refine ⟨.missingNamespaceUri, ?_⟩
    rw [writeAnswerTo, writeAnswer, if_pos ((lacksNamespace_iff r _).2 lacks)]
  · obtain ⟨m, -, base⟩ := base_ok q
    obtain ⟨error, failed⟩ := bodyElement_error refused
    rw [writeAnswerTo, writeAnswer]
    split
    · exact ⟨_, rfl⟩
    · refine ⟨error, ?_⟩
      rw [base, ok_bind, failed]
      rfl

theorem writeAnswerTo_ok (keeps : w.KeepsTag) {request : Option (Request α)}
    (works : ¬ w.Fails r request) :
    ∃ (q : Request α) (m : Soap.Message) (rpc : Element), request = some q ∧ IsBase q m ∧
      rpc.tag.name = (producerOf r q).responseName ∧
      w.writeAnswerTo r request = .ok (m.withoutBody.pushBody [rpc.node]) := by
  cases request with
  | none => exact absurd (.inl rfl) works
  | some q =>
    have uri : ¬ lacksNamespace r (producerOf r q) :=
      fun lacks => works (.inr ⟨q, rfl, .inl ((lacksNamespace_iff r _).1 lacks)⟩)
    have taken : ¬ w.Refuses r (r.contentTarget (producerOf r q)) :=
      fun refused => works (.inr ⟨q, rfl, .inr refused⟩)
    obtain ⟨m, isBase, base⟩ := base_ok q
    obtain ⟨rpc, body, name⟩ := bodyElement_ok keeps taken
    exact ⟨q, m, rpc, rfl, isBase, name, writeAnswerTo_of_parts uri base body⟩

/-! ### The response and its message -/

section
variable (w r) (request : Option (Request α))

theorem fault_wrapLike : (wrapLike r request).fault = r.fault := by
  cases request <;> rfl

theorem write_of_standard {f : Fault} (fault : r.fault = some f) (standard : f.isStandard) :
    w.write r request = (wrapLike r request, f.toMessage w.detail) := by
  unfold write
  simp only [fault_wrapLike, fault, Option.filter_some, standard, ↓reduceIte]

variable {w r request} (ordinary : ∀ f ∈ r.fault, ¬ f.isStandard)
include ordinary

theorem filter_of_ordinary : (wrapLike r request).fault.filter Fault.isStandard = none := by
  rw [fault_wrapLike, Option.filter_eq_none_iff]
  exact ordinary

theorem write_of_ok {m : Soap.Message}
    (answered : w.writeAnswerTo (wrapLike r request) request = .ok m) :
    w.write r request = (wrapLike r request, m) := by
  unfold write
  simp only [filter_of_ordinary ordinary, answered]

theorem write_of_error {error : WriteError}
    (failed : w.writeAnswerTo (wrapLike r request) request = .error error) :
    w.write r request =
      ({ wrapLike r request with fault := some .internal }, Fault.internal.toMessage w.detail) := by
  unfold write
  simp only [filter_of_ordinary ordinary, failed]

end
end

theorem isSoapFault_element (f : Fault) (write : DetailWriter) : (f.element write).IsSoapFault :=
  rfl

theorem not_isSoapFault_answer {e : Element} {s : Service} (name : e.tag.name = s.responseName) :
    ¬ e.IsSoapFault := by
  intro isFault
  unfold Element.IsSoapFault Xml.QName.isNamed at isFault
  rw [Bool.and_eq_true, beq_iff_eq, name] at isFault
  exact s.responseName_ne (by decide) isFault.1

/-- A response and the message that it was sent in agree: the only element in the body is a SOAP
fault when the response has one, in a message without header fields, and otherwise an answer in the
header and the envelope of the request. -/
structure Agrees (w : ResponseWriter α β) (request : Option (Request α)) (r : Response α β)
    (m : Soap.Message) (e : Element) : Prop where
  body : m.body.children = [e.node]
  fault_iff : e.IsSoapFault ↔ ∃ f, r.fault = some f ∧ f.isStandard
  fault : e.IsSoapFault → ∃ f, r.fault = some f ∧ e = f.element w.detail ∧
    m.header = some (Protocol.soap.element "Header") ∧
    m.envelope = Protocol.soap.declare (Protocol.soap.element "Envelope").tag
  answer : ¬ e.IsSoapFault → ∃ q base, request = some q ∧ IsBase q base ∧
    e.tag.name = (producerOf r q).responseName ∧ m.header = base.header ∧ m.envelope = base.envelope

theorem agrees_fault {w : ResponseWriter α β} {r : Response α β} {f : Fault}
    (fault : r.fault = some f) (standard : f.isStandard) (request : Option (Request α)) :
    w.Agrees request r (f.toMessage w.detail) (f.element w.detail) where
  body := rfl
  fault_iff := iff_of_true (isSoapFault_element f w.detail) ⟨f, fault, standard⟩
  fault _ := ⟨f, fault, rfl, rfl, rfl⟩
  answer notFault := absurd (isSoapFault_element f w.detail) notFault

theorem agrees_answer {w : ResponseWriter α β} {r : Response α β} {q : Request α}
    {base : Soap.Message} {rpc : Element} (ordinary : ∀ f ∈ r.fault, ¬ f.isStandard)
    (isBase : IsBase q base) (name : rpc.tag.name = (producerOf r q).responseName) :
    w.Agrees (some q) r (base.withoutBody.pushBody [rpc.node]) rpc where
  body := rfl
  fault_iff := by
    refine iff_of_false (not_isSoapFault_answer name) ?_
    rintro ⟨f, fault, standard⟩
    exact ordinary f fault standard
  fault isFault := absurd isFault (not_isSoapFault_answer name)
  answer _ := ⟨q, base, rfl, isBase, name, rfl, rfl⟩

/-- Whatever response is sent, with or without a request, it comes back in agreement with its
message. Only its mode of wrapping and its fault may have changed: the mode to that of the request,
and a fault that is not a SOAP fault, or none, to an internal error when no answer can be given, and
only then. -/
theorem write_consistent (w : ResponseWriter α β) (keeps : w.KeepsTag) (r : Response α β)
    (request : Option (Request α)) :
    let sent := wrapLike r request
    let r' := (w.write r request).1
    (∃ e, w.Agrees request r' (w.write r request).2 e) ∧
      r' = { sent with fault := r'.fault } ∧
      ((∃ f, r.fault = some f ∧ f.isStandard) → r'.fault = r.fault) ∧
      ((∀ f ∈ r.fault, ¬ f.isStandard) →
        (r'.fault = some .internal ↔ w.Fails sent request) ∧
        (¬ w.Fails sent request → r'.fault = r.fault)) := by
  intro sent r'
  have sameFault : sent.fault = r.fault := fault_wrapLike r request
  by_cases standard : ∃ f, r.fault = some f ∧ f.isStandard
  · obtain ⟨f, fault, isStandard⟩ := standard
    have out : w.write r request = (sent, f.toMessage w.detail) :=
      write_of_standard w r request fault isStandard
    have back : r' = sent := congrArg Prod.fst out
    have carried : r'.fault = r.fault := by rw [back, sameFault]
    refine ⟨⟨f.element w.detail, ?_⟩, by rw [back], fun _ => carried, fun ordinary => ?_⟩
    · rw [out]
      exact agrees_fault (carried.trans fault) isStandard request
    · exact absurd isStandard (ordinary f fault)
  have ordinary : ∀ f ∈ r.fault, ¬ f.isStandard := fun f fault yes => standard ⟨f, fault, yes⟩
  by_cases fails : w.Fails sent request
  · obtain ⟨error, failed⟩ := writeAnswerTo_error fails
    have out := write_of_error ordinary failed
    have back : r' = { sent with fault := some .internal } := congrArg Prod.fst out
    have carried : r'.fault = some .internal := by rw [back]
    refine ⟨⟨Fault.internal.element w.detail, ?_⟩, by rw [back], fun yes => absurd yes standard,
      fun _ => ⟨iff_of_true carried fails, fun works => absurd fails works⟩⟩
    rw [out]
    exact agrees_fault carried rfl request
  · obtain ⟨q, base, rpc, rfl, isBase, name, answered⟩ := writeAnswerTo_ok keeps fails
    have out := write_of_ok ordinary answered
    have back : r' = sent := congrArg Prod.fst out
    have carried : r'.fault = r.fault := by rw [back, sameFault]
    have replaced : r'.fault ≠ some .internal := by
      rw [carried]
      exact fun fault => standard ⟨.internal, fault, rfl⟩
    refine ⟨⟨rpc, ?_⟩, by rw [back], fun _ => carried,
      fun _ => ⟨iff_of_false replaced fails, fun _ => carried⟩⟩
    rw [back, out]
    exact agrees_answer (r := sent) (by rw [sameFault]; exact ordinary) isBase name

/-- Content that wants a namespace around it is refused by an element that takes one only later. -/
theorem write_consistent_refused :
    let code (s : String) (h : s ≠ "") : Code := ⟨s, h⟩
    let q : Request Unit :=
      { consumer :=
          { xRoadInstance := code "EE" (by decide), memberClass := code "GOV" (by decide)
            memberCode := code "1" (by decide), subsystem := none }
        producer :=
          { xRoadInstance := code "EE" (by decide), owner := none
            serviceCode := code "get" (by decide)
            bodyPrefix := some "n", bodyUri := some "urn:n" }
        id := "1", wrapped := true }
    let w : ResponseWriter Unit String :=
      { content := fun r e =>
          if e.tag.nsUri.isNone then .error "no namespace"
          else .ok (e.push (r.responseData.toList.map Xml.Node.text)) }
    let r : Response Unit String :=
      { (Response.ofRequest q : Response Unit String) with responseData := some "x", wrapped := false }
    w.KeepsTag ∧ w.Fails (wrapLike r (some q)) (some q) ∧
      (w.write r (some q)).1 = { r with wrapped := true, fault := some .internal } ∧
      ∃ e, w.Agrees (some q) (w.write r (some q)).1 (w.write r (some q)).2 e := by
  intro code q w r
  have keeps : w.KeepsTag := by
    intro r' e e' written
    simp only [w] at written
    split at written
    · cases written
    · rw [← Except.ok.inj written]
      rfl
  obtain ⟨agrees, only, -, replaced⟩ := write_consistent w keeps r (some q)
  have fails : w.Fails (wrapLike r (some q)) (some q) :=
    .inr ⟨q, rfl, .inr ⟨rfl, rfl, "no namespace", rfl⟩⟩
  refine ⟨keeps, fails, ?_, agrees⟩
  rw [only, (replaced nofun).1.2 fails]
  rfl

end ResponseWriter

end XRoad
