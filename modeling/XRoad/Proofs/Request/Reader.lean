import XRoad.Proofs.Header.Lenient
import XRoad.Request.Reader
import XRoad.Response.Basic

/-!
# Requests that were read

A request that is read says what the header of its message says, and keeps the message. Main
statement: `Request.read_ok`.
-/

namespace XRoad

open Xml (Element Binding)

theorem Producer.of_binding? {p : Producer} {b : Binding} (h : p.binding? = some b) :
    p.bodyPrefix = some b.nsPrefix ∧ p.bodyUri = some b.nsUri ∧ b.nsUri ≠ "" := by
  rw [binding?] at h
  split at h
  · next nsPrefix nsUri hp hu =>
    split at h
    · cases h
    · next nonempty =>
      obtain rfl := Option.some.inj h
      exact ⟨hp, hu, nonempty⟩
  · cases h

theorem Producer.observed_bound (p : Producer) (binding : Option Binding) (name : String) :
    p.observed (Element.bound binding name).tag.toQName =
      { p with
        bodyPrefix := binding.map (·.nsPrefix)
        bodyUri := binding.map (·.nsUri) } := by
  cases binding with
  | none => rfl
  | some b =>
    have nsPrefix : (if b.nsPrefix = "" then none else some b.nsPrefix).getD "" = b.nsPrefix := by
      split
      · next empty => exact empty.symm
      · rfl
    change { p with
      bodyPrefix := some ((if b.nsPrefix = "" then none else some b.nsPrefix).getD "")
      bodyUri := some b.nsUri } = _
    rw [nsPrefix]
    rfl

namespace ContentReader

variable {α : Type} {reader : ContentReader α} {e : Element}

theorem readChildren_of_empty (empty : e.children = []) (m : Soap.Message) :
    reader.readChildren e m = .ok none := by
  rw [readChildren, empty]
  rfl

section
variable {m : Soap.Message} (present : e.children ≠ [])
include present

theorem readChildren_ok {a : α} (read : reader e m = .ok a) :
    reader.readChildren e m = .ok (some a) := by
  rw [readChildren, List.isEmpty_eq_false_iff.2 present, ContentReader.read, read]
  rfl

theorem readChildren_error {reason : String} (read : reader e m = .error reason) :
    reader.readChildren e m = .error (.payload reason) := by
  rw [readChildren, List.isEmpty_eq_false_iff.2 present, ContentReader.read, read]
  rfl

end

theorem readChildren_cases (reader : ContentReader α) (e : Element) (m : Soap.Message) :
    (e.children = [] ∧ reader.readChildren e m = .ok none) ∨
      (e.children ≠ [] ∧ ∃ a, reader e m = .ok a ∧ reader.readChildren e m = .ok (some a)) ∨
      (e.children ≠ [] ∧ ∃ reason, reader e m = .error reason ∧
        reader.readChildren e m = .error (.payload reason)) := by
  by_cases empty : e.children = []
  · exact .inl ⟨empty, readChildren_of_empty empty m⟩
  · cases result : reader e m with
    | ok a => exact .inr (.inl ⟨empty, a, rfl, readChildren_ok empty result⟩)
    | error reason => exact .inr (.inr ⟨empty, reason, rfl, readChildren_error empty result⟩)

end ContentReader

deriving instance DecidableEq for Request

namespace Request

variable {α : Type}

/-- What a request keeps of a header. -/
def headerOf (h : Header) : Header :=
  { h with
    protocolVersion := some (h.protocolVersion.getD Protocol.version)
    requestHash := none
    requestHashAlgorithm := none }

theorem requireHeader_ok {β : Type} {name : String} {part : Option β} {b : β}
    (present : requireHeader name part = .ok b) : part = some b := by
  cases part with
  | none => cases present
  | some b' => rw [Except.ok.inj present]

theorem ofHeader_ok {h : Header} {m : Soap.Message} {r : Request α} (built : ofHeader h m = .ok r) :
    r.header = headerOf h ∧ r.received = some m := by
  unfold ofHeader at built
  obtain ⟨consumer, client, built⟩ := bind_ok built
  obtain ⟨service, provider, built⟩ := bind_ok built
  obtain ⟨id, identifier, built⟩ := bind_ok built
  obtain rfl := Except.ok.inj built
  have sameId : h.id = some id := by
    have kept := requireHeader_ok identifier
    exact (Option.filter_eq_some_iff.1 kept).1
  refine ⟨?_, rfl⟩
  rw [headerOf, Request.header, requireHeader_ok client, requireHeader_ok provider, sameId]
  rfl

theorem readHeader_ok {m : Soap.Message} {r : Request α} (reads : readHeader m = .ok r) :
    ∃ e h, m.header = some e ∧ e.hasChildElements ∧ Header.read e = .ok h ∧
      r.header = headerOf h ∧ r.received = some m := by
  unfold readHeader at reads
  split at reads
  · cases reads
  · next e found =>
    obtain ⟨present, children⟩ := Option.filter_eq_some_iff.1 found
    obtain ⟨h, read, reads⟩ := bind_ok reads
    exact ⟨e, h, present, children, read, ofHeader_ok reads⟩

section
variable {reader : ContentReader α} {expected : Option String} {wrapped : Bool} {p : Producer}
  {m : Soap.Message} {rpc : Element}
  (root : bodyRoot m (expectedUri? expected) p.serviceCode.text = .ok rpc)
include root

theorem bodyOf_ok {data : Option α}
    (content : contentOf? wrapped "request" rpc = none ∧ data = none ∨
      ∃ e, contentOf? wrapped "request" rpc = some e ∧ reader.readChildren e m = .ok data) :
    bodyOf reader expected wrapped p m = .ok { data, root := rpc.tag.toQName } := by
  rw [bodyOf, root, ok_bind]
  rcases content with ⟨absent, rfl⟩ | ⟨e, present, read⟩
  · rw [absent]
    rfl
  · rw [present]
    simp only [read, ok_bind]

end

/-- Reading the body changes the request only when it succeeds. -/
theorem loadBody_run (reader : ContentReader α) (expected : Option String) (r : Request α) :
    ((loadBody reader expected).run r).run =
      match r.received with
      | none => (.error .missingRequestBody, r)
      | some m =>
        match bodyOf reader expected r.wrapped r.producer m with
        | .error cause => (.error cause, r)
        | .ok body =>
          (.ok (), { r with data := body.data, producer := r.producer.observed body.root }) := by
  obtain ⟨_, producer, _, _, _, _, _, _, _, _, wrapped, _, received⟩ := r
  cases received with
  | none => rfl
  | some m =>
    -- The message is put back before the result is looked at.
    simp only [loadBody, bind_pure_comp, StateT.run_bind, StateT.run_get, StateT.run_set, pure_bind,
      StateT.run_modify]
    cases bodyOf reader expected wrapped producer m with
    | error cause => rfl
    | ok body => rfl

theorem readBody_eq (reader : ContentReader α) (expected : Option String) (r : Request α) :
    readBody reader expected r =
      match r.received with
      | none => .error .missingRequestBody
      | some m =>
        (bodyOf reader expected r.wrapped r.producer m).map fun body =>
          { r with data := body.data, producer := r.producer.observed body.root } := by
  rw [readBody, loadBody_run]
  cases r.received with
  | none => rfl
  | some m =>
    simp only
    cases bodyOf reader expected r.wrapped r.producer m <;> rfl

/-- Reading the body gives the request its content and its producer the namespace, nothing else. -/
theorem readBody_frame {reader : ContentReader α} {expected : Option String} {r r' : Request α}
    (reads : readBody reader expected r = .ok r') :
    r'.header = r.header ∧ r'.received = r.received ∧ r'.wrapped = r.wrapped := by
  rw [readBody_eq] at reads
  split at reads
  · cases reads
  · next m _ =>
    cases body : bodyOf reader expected r.wrapped r.producer m with
    | error cause =>
      rw [body] at reads
      cases reads
    | ok body' =>
      rw [body] at reads
      rw [← Except.ok.inj reads]
      exact ⟨rfl, rfl, rfl⟩

/-- A request that was read says what its header says. -/
theorem read_ok {reader : ContentReader α} {expected : Option String} {wrapped : Bool}
    {m : Soap.Message} {r : Request α} (reads : read reader expected wrapped m = .ok r) :
    ∃ e h, m.header = some e ∧ e.hasChildElements ∧ Header.read e = .ok h ∧
      r.header = headerOf h ∧ r.received = some m ∧ r.wrapped = wrapped := by
  unfold read at reads
  obtain ⟨r₀, header, reads⟩ := bind_ok reads
  obtain ⟨sameHeader, sameMessage, sameWrapped⟩ := readBody_frame reads
  obtain ⟨e, h, found, children, read, agrees, received⟩ := readHeader_ok header
  exact ⟨e, h, found, children, read, sameHeader.trans agrees, sameMessage.trans received, sameWrapped⟩

end Request

end XRoad
