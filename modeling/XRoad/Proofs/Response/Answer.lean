import Mathlib.Data.List.Perm.Basic
import XRoad.Proofs.Response.Outcome

/-!
# Where an answer is looked for

A request stands in a child of the body, and an answer anywhere in it. An answer that the request
side would find is read as one exactly when no element further down has its name; else what it holds
is passed over. Main statement: `ResponseReader.read_root_iff`.
-/

namespace XRoad

open Xml (Element only?)

namespace Xml

/-- The elements that are found are the children of the name and those further down. -/
theorem Element.find_perm (e : Element) (nsUri : Option String) (name : String) :
    (e.find nsUri name).Perm
      (e.childElements.filter (·.tag.isNamed nsUri name) ++
        (e.childElements.flatMap descendants).filter (·.tag.isNamed nsUri name)) := by
  rw [find, descendants_eq, ← List.filter_append]
  refine List.Perm.filter _ ?_
  have split := List.map_append_flatMap_perm e.childElements id descendants
  rw [List.map_id] at split
  exact split.symm

theorem only?_of_perm {α : Type} {a : α} {as bs : List α} (perm : as.Perm (a :: bs)) :
    only? as = if bs = [] then some a else none := by
  split
  · next empty =>
    rw [empty, List.perm_singleton] at perm
    exact only?_eq_some_iff.2 perm
  · next others =>
    rw [Option.eq_none_iff_forall_ne_some]
    intro b single
    rw [only?_eq_some_iff.1 single] at perm
    have same := List.singleton_perm.1 perm
    exact others (List.cons.inj same).2.symm

end Xml

namespace ResponseReader

variable {α β : Type}

/-- An element further down than the children of the body has the name of an answer of the
service. -/
def IsRepeated (expected : Option String) (m : Soap.Message) (s : Service) : Prop :=
  ∃ c ∈ m.body.childElements, ∃ x ∈ c.descendants,
    x.tag.isNamed (expectedUri? expected) s.responseName

instance (expected : Option String) (m : Soap.Message) (s : Service) :
    Decidable (IsRepeated expected m s) :=
  inferInstanceAs (Decidable (∃ c ∈ m.body.childElements, _))

/-- What is read of a message whose answer is this element: the repeated request, then the error or
the content that it holds, and its namespace for the producer. -/
def readAnswer (reader : ResponseReader α β) (wrapped : Bool) (m : Soap.Message) (rpc : Element) :
    Except ReadError (Response α β) := do
  let requestData ← reader.readRequest wrapped rpc m
  let outcome ← reader.outcomeOf wrapped rpc m
  .ok (ofAnswer wrapped m rpc requestData outcome)

def refusing : ResponseReader α β where
  response _ _ := .error "refused"
  metaService := true

theorem readAnswer_refusing (m : Soap.Message) (rpc : Element) :
    (refusing : ResponseReader α β).readAnswer false m rpc = .error (.payload "refused") :=
  rfl

variable {expected : Option String} {m : Soap.Message} {s : Service} {rpc : Element}

theorem answer?_of_root
    (root : Request.bodyRoots m (expectedUri? expected) s.responseName = [rpc]) :
    answer? (some s) expected m = if IsRepeated expected m s then none else some rpc := by
  have perm := m.body.find_perm (expectedUri? expected) s.responseName
  rw [← Request.bodyRoots, root, List.singleton_append] at perm
  have clear : (m.body.childElements.flatMap Element.descendants).filter
      (·.tag.isNamed (expectedUri? expected) s.responseName) = [] ↔ ¬ IsRepeated expected m s := by
    rw [List.filter_eq_nil_iff, List.forall_mem_flatMap]
    simp only [IsRepeated, not_exists, not_and]
  rw [answer?, Option.bind_some, Xml.only?_of_perm perm]
  simp only [clear, ite_not]

section
variable (service : (headerOf m).service = some s)
  (root : Request.bodyRoots m (expectedUri? expected) s.responseName = [rpc])
include service root

theorem read_of_single (single : ¬ IsRepeated expected m s) (reader : ResponseReader α β)
    (wrapped : Bool) : reader.read expected wrapped m = reader.readAnswer wrapped m rpc := by
  have answered : answer? (headerOf m).service expected m = some rpc := by
    rw [service, answer?_of_root root, if_neg single]
  exact read_of_answered answered

theorem read_of_repeated (repeated : IsRepeated expected m s) (reader : ResponseReader α β)
    (wrapped : Bool) : ∃ r, reader.read expected wrapped m = .ok r ∧
      r.producer = some (.ofService s) ∧ r.requestData = none ∧ r.responseData = none ∧
      ∀ f ∈ r.fault, f.kind = .standard := by
  have missing : answer? (headerOf m).service expected m = none := by
    rw [service, answer?_of_root root, if_pos repeated]
  refine ⟨_, read_of_no_answer missing, ?_, rfl, rfl, fun f found => ?_⟩
  · change (headerOf m).service.map Producer.ofService = _
    rw [service]
    rfl
  · obtain ⟨e, -, rfl⟩ := Option.map_eq_some_iff.1 found
    rfl

end

/-- The only child of the body that is named after the service is read as the answer if and only if
no element further down has its name too. If one has, neither content nor an error of the service is
read, and the reader does not say so. -/
theorem read_root_iff (service : (headerOf m).service = some s)
    (root : Request.bodyRoots m (expectedUri? expected) s.responseName = [rpc]) :
    ((∀ (reader : ResponseReader α β) (wrapped : Bool),
        reader.read expected wrapped m = reader.readAnswer wrapped m rpc) ↔
      ¬ IsRepeated expected m s) ∧
      (IsRepeated expected m s → ∀ (reader : ResponseReader α β) (wrapped : Bool),
        ∃ r, reader.read expected wrapped m = .ok r ∧ r.producer = some (.ofService s) ∧
          r.requestData = none ∧ r.responseData = none ∧ ∀ f ∈ r.fault, f.kind = .standard) := by
  refine ⟨⟨fun reads repeated => ?_, read_of_single service root⟩, read_of_repeated service root⟩
  -- A reader that refuses everything tells the two apart, whatever the answer holds.
  obtain ⟨r, read, -⟩ := read_of_repeated service root repeated (refusing : ResponseReader α β) false
  rw [reads refusing false, readAnswer_refusing] at read
  cases read

/-- The name of the answer may be repeated in another namespace, in the answer and beside it. -/
theorem read_root_iff_qualified :
    let code (s : String) (h : s ≠ "") : Code := ⟨s, h⟩
    let service : Service :=
      { xRoadInstance := code "EE" (by decide), owner := none, serviceCode := code "get" (by decide) }
    let other := (Element.within "getResponse" "q" "urn:q").pushChild (.named "getResponse")
    let rpc := (Element.within "getResponse" "p" "urn:p").push
      [other.node, (Element.withText "data" "7").node]
    let m := (Soap.Message.empty.pushHeader [service.element.node]).pushBody [rpc.node, other.node]
    let reader : ResponseReader Unit Element := { response := ContentReader.element }
    (headerOf m).service = some service ∧
      Request.bodyRoots m (expectedUri? (some "urn:p")) service.responseName = [rpc] ∧
      (reader.read (some "urn:p") false m).map (fun r => (r.responseData, r.producer)) =
        .ok (some rpc, some { Producer.ofService service with
          bodyPrefix := some "p", bodyUri := some "urn:p" }) := by
  intro code service other rpc m reader
  have header : (headerOf m).service = some service := by decide
  have root : Request.bodyRoots m (expectedUri? (some "urn:p")) service.responseName = [rpc] := by
    decide
  have single : ¬ IsRepeated (some "urn:p") m service := by decide
  refine ⟨header, root, ?_⟩
  rw [(read_root_iff header root).1.2 single reader false]
  decide

/-- An answer goes unread when it holds an element of its own name, although it is the one that the
request side would find. -/
theorem answer_unread :
    let code (s : String) (h : s ≠ "") : Code := ⟨s, h⟩
    let service : Service :=
      { xRoadInstance := code "EE" (by decide), owner := none, serviceCode := code "get" (by decide) }
    let rpc := (Element.named "getResponse").push
      [(Element.named "getResponse").node, (Element.withText "data" "7").node]
    let m := (Soap.Message.empty.pushHeader [service.element.node]).pushBody [rpc.node]
    let reader : ResponseReader Unit Element := { response := ContentReader.element }
    let contents (r : Response Unit Element) := (r.responseData, r.fault)
    (headerOf m).service = some service ∧ m.body.childElements = [rpc] ∧
      Request.bodyRoot m none service.responseName = .ok rpc ∧
      (reader.readAnswer false m rpc).map contents = .ok (some rpc, none) ∧
      (reader.read none false m).map contents = .ok (none, none) ∧
      reader.read none false m ≠ reader.readAnswer false m rpc := by
  intro code service rpc m reader contents
  have held : (reader.readAnswer false m rpc).map contents = .ok (some rpc, none) := by decide
  have unread : (reader.read none false m).map contents = .ok (none, none) := by decide
  refine ⟨by decide, by decide, by decide, held, unread, fun same => ?_⟩
  rw [same, held] at unread
  cases unread

end ResponseReader

end XRoad
