import XRoad.Proofs.Request.Body
import XRoad.Proofs.Response.Writer
import XRoad.Proofs.Xml.Retagged

/-!
# Namespaces of answers

An answer says for each of its parts whether it takes the namespace of the service: the element in
the body, the request that is repeated, and the content. Main statement:
`ResponseWriter.write_qualified`.
-/

namespace XRoad

open Xml (Binding Element Tag)

namespace Xml.Tag

variable {b : Binding} {asked : Prop} {t : Tag}

/-- The tag is in the namespace if that is asked for, and in none otherwise. -/
structure StandsIn (b : Binding) (asked : Prop) (t : Tag) : Prop where
  isIn_iff : t.IsIn b ↔ asked
  bare_iff : t.nsUri = none ↔ ¬ asked

theorem IsIn.standsIn (isIn : t.IsIn b) (yes : asked) : t.StandsIn b asked where
  isIn_iff := iff_of_true isIn yes
  bare_iff := by
    refine iff_of_false ?_ (not_not_intro yes)
    rw [isIn.2]
    nofun

theorem standsIn_of_bare (bare : t.nsUri = none) (no : ¬ asked) : t.StandsIn b asked where
  isIn_iff := by
    refine iff_of_false (fun isIn => ?_) no
    cases bare.symm.trans isIn.2
  bare_iff := iff_of_true bare no

theorem isIn_element (b : Binding) (name : String) : (b.element name).tag.IsIn b := by
  rw [← qualify_element]
  exact ((b.element name).tag.movesTo_qualify b).1

end Xml.Tag

namespace Request

variable {α : Type} (r : Request α) (name : String)

/-- The only element of this name in the body that was received holds this element `request`. -/
def Holds (e : Element) : Prop :=
  ∃ m rpc, r.received = some m ∧
    m.body.childElements.filter (fun c => c.tag.name = name) = [rpc] ∧ rpc.child? "request" = some e

/-- An answer repeats the element `request` that was received, or an empty one if there is none. -/
structure IsRepeatedAs (e : Element) : Prop where
  held : ∀ e', r.Holds name e' → e = e'
  empty : (∀ e', ¬ r.Holds name e') → e = .named "request"

end Request

/-- The tree as an answer carries it: as it was, with all of it in the namespace, or with what had no
namespace in it. -/
structure Xml.Element.CarriedIn (b : Binding) (asked all : Prop) (e e' : Element) : Prop where
  kept : ¬ asked → e' = e
  moved : asked → all → e.Retagged (Tag.MovesTo b) e'
  settled : asked → ¬ all → e.Retagged (Tag.SettlesIn b) e'

namespace Response

variable {α β : Type} (a : Response α β)

/-- The element in the body of an answer in a namespace. The request is repeated in the answer if
contents stand in elements of their own. -/
structure IsQualified (b : Binding) (name : String) (copied d rpc : Element) : Prop where
  name : rpc.tag.name = name
  plain : ¬ a.wrapped →
    rpc.tag.StandsIn b (a.qualifyRoot ∨ a.qualifyResponse) ∧
      ∃ d' : Element, rpc.children = [d'.node] ∧ d.CarriedIn b a.qualifyResponse a.qualifyAll d'
  wrapped : a.wrapped →
    rpc.tag.StandsIn b a.qualifyRoot ∧
      ∃ echo response d' : Element, rpc.children = [echo.node, response.node] ∧
        copied.CarriedIn b a.qualifyRequest True echo ∧
        response.tag.name = "response" ∧ response.tag.StandsIn b a.qualifyResponse ∧
        response.children = [d'.node] ∧ d.CarriedIn b a.qualifyResponse a.qualifyAll d'

/-- The element in the body of an answer without a namespace. -/
def bare (name : String) (copied d : Element) : Element :=
  (Element.named name).push
    (if a.wrapped then [copied.node, ((Element.named "response").push [d.node]).node] else [d.node])

/-! ### What is written -/

section
variable {a} {p : Producer} {b : Binding} (producer : a.producer = some p)
  (binding : p.binding? = some b)
include producer binding

theorem standsIn_rootTag (name : String) : (a.rootTag name).StandsIn b a.qualifyRoot := by
  rw [rootTag, bindingIf_of_producer producer, binding]
  split
  · next asked => exact (Tag.isIn_element b name).standsIn asked
  · next asked => exact Tag.standsIn_of_bare rfl asked

theorem standsIn_contentTag {t : Tag} {asked : Prop} (stands : t.StandsIn b asked) :
    (a.contentTag t).StandsIn b (asked ∨ a.qualifyResponse) := by
  rw [contentTag, bindingIf_of_producer producer, binding]
  by_cases response : a.qualifyResponse
  · rw [if_pos response]
    exact (t.movesTo_qualify b).1.standsIn (.inr response)
  · rw [if_neg response, or_iff_left response]
    exact stands

theorem carriedIn_moved (d : Element) :
    d.CarriedIn b a.qualifyResponse a.qualifyAll (a.moved d) := by
  have usable : b.nsUri ≠ "" := (Producer.of_binding? binding).2.2
  rw [moved, bindingIf_of_producer producer, binding]
  refine ⟨fun response => ?_, fun response all => ?_, fun response all => ?_⟩
  · rw [if_neg response]
  · simp only [if_pos response, if_pos all]
    exact b.retagged_qualify d
  · simp only [if_pos response, if_neg all]
    exact Binding.retagged_fill usable d

theorem isQualified_root {copied wrapper : Element}
    (repeated : copied.CarriedIn b a.qualifyRequest True wrapper) (name : String) (d : Element) :
    a.IsQualified b name copied d (a.root wrapper name d) where
  name := a.around_name wrapper [(a.moved d).node]
  plain unwrapped := by
    rw [root, if_neg unwrapped, contentElement, if_neg unwrapped]
    refine ⟨standsIn_contentTag producer binding (standsIn_rootTag producer binding name), _, rfl, ?_⟩
    exact carriedIn_moved producer binding d
  wrapped isWrapped := by
    rw [root, if_pos isWrapped, contentElement, if_pos isWrapped]
    refine ⟨standsIn_rootTag producer binding name, wrapper, _, _, rfl, repeated, ?_, ?_, rfl,
      carriedIn_moved producer binding d⟩
    · exact a.contentTag_name _
    · have bare : (Tag.named "response").StandsIn b False := Tag.standsIn_of_bare rfl not_false
      have stands := standsIn_contentTag producer binding bare
      rwa [false_or] at stands

end

theorem root_of_bare {a : Response α β} {p : Producer} (producer : a.producer = some p)
    (unbound : p.binding? = none) (wrapper : Element) (name : String) (d : Element) :
    a.root wrapper name d = a.bare name wrapper d := by
  have nowhere (qualify : Bool) : a.bindingIf qualify = none := by
    rw [bindingIf_of_producer producer, unbound, ite_self]
  rw [root, contentElement, rootTag, contentTag, moved, nowhere, nowhere, bare]
  split <;> rfl

end Response

namespace ResponseWriter

variable {α β : Type}

theorem receivedWrapper?_eq_some_iff {request : Request α} {name : String} {e : Element} :
    receivedWrapper? request name = some e ↔ request.Holds name e := by
  simp only [receivedWrapper?, Option.bind_eq_bind, Option.bind_eq_some_iff, Xml.only?_eq_some_iff,
    Request.bodyRoots_any, Request.Holds, exists_and_left]

theorem isRepeatedAs_received (request : Request α) (name : String) :
    request.IsRepeatedAs name ((receivedWrapper? request name).getD (.named "request")) where
  held e held := by rw [receivedWrapper?_eq_some_iff.2 held, Option.getD_some]
  empty absent := by
    have none := Option.eq_none_iff_forall_ne_some.2 fun e found =>
      absent e (receivedWrapper?_eq_some_iff.1 found)
    rw [none, Option.getD_none]

theorem carriedIn_requestWrapper (a : Response α β) (request : Request α) (code : String)
    (b : Binding) : ((receivedWrapper? request code).getD (.named "request")).CarriedIn b
      a.qualifyRequest True (requestWrapper a request code (some b)) := by
  rw [requestWrapper]
  refine ⟨fun unasked => ?_, fun asked _ => ?_, fun _ no => absurd trivial no⟩
  · rw [if_neg unasked]
    rfl
  · rw [if_pos asked]
    exact b.retagged_qualify _

theorem requestWrapper_of_none (a : Response α β) (request : Request α) (code : String) :
    requestWrapper a request code none =
      (receivedWrapper? request code).getD (.named "request") := by
  rw [requestWrapper, ite_self]
  rfl

theorem write_child_of_uri {a : Response α Element} {request : Request α} {d : Element}
    (noFault : a.fault = none) (content : a.responseData = some d)
    (uri : ¬ a.LacksUri (producerOf a request)) :
    let p := producerOf a request
    let named := { wrapLike a (some request) with producer := some p }
    ((child : ResponseWriter α Element).write a (some request)).1 = wrapLike a (some request) ∧
      ((child : ResponseWriter α Element).write a (some request)).2.body.children =
        [(named.root (requestWrapper a request p.serviceCode.text p.binding?) p.responseName d).node] := by
  intro p named
  have body : (child : ResponseWriter α Element).bodyElement (wrapLike a (some request)) request =
      .ok (named.root (requestWrapper a request p.serviceCode.text p.binding?) p.responseName d) :=
    -- Whether the producer is the response's own makes no difference to its content.
    bodyElement_child (a := named) noFault content rfl request
  obtain ⟨m, -, base⟩ := base_ok request
  have known : ¬ lacksNamespace (wrapLike a (some request))
      (producerOf (wrapLike a (some request)) request) :=
    fun lacks => uri ((lacksNamespace_iff a p).1 lacks)
  have ordinary : ∀ f ∈ a.fault, ¬ f.isStandard := by
    intro f m
    rw [noFault] at m
    cases m
  rw [write_of_ok ordinary (writeAnswerTo_of_parts known base body)]
  exact ⟨rfl, rfl⟩

/-- An answer with content to a service with a namespace is in that namespace where it says so: the
element in the body and the element `response` around the content are in it or in none, the request
that is repeated and the content are as they were or are moved into it, and of the content only what
had no namespace where the rest is to keep its own. A service that has no namespace is answered
without one. -/
theorem write_qualified (a : Response α Element) (request : Request α) (d : Element)
    (noFault : a.fault = none) (content : a.responseData = some d) :
    let p := producerOf a request
    let sent := wrapLike a (some request)
    let out := (child : ResponseWriter α Element).write a (some request)
    ∃ copied, request.IsRepeatedAs p.serviceCode.text copied ∧
      (∀ b, p.binding? = some b → out.1 = sent ∧
        ∃ rpc, out.2.body.children = [rpc.node] ∧ sent.IsQualified b p.responseName copied d rpc) ∧
      (p.binding? = none → ¬ a.LacksUri p → out.1 = sent ∧
        out.2.body.children = [(sent.bare p.responseName copied d).node]) := by
  intro p sent out
  let named := { sent with producer := some p }
  refine ⟨_, isRepeatedAs_received request _, fun b binding => ?_, fun unbound uri => ?_⟩
  · have uri : ¬ a.LacksUri p := by
      rintro ⟨-, known, missing⟩
      have unbound := (Producer.binding?_isNone_iff known).2 missing
      rw [binding] at unbound
      cases unbound
    obtain ⟨same, body⟩ := write_child_of_uri noFault content uri
    refine ⟨same, _, body, ?_⟩
    have qualified := Response.isQualified_root (a := named) rfl binding
      (carriedIn_requestWrapper named request p.serviceCode.text b) p.responseName d
    rw [binding]
    exact ⟨qualified.name, qualified.plain, qualified.wrapped⟩
  · obtain ⟨same, body⟩ := write_child_of_uri noFault content uri
    refine ⟨same, ?_⟩
    rw [body, unbound, requestWrapper_of_none, Response.root_of_bare rfl unbound]
    rfl

/-- The answer stays out of the namespace with the request that it repeats, and content that has a
namespace in part settles in it. -/
theorem write_qualified_mixed :
    let code (s : String) (h : s ≠ "") : Code := ⟨s, h⟩
    let e := (Element.within "request" "q" "urn:q").push [.text "7"]
    let m := Soap.Message.empty.pushBody [((Element.named "get").pushChild e).node]
    let r : Request Unit :=
      { consumer :=
          { xRoadInstance := code "EE" (by decide), memberClass := code "GOV" (by decide)
            memberCode := code "1" (by decide), subsystem := none }
        producer :=
          { xRoadInstance := code "EE" (by decide), owner := none
            serviceCode := code "get" (by decide)
            bodyPrefix := some "", bodyUri := some "urn:n" }
        id := "1", wrapped := true, received := some m }
    let d := (Element.named "d").push
      [.element (.within "x" "p" "urn:p") [], .element (.within "y" "p" "") [.text "8"]]
    let a : Response Unit Element :=
      { responseData := some d, qualifyRoot := false, qualifyRequest := false, qualifyAll := false }
    a.fault = none ∧ a.responseData = some d ∧
      (producerOf a r).binding? = some ⟨"", "urn:n"⟩ ∧
      ∃ rpc response d' : Element,
        ((child : ResponseWriter Unit Element).write a (some r)).2.body.children = [rpc.node] ∧
        rpc.tag.nsUri = none ∧ rpc.children = [e.node, response.node] ∧
        response.tag.IsIn ⟨"", "urn:n"⟩ ∧ response.children = [d'.node] ∧
        d.Retagged (Tag.SettlesIn ⟨"", "urn:n"⟩) d' := by
  intro code e m r d a
  refine ⟨rfl, rfl, rfl, ?_⟩
  obtain ⟨copied, repeated, inNamespace, -⟩ := write_qualified a r d rfl rfl
  obtain ⟨-, rpc, body, qualified⟩ := inNamespace ⟨"", "urn:n"⟩ rfl
  obtain ⟨stands, echo, response, d', children, echoed, -, standsResponse, content, carried⟩ :=
    qualified.wrapped rfl
  have held : r.Holds "get" e := ⟨m, _, rfl, rfl, rfl⟩
  refine ⟨rpc, response, d', body, stands.bare_iff.2 (by decide), ?_, standsResponse.isIn_iff.2 rfl,
    content, carried.settled rfl (by decide)⟩
  rw [children, echoed.kept (by decide), repeated.held e held]

end ResponseWriter

end XRoad
