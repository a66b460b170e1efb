import XRoad.Proofs.Identifier.Shape
import XRoad.Proofs.Response.Header
import XRoad.Proofs.Response.Outcome
import XRoad.Proofs.Xml.RoundTrip
import XRoad.Response.MetaService

/-!
# Lists of methods

A list holds its methods as they are written in a header, among others that cannot be read. Reading
gives back exactly the methods, in their order, and an empty list is a list. Main statement:
`read_methods`.
-/

namespace XRoad

open Xml (Element Node Scope)

/-! ### Methods that are written -/

namespace Service

/-- What a tag declares has no part in the service that is read. -/
theorem ofElement_bare (e : Element) : ofElement e.bare = ofElement e :=
  ofElement_mapTags (f := fun t => { t with declarations := [] }) (fun _ => rfl) (fun _ => rfl) e

theorem element_eq (s : Service) :
    s.element = { tag := identifierTag "service" s.objectType
                  children := (s.namedParts.map partElement).map (·.node) } :=
  identifierElement_eq "service" s.objectType s.namedParts

theorem bare_element (s : Service) : s.element.bare = s.element := by
  rw [element_eq, Element.bare, Element.mapTags, Node.mapTagsAll_eq, List.map_map, List.map_map]
  exact congrArg (Element.mk _) (List.map_congr_left fun _ _ => rfl)

theorem bare_reread (s : Service) (scope : Scope) : (s.element.reread scope).bare = s.element := by
  rw [element_eq, Element.reread_elements, Element.bare, Element.mapTags, Node.mapTagsAll_eq,
    List.map_map, List.map_map, List.map_map, List.map_map]
  refine congrArg₂ Element.mk rfl (List.map_congr_left fun p _ => ?_)
  simp only [Function.comp_apply, partElement_reread]
  rfl

/-- A plain service with trimmed codes is read from its element, whatever is declared there. -/
theorem ofElement_of_bare {s : Service} {e : Element} (written : e.bare = s.element)
    (plain : s.IsPlain) (trimmed : ∀ c ∈ s.parts, c.IsTrimmed) : ofElement e = .ok s := by
  rw [← ofElement_bare, written, ← s.bare_reread [], ofElement_bare]
  exact (ofElement_reread_iff []).2 ⟨plain, trimmed⟩

theorem name_of_mem_namedParts {s : Service} {p : String × Code} (m : p ∈ s.namedParts) :
    p.1 ∈ [Part.xRoadInstance, Part.memberClass, Part.memberCode, Part.subsystemCode,
      Part.serviceCode, Part.serviceVersion] := by
  simp only [namedParts, List.mem_append, List.mem_singleton, List.mem_map] at m
  rcases m with ((((rfl | ⟨c, -, rfl⟩) | ⟨c, -, rfl⟩) | ⟨c, -, rfl⟩) | rfl) | ⟨c, -, rfl⟩ <;> simp

theorem name_of_mem_descendants {s : Service} {e x : Element} (written : e.bare = s.element)
    (m : x ∈ e.descendants) : ∃ p ∈ s.namedParts, x.tag.name = p.1 := by
  have below : x.bare ∈ s.element.descendants := by
    rw [← written, Element.bare, Element.descendants_mapTags]
    exact List.mem_map_of_mem m
  rw [element_eq, Element.descendants_elements, List.flatMap_map] at below
  obtain ⟨p, part, below⟩ := List.mem_flatMap.1 below
  have same : x.bare = partElement p := List.mem_singleton.1 below
  exact ⟨p, part, congrArg (·.tag.name) same⟩

end Service

/-! ### Lists -/

/-- An element that stands for a method in an answer of this name. Neither another method nor an
answer stands in it. -/
structure IsMethodEntry (responseName : String) (e : Element) : Prop where
  named : e.tag.isNamed (some Protocol.header.nsUri) "service"
  alone : ∀ x ∈ e.descendants, ¬ x.tag.isNamed (some Protocol.header.nsUri) "service"
  unanswered : ∀ x ∈ e.descendants, x.tag.name ≠ responseName

/-- The nodes hold the elements of these producers in their order, as they are written but for what
is declared on them, among entries that cannot be read and texts. -/
inductive ListsMethods (responseName : String) : List Producer → List Node → Prop
  | nil : ListsMethods responseName [] []
  | method {p : Producer} {e : Element} {ps : List Producer} {ns : List Node}
      (written : e.bare = p.element) (rest : ListsMethods responseName ps ns) :
      ListsMethods responseName (p :: ps) (e.node :: ns)
  | refused {e : Element} {cause : ReadError} {ps : List Producer} {ns : List Node}
      (entry : IsMethodEntry responseName e) (refused : Service.ofElement e = .error cause)
      (rest : ListsMethods responseName ps ns) : ListsMethods responseName ps (e.node :: ns)
  | text {s : String} {ps : List Producer} {ns : List Node}
      (rest : ListsMethods responseName ps ns) : ListsMethods responseName ps (.text s :: ns)

theorem isMethodEntry_of_bare {s : Service} {e : Element} (written : e.bare = s.element)
    {responseName : String} (responds : "Response".toList <:+ responseName.toList) :
    IsMethodEntry responseName e := by
  have below : ∀ x ∈ e.descendants,
      x.tag.name ≠ "service" ∧ ¬ "Response".toList <:+ x.tag.name.toList := by
    intro x m
    obtain ⟨p, part, same⟩ := Service.name_of_mem_descendants written m
    rw [same]
    have other : ∀ n ∈ [Part.xRoadInstance, Part.memberClass, Part.memberCode, Part.subsystemCode,
        Part.serviceCode, Part.serviceVersion],
        n ≠ "service" ∧ ¬ "Response".toList <:+ n.toList := by decide
    exact other p.1 (Service.name_of_mem_namedParts part)
  constructor
  · have tag : e.bare.tag.toQName = s.element.tag.toQName := by rw [written]
    change e.bare.tag.toQName.isNamed _ _
    rw [tag]
    rfl
  · exact fun x m named => (below x m).1 (Xml.QName.name_of_isNamed named)
  · rintro x m rfl
    exact (below x m).2 responds

def methodsIn (ns : List Node) : List Service :=
  ((Node.elementsAll ns).filter (·.tag.isNamed (some Protocol.header.nsUri) "service")).filterMap
    fun e => (Service.ofElement e).toOption

section
variable {responseName : String} {e : Element} {ns : List Node}

/-- An entry gives the method that it is read as, and no other. -/
theorem IsMethodEntry.methodsIn_cons (entry : IsMethodEntry responseName e) :
    methodsIn (e.node :: ns) = (Service.ofElement e).toOption.toList ++ methodsIn ns := by
  have below : e.descendants.filter (·.tag.isNamed (some Protocol.header.nsUri) "service") = [] :=
    List.filter_eq_nil_iff.2 entry.alone
  rw [methodsIn, Node.elementsAll, Node.elements_node, List.cons_append, List.filter_cons,
    if_pos entry.named, List.filter_append, below, List.nil_append, List.filterMap_cons, methodsIn]
  cases (Service.ofElement e).toOption <;> rfl

theorem IsMethodEntry.unanswered_cons (entry : IsMethodEntry responseName e)
    (other : responseName ≠ "service") (rest : ∀ x ∈ Node.elementsAll ns, x.tag.name ≠ responseName) :
    ∀ x ∈ Node.elementsAll (e.node :: ns), x.tag.name ≠ responseName := by
  intro x m
  rw [Node.elementsAll, Node.elements_node] at m
  rcases List.mem_append.1 m with here | later
  · rcases List.mem_cons.1 here with rfl | below
    · rw [Xml.QName.name_of_isNamed entry.named]
      exact other.symm
    · exact entry.unanswered x below
  · exact rest x later

end

namespace ListsMethods

variable {responseName : String} {ps : List Producer} {ns : List Node}

/-- Exactly the methods of a list are read, in their order. -/
theorem methodsIn_eq (lists : ListsMethods responseName ps ns)
    (responds : "Response".toList <:+ responseName.toList)
    (sound : ∀ p ∈ ps, p.IsPlain ∧ ∀ c ∈ p.parts, c.IsTrimmed) :
    methodsIn ns = ps.map (·.toService) := by
  induction lists with
  | nil => rfl
  | @method p e ps ns written rest ih =>
    obtain ⟨⟨plain, trimmed⟩, sound⟩ := List.forall_mem_cons.1 sound
    rw [(isMethodEntry_of_bare written responds).methodsIn_cons, ih sound,
      Service.ofElement_of_bare written plain trimmed]
    rfl
  | refused entry refused rest ih =>
    rw [entry.methodsIn_cons, ih sound, refused]
    rfl
  | text rest ih => exact ih sound

theorem unanswered (lists : ListsMethods responseName ps ns)
    (responds : "Response".toList <:+ responseName.toList) :
    ∀ x ∈ Node.elementsAll ns, x.tag.name ≠ responseName := by
  have other : responseName ≠ "service" := by
    rintro rfl
    exact absurd responds (by decide)
  induction lists with
  | nil => exact nofun
  | method written rest ih => exact (isMethodEntry_of_bare written responds).unanswered_cons other ih
  | refused entry refused rest ih => exact entry.unanswered_cons other ih
  | text rest ih => exact ih

end ListsMethods

/-! ### Reading -/

/-- A list in the body of an answer is read whole: nothing in it is lost, told twice or told in
another order, and nothing that cannot be read is an error. -/
theorem read_methods {m : Soap.Message} {s : Service} {rpc : Element} {ps : List Producer}
    (service : (ResponseReader.headerOf m).service = some s)
    (body : m.body.childElements = [rpc])
    (named : rpc.tag.isNamed (some Protocol.header.nsUri) s.responseName)
    (lists : ListsMethods s.responseName ps rpc.children)
    (sound : ∀ p ∈ ps, p.IsPlain ∧ ∀ c ∈ p.parts, c.IsTrimmed) :
    ∃ r, methodList.read none false m = .ok r ∧ r.fault = none ∧
      r.responseData = some (ps.map (·.toService)) ∧ r.requestData = none ∧
      r.header = { ResponseReader.headerOf m with
        protocolVersion := some
          ((ResponseReader.headerOf m).protocolVersion.getD Protocol.version) } := by
  have responds : "Response".toList <:+ s.responseName.toList :=
    ⟨s.serviceCode.text.toList, by rw [Service.responseName, String.toList_append]⟩
  have name : rpc.tag.name = s.responseName := Xml.QName.name_of_isNamed named
  have answered : ResponseReader.answer? (ResponseReader.headerOf m).service none m = some rpc := by
    have below : rpc.find none s.responseName = [] :=
      List.filter_eq_nil_iff.2 fun x m named =>
        lists.unanswered responds x m (Xml.QName.name_of_isNamed named)
    have here : rpc.tag.isNamed none s.responseName := Xml.QName.isNamed_none_iff.2 name
    rw [service, ResponseReader.answer?, Option.bind_some, Xml.only?_eq_some_iff, expectedUri?,
      Option.filter_none, Element.find_of_alone body, below, List.append_nil,
      List.filter_cons, if_pos here, List.filter_nil]
  have methods : methodsOf m.body = ps.map (·.toService) := by
    have apart : ¬ rpc.tag.isNamed (some Protocol.header.nsUri) "service" := fun named =>
      s.responseName_ne (by decide) (name.symm.trans (Xml.QName.name_of_isNamed named))
    rw [methodsOf, Element.find_of_alone body, List.filter_cons, if_neg apart, List.filter_nil,
      List.nil_append]
    exact lists.methodsIn_eq responds sound
  have reads : methodList.read none false m =
      .ok (ResponseReader.ofAnswer false m rpc none (.content (some (methodsOf m.body)))) :=
    ResponseReader.read_of_answered answered
  refine ⟨_, reads, rfl, ?_, rfl, ResponseReader.header_of_read reads⟩
  exact congrArg some methods

/-- A service with a version and a central one around a service without the code of its member. -/
theorem read_methods_mixed :
    let code (s : String) (h : s ≠ "") : Code := ⟨s, h⟩
    let asked : Service :=
      { xRoadInstance := code "FI" (by decide), owner := none
        serviceCode := code "listMethods" (by decide) }
    let owned : Service :=
      { xRoadInstance := code "FI" (by decide)
        owner := some ⟨code "GOV" (by decide), code "1" (by decide)⟩
        subsystem := some (code "sub" (by decide)), serviceCode := code "get" (by decide)
        version := some (code "v1" (by decide)) }
    let central : Service :=
      { xRoadInstance := code "FI" (by decide), owner := none, serviceCode := code "all" (by decide) }
    let part (name text : String) := (Protocol.identifiers.textElement name text).node
    let broken := (Protocol.header.element "service").push
      [part "xRoadInstance" "FI", part "memberClass" "GOV", part "serviceCode" "get"]
    let rpc := (Protocol.header.element "listMethodsResponse").push
      [.text "\n", owned.element.node, broken.node, .text " ", central.element.node]
    let m := (Soap.Message.empty.pushHeader [asked.element.node]).pushBody [rpc.node]
    (ResponseReader.headerOf m).service = some asked ∧ m.body.childElements = [rpc] ∧
      ListsMethods asked.responseName [.ofService owned, .ofService central] rpc.children ∧
      ∃ r, methodList.read none false m = .ok r ∧ r.fault = none ∧
        r.responseData = some [owned, central] := by
  intro code asked owned central part broken rpc m
  have service : (ResponseReader.headerOf m).service = some asked := by decide
  have body : m.body.childElements = [rpc] := by decide
  have entry : IsMethodEntry asked.responseName broken := ⟨by decide, by decide, by decide⟩
  have refused : Service.ofElement broken =
      .error (.invalidIdentifier "service" (.missingField "memberCode")) := by decide
  have lists : ListsMethods asked.responseName [.ofService owned, .ofService central] rpc.children :=
    .text (.method owned.bare_element (.refused entry refused
      (.text (.method central.bare_element .nil))))
  have sound : ∀ p ∈ [Producer.ofService owned, .ofService central],
      p.IsPlain ∧ ∀ c ∈ p.parts, c.IsTrimmed := by
    refine List.forall_mem_cons.2 ⟨⟨nofun, by decide⟩, List.forall_mem_singleton.2 ⟨?_, by decide⟩⟩
    exact fun _ => ⟨rfl, rfl⟩
  obtain ⟨r, reads, fault, data, -⟩ := read_methods service body (by decide) lists sound
  exact ⟨service, body, lists, r, reads, fault, data⟩

end XRoad
