import XRoad.Proofs.Header.Lenient
import XRoad.Proofs.Response.Exchange

/-!
# Header fields on both sides

The header of a message is read strictly in a request and leniently in a response. Where the strict
reader succeeds, both sides report the same. Main statement: `Header.read_modes`.
-/

namespace XRoad

open Xml (Element)

/-- A response says what the header of its message says, the default version aside. -/
theorem ResponseReader.header_of_read {α β : Type} {reader : ResponseReader α β}
    {expected : Option String} {wrapped : Bool} {m : Soap.Message} {a : Response α β}
    (reads : reader.read expected wrapped m = .ok a) :
    a.header = { headerOf m with
      protocolVersion := some ((headerOf m).protocolVersion.getD Protocol.version) } := by
  unfold read at reads
  simp only at reads
  split at reads
  · rw [← Except.ok.inj reads]
    simp only [Response.header, Response.ofHeader, Option.map_map, Function.comp_def,
      Producer.ofService, Option.map_id']
  · obtain ⟨data, -, reads⟩ := bind_ok reads
    split at reads
    · rw [← Except.ok.inj reads]
      simp only [Response.header, Response.ofHeader, Option.map_map, Function.comp_def,
        Producer.ofService, Producer.observed, Option.map_id']
    · obtain ⟨outcome, -, reads⟩ := bind_ok reads
      rw [← Except.ok.inj reads]
      simp only [Response.header, Response.ofHeader, Option.map_map, Function.comp_def,
        Producer.ofService, Producer.observed, Option.map_id']

namespace Header

/-- A header is read if and only if every identifier that it has once can be read, and fails with
the first one that cannot. The lenient reader reports what the strict one would of the header
without those identifiers: all texts, and all identifiers that can be read. So a message that is
read as a request is read as a response with the same header fields, if it is. -/
theorem read_modes (e : Element) :
    ((∃ h, read e = .ok h) ↔ AllReadable e) ∧
      (∀ cause, read e = .error cause ↔ FirstRefused e cause) ∧
      (∀ h, read e = .ok h → readLenient e = h) ∧
      read (withoutRefused e) = .ok (readLenient e) ∧
      { readLenient e with consumer := none, service := none, securityServer := none } =
        readTexts e ∧
      (∀ c, (readLenient e).consumer = some c ↔ Gives e "client" Consumer.ofElement c) ∧
      (∀ s, (readLenient e).service = some s ↔ Gives e "service" Service.ofElement s) ∧
      (∀ s, (readLenient e).securityServer = some s ↔
        Gives e "securityServer" SecurityServer.ofElement s) ∧
      ∀ (α β γ : Type) (reader : ResponseReader β γ) (expected : Option String) (wrapped : Bool)
        (m : Soap.Message) (r : Request α) (a : Response β γ),
        Request.readHeader m = .ok r → reader.read expected wrapped m = .ok a →
          { a.header with requestHash := none, requestHashAlgorithm := none } = r.header := by
  refine ⟨?_, fun cause => read_error_iff, fun h => readLenient_of_read, read_withoutRefused e, ?_⟩
  · constructor
    · rintro ⟨h, reads⟩
      exact (read_ok_iff.1 reads).1
    · exact fun readable => ⟨readLenient e, read_ok_iff.2 ⟨readable, rfl⟩⟩
  rw [readLenient_eq]
  refine ⟨rfl, fun c => readable?_eq_some_iff, fun s => readable?_eq_some_iff,
    fun s => readable?_eq_some_iff, ?_⟩
  intro α β γ reader expected wrapped m r a request response
  obtain ⟨x, h, found, children, reads, agrees, -⟩ := Request.readHeader_ok request
  rw [ResponseReader.header_of_read response, ResponseReader.headerOf_of_read found children reads,
    agrees]
  rfl

/-- A security server that is there twice counts as missing on both sides, and the identifier is
kept with the blank around it. -/
theorem read_modes_repeated :
    let code (s : String) (h : s ≠ "") : Code := ⟨s, h⟩
    let member : Member :=
      { xRoadInstance := code "EE" (by decide), memberClass := code "GOV" (by decide)
        memberCode := code "1" (by decide) }
    let consumer : Consumer := { member with subsystem := some (code "sub" (by decide)) }
    let service : Service :=
      { xRoadInstance := member.xRoadInstance, owner := none, serviceCode := code "get" (by decide) }
    let server : SecurityServer := { member with serverCode := code "s" (by decide) }
    let m := Soap.Message.empty.pushHeader
      [consumer.element.node, service.element.node, server.element.node, server.element.node,
        (textElement "id" " 7").node]
    let r : Request Unit :=
      { consumer, producer := .ofService service, id := " 7", received := some m }
    let reader : ResponseReader Unit Unit :=
      { response := fun _ _ => .error "not read", metaService := true }
    Request.readHeader m = .ok r ∧
      ∃ a, reader.read (some "urn:x") true m = .ok a ∧
        { a.header with requestHash := none, requestHashAlgorithm := none } = r.header := by
  intro code member consumer service server m r reader
  have request : Request.readHeader m = .ok r := by decide
  have reads : (reader.read (some "urn:x") true m).isOk := by decide
  cases response : reader.read (some "urn:x") true m with
  | error cause =>
    rw [response] at reads
    cases reads
  | ok a =>
    obtain ⟨-, -, -, -, -, -, -, -, same⟩ := read_modes m.headerOrNew
    exact ⟨request, a, rfl, same Unit Unit Unit reader (some "urn:x") true m r a request response⟩

/-- What stands in an identifier that cannot be read is found all the same. -/
example :
    let client := (Protocol.header.element "client").push
      [(textElement "userId" "u").node, (textElement "memberClass" "GOV").node]
    let e := (Element.named "Header").push [client.node, (textElement "id" "7").node]
    read e = .error (.invalidIdentifier "client" (.missingField "xRoadInstance")) ∧
      readLenient e = { id := some "7", userId := some "u" } := by decide

end Header

end XRoad
