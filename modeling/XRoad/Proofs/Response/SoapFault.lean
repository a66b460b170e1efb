import XRoad.Proofs.Response.Classification
import XRoad.Proofs.Response.Writer

/-!
# SOAP faults over the wire

A response with a SOAP fault is read back with that fault and nothing else. Main statement:
`ResponseReader.parse_written_fault`.
-/

namespace XRoad

open Xml (Element Node Scope)

namespace Fault

variable {f : Fault}

theorem hasWritableTags_toMessage (plain : ∀ d ∈ f.detail, d.IsPlain) :
    (f.toMessage FaultDetail.write).toElement.node.HasWritableTags := by
  have envelope : Soap.Message.empty.envelope.IsWritable := by decide
  have header : (Protocol.soap.element "Header").node.HasWritableTags := by decide
  have body : (Protocol.soap.element "Body").tag.IsWritable := by decide
  refine Soap.Message.hasWritableTags envelope ?_ (.element body fun n m => ?_)
  · intro h found
    rw [← Option.some.inj found]
    exact header
  · rw [List.mem_singleton.1 m]
    exact hasWritableTags_element plain

theorem body_reread (f : Fault) : ∃ scope, (f.toMessage FaultDetail.write).reread.body.childElements =
    [(f.element FaultDetail.write).reread scope] :=
  ⟨_, Element.childElements_reread _ _ [f.element FaultDetail.write]⟩

theorem headerOf_reread (f : Fault) :
    ResponseReader.headerOf (f.toMessage FaultDetail.write).reread = {} :=
  rfl

end Fault

namespace ResponseReader

variable {α β γ δ : Type}

/-- A response with a SOAP fault is read with the fault that was sent, its texts without the blanks
around them, and without header fields or content. -/
theorem parse_written_fault {w : ResponseWriter α β} (usual : w.detail = FaultDetail.write)
    {r : Response α β} {f : Fault} (fault : r.fault = some f) (standard : f.kind = .standard)
    (plain : ∀ d ∈ f.detail, d.IsPlain) (request : Option (Request α))
    {reader : ResponseReader γ δ} (tables : reader.detail = Fault.tableDetail)
    (expected : Option String) (wrapped : Bool) :
    ∃ result, reader.parse expected wrapped (w.write r request).2.toBytes = .ok result ∧
      result.fault = some
        { f with
          code := f.code.map Text.trim
          text := f.text.map Text.trim
          actor := f.actor.map Text.trim } ∧
      result.header = { protocolVersion := some Protocol.version } ∧
      result.requestData = none ∧ result.responseData = none := by
  have isStandard : f.isStandard := by
    unfold Fault.isStandard
    rw [standard]
    rfl
  have sent : (w.write r request).2 = f.toMessage FaultDetail.write := by
    rw [ResponseWriter.write_of_standard w r request fault isStandard, usual]
  obtain ⟨scope, alone⟩ := f.body_reread
  let m := (f.toMessage FaultDetail.write).reread
  have found : Fault.ofBody? reader.detail m.body = some
      { f with
        code := f.code.map Text.trim
        text := f.text.map Text.trim
        actor := f.actor.map Text.trim } := by
    have named : ((f.element FaultDetail.write).reread scope).tag.name = "Fault" := by
      rw [Element.reread_tag]
      rfl
    rw [Fault.ofBody?_of_alone alone named, tables]
    exact ⟨Fault.ofElement_reread scope standard plain, Fault.name_of_mem_reread scope plain⟩
  have missing : answer? (headerOf m).service expected m = none := by
    rw [f.headerOf_reread]
    rfl
  have parsed : Soap.Message.parse (w.write r request).2.toBytes = .ok m := by
    rw [sent]
    exact Soap.Message.parse_toBytes (Fault.hasWritableTags_toMessage plain)
  have read : reader.read expected wrapped m = .ok _ := read_of_no_answer missing
  rw [f.headerOf_reread, found] at read
  unfold parse
  rw [parsed]
  exact ⟨_, read, rfl, rfl, rfl, rfl⟩

theorem parse_written_fault_table :
    let t : Table String := ⟨[("code", ""), ("reason", "a < b & c")], by decide⟩
    let f := Fault.standard (some " Client\n") (some " ") none (some (.table t))
    let w : ResponseWriter Unit Element := ResponseWriter.child
    let r : Response Unit Element := { id := some "7", responseData := some (.named "d"), fault := some f }
    let reader : ResponseReader Unit Element :=
      { response := ContentReader.element, detail := Fault.tableDetail }
    w.detail = FaultDetail.write ∧ r.fault = some f ∧ f.kind = .standard ∧
      (∀ d ∈ f.detail, d.IsPlain) ∧ reader.detail = Fault.tableDetail ∧
      ∃ result, reader.parse (some "urn:n") true (w.write r none).2.toBytes = .ok result ∧
        result.fault = some (.standard (some "Client") (some "") none (some (.table t))) ∧
        result.header = { protocolVersion := some Protocol.version } ∧
        result.requestData = none ∧ result.responseData = none := by
  intro t f w r reader
  have plain : ∀ d ∈ f.detail, d.IsPlain := by decide
  exact ⟨rfl, rfl, rfl, plain, rfl,
    parse_written_fault rfl (r := r) rfl rfl plain none rfl (some "urn:n") true⟩

end ResponseReader

end XRoad
