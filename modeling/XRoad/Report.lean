import XRoad.Json
import XRoad.Response.Basic

/-!
# Reports

What was read from a message as JSON values. Absent fields are null.
-/

namespace XRoad

open Json (ofOption textOrNull)

def Code.json (c : Code) : Json :=
  .text c.text

def Member.jsonFields (m : Member) : List (String × Json) :=
  [("instance", m.xRoadInstance.json), ("member_class", m.memberClass.json),
    ("member_code", m.memberCode.json)]

def Consumer.json (c : Consumer) : Json :=
  .object (c.toMember.jsonFields ++ [("subsystem_code", ofOption Code.json c.subsystem)])

def SecurityServer.json (s : SecurityServer) : Json :=
  .object (s.toMember.jsonFields ++ [("server_code", s.serverCode.json)])

def Producer.json (p : Producer) : Json :=
  .object [
    ("instance", p.xRoadInstance.json),
    ("member_class", ofOption Code.json p.memberClass),
    ("member_code", ofOption Code.json p.memberCode),
    ("subsystem_code", ofOption Code.json p.subsystem),
    ("service_code", p.serviceCode.json),
    ("service_version", ofOption Code.json p.version),
    ("namespace_prefix", textOrNull p.bodyPrefix),
    ("namespace_url", textOrNull p.bodyUri)]

/-- A service on its own, with no namespace for bodies. -/
def Service.json (s : Service) : Json :=
  (Producer.ofService s).json

def tableJson (t : Table String) : Json :=
  .object (t.entries.map fun p => (p.1, .text p.2))

/-- A node is given as the text of its document. -/
def FaultDetail.json : FaultDetail → Json
  | .text s => .text s
  | .table t => tableJson t
  | .node e => .text e.toXml

def Fault.json (f : Fault) : Json :=
  .object [
    ("fault_code", textOrNull f.code),
    ("fault_string", textOrNull f.text),
    ("fault_actor", textOrNull f.actor),
    ("detail", ofOption FaultDetail.json f.detail),
    ("error_message_type", .text f.kind.name)]

def Request.json {α : Type} (data : α → Json) (r : Request α) : Json :=
  .object [
    ("consumer", r.consumer.json),
    ("producer", r.producer.json),
    ("id", .text r.id),
    ("user_id", textOrNull r.userId),
    ("issue", textOrNull r.issue),
    ("protocol_version", .text r.protocolVersion),
    ("security_server", ofOption SecurityServer.json r.securityServer),
    ("security_token", textOrNull r.securityToken),
    ("security_token_type", textOrNull r.securityTokenType),
    ("request_data", ofOption data r.data),
    ("processing_wrappers", .bool r.wrapped),
    ("add_namespace_to_request", .bool r.qualifyRequest)]

def Response.json {α β : Type} (request : α → Json) (response : β → Json) (r : Response α β) :
    Json :=
  .object [
    ("consumer", ofOption Consumer.json r.consumer),
    ("producer", ofOption Producer.json r.producer),
    ("id", textOrNull r.id),
    ("user_id", textOrNull r.userId),
    ("issue", textOrNull r.issue),
    ("protocol_version", .text r.protocolVersion),
    ("security_server", ofOption SecurityServer.json r.securityServer),
    ("security_token", textOrNull r.securityToken),
    ("security_token_type", textOrNull r.securityTokenType),
    ("request_hash", textOrNull r.requestHash),
    ("request_hash_algorithm", textOrNull r.requestHashAlgorithm),
    ("request_data", ofOption request r.requestData),
    ("response_data", ofOption response r.responseData),
    ("error_message", ofOption Fault.json r.fault),
    ("processing_wrappers", .bool r.wrapped),
    ("add_namespace_to_request", .bool r.qualifyRequest),
    ("add_namespace_to_response", .bool r.qualifyResponse),
    ("add_namespace_to_service_response", .bool r.qualifyRoot),
    ("force_namespace_to_response_children", .bool r.qualifyAll)]

end XRoad
