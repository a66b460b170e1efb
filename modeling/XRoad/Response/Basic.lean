import XRoad.Fault.Basic
import XRoad.Request.Basic

/-!
# Responses

An answer to a request, with content or with a fault.
-/

namespace XRoad

structure Response (α β : Type) where
  consumer : Option Consumer := none
  producer : Option Producer := none
  id : Option String := none
  userId : Option String := none
  issue : Option String := none
  protocolVersion : String := Protocol.version
  securityServer : Option SecurityServer := none
  securityToken : Option String := none
  securityTokenType : Option String := none
  requestHash : Option String := none
  requestHashAlgorithm : Option String := none
  requestData : Option α := none
  responseData : Option β := none
  fault : Option Fault := none
  wrapped : Bool := false
  qualifyRequest : Bool := true
  /-- The content takes the namespace of the body. -/
  qualifyResponse : Bool := true
  /-- The element in the body takes the namespace. -/
  qualifyRoot : Bool := true
  /-- Content that has a namespace of its own takes that of the body all the same. -/
  qualifyAll : Bool := true
  received : Option Soap.Message := none

namespace Response

variable {α β : Type}

def ofRequest (r : Request α) : Response α β :=
  { consumer := some r.consumer
    producer := some r.producer
    id := some r.id
    userId := r.userId
    issue := r.issue
    protocolVersion := r.protocolVersion
    securityServer := r.securityServer
    securityToken := r.securityToken
    securityTokenType := r.securityTokenType
    wrapped := r.wrapped
    qualifyRequest := r.qualifyRequest }

def header (r : Response α β) : Header :=
  { consumer := r.consumer
    service := r.producer.map (·.toService)
    securityServer := r.securityServer
    id := r.id
    userId := r.userId
    issue := r.issue
    protocolVersion := some r.protocolVersion
    requestHash := r.requestHash
    requestHashAlgorithm := r.requestHashAlgorithm
    securityToken := r.securityToken
    securityTokenType := r.securityTokenType }

def ofHeader (h : Header) : Response α β :=
  { consumer := h.consumer
    producer := h.service.map .ofService
    id := h.id
    userId := h.userId
    issue := h.issue
    protocolVersion := h.protocolVersion.getD Protocol.version
    securityServer := h.securityServer
    securityToken := h.securityToken
    securityTokenType := h.securityTokenType
    requestHash := h.requestHash
    requestHashAlgorithm := h.requestHashAlgorithm }

end Response

def Service.responseName (s : Service) : String :=
  s.serviceCode.text ++ "Response"

end XRoad
