import XRoad.Header.Basic

/-!
# Requests

A request for a service, with its content and with the message that it was read from.
-/

namespace XRoad

structure Request (α : Type) where
  consumer : Consumer
  producer : Producer
  id : String
  userId : Option String := none
  issue : Option String := none
  protocolVersion : String := Protocol.version
  securityServer : Option SecurityServer := none
  securityToken : Option String := none
  securityTokenType : Option String := none
  data : Option α := none
  /-- The content stands in an element `request` of its own. -/
  wrapped : Bool := false
  /-- The content takes the namespace of the body. -/
  qualifyRequest : Bool := true
  received : Option Soap.Message := none

def Request.header {α : Type} (r : Request α) : Header :=
  { consumer := some r.consumer
    service := some r.producer.toService
    securityServer := r.securityServer
    id := some r.id
    userId := r.userId
    issue := r.issue
    protocolVersion := some r.protocolVersion
    securityToken := r.securityToken
    securityTokenType := r.securityTokenType }

end XRoad
