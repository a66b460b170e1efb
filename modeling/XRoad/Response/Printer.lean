import XRoad.Fault.Element
import XRoad.Request.Reader
import XRoad.Response.Basic

/-!
# Writing responses

An answer repeats the header of its request. There is always an answer: when it cannot be written,
or when it is a SOAP fault, the message carries a fault instead.
-/

namespace XRoad

open Xml (Binding Element only?)

structure ResponseWriter (α β : Type) where
  content : Response α β → Element → Except String Element
  detail : DetailWriter := FaultDetail.write

namespace ResponseWriter

variable {α β : Type}

def child : ResponseWriter α Element where
  content r e := .ok (e.push (r.responseData.toList.map (·.node)))

def writeContent (w : ResponseWriter α β) (r : Response α β) (e : Element) :
    Except WriteError Element :=
  if r.responseData.isNone then .ok e
  else match w.content r e with
    | .error reason => .error (.payload reason)
    | .ok e => .ok e

/-- An element with the content of a response. Of an error only the element itself is qualified. -/
def fill (w : ResponseWriter α β) (r : Response α β) (binding : Option Binding) (e : Element) :
    Except WriteError Element :=
  match r.fault, if r.qualifyResponse then binding else none with
  | some f, b => .ok ((e.qualifyIn b).push f.answerNodes)
  | none, none => w.writeContent r e
  | none, some b =>
    if r.qualifyAll then do
      let e ← w.writeContent r e
      .ok (b.qualify e)
    else do
      let e ← w.writeContent r (b.qualify e)
      .ok (b.fill e)

def receivedWrapper? (request : Request α) (serviceCode : String) : Option Element := do
  let m ← request.received
  let rpc ← only? (Request.bodyRoots m none serviceCode)
  rpc.child? "request"

/-- The element `request` of an answer: a copy of the one received, or an empty one. -/
def requestWrapper (r : Response α β) (request : Request α) (serviceCode : String)
    (binding : Option Binding) : Element :=
  ((receivedWrapper? request serviceCode).getD (.named "request")).qualifyIn
    (if r.qualifyRequest then binding else none)

def producerOf (r : Response α β) (request : Request α) : Producer :=
  r.producer.getD request.producer

/-- A namespace is asked for, a prefix for it is known, but it is not. -/
def lacksNamespace (r : Response α β) (p : Producer) : Bool :=
  (r.qualifyRoot || r.qualifyRequest || r.qualifyResponse) && p.bodyPrefix.isSome &&
    p.binding?.isNone

def bodyElement (w : ResponseWriter α β) (r : Response α β) (request : Request α) :
    Except WriteError Element :=
  let p := producerOf r request
  let binding := p.binding?
  let rpc := Element.bound (if r.qualifyRoot then binding else none) p.responseName
  if r.wrapped then do
    let wrapper ← w.fill r binding (.named "response")
    .ok ((rpc.pushChild (requestWrapper r request p.serviceCode.text binding)).pushChild wrapper)
  else w.fill r binding rpc

/-- The message that an answer is written into: what was received without its body, or an empty
message with the header of the request. -/
def base (request : Request α) : Except WriteError Soap.Message :=
  match request.received with
  | some m => .ok m.withoutBody
  | none => request.header.writeTo .empty

def writeAnswer (w : ResponseWriter α β) (r : Response α β) (request : Request α) :
    Except WriteError Soap.Message :=
  if lacksNamespace r (producerOf r request) then .error .missingNamespaceUri
  else do
    let m ← base request
    let rpc ← w.bodyElement r request
    .ok (m.pushBody [rpc.node])

def writeAnswerTo (w : ResponseWriter α β) (r : Response α β) :
    Option (Request α) → Except WriteError Soap.Message
  | none => .error (.missing "Request")
  | some request => w.writeAnswer r request

def wrapLike (r : Response α β) : Option (Request α) → Response α β
  | none => r
  | some request => { r with wrapped := request.wrapped }

/-- Writes a response to a request, whose mode of wrapping it takes. The response comes back as it
was sent: when it could not be written, or there is no request, with an internal error. -/
def write (w : ResponseWriter α β) (r : Response α β) (request : Option (Request α)) :
    Response α β × Soap.Message :=
  let r := wrapLike r request
  match r.fault.filter Fault.isStandard with
  | some f => (r, f.toMessage w.detail)
  | none =>
    match w.writeAnswerTo r request with
    | .ok m => (r, m)
    | .error _ => ({ r with fault := some .internal }, Fault.internal.toMessage w.detail)

end ResponseWriter

end XRoad
