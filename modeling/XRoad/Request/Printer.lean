import XRoad.Request.Basic

/-!
# Writing requests

The body of a request is an element named after the service, and its content is written into that
element or into an element `request` in it.
-/

namespace XRoad

open Xml (Element)

abbrev RequestWriter (α : Type) := Request α → Element → Except String Element

namespace RequestWriter

variable {α : Type}

def nothing : RequestWriter α :=
  fun _ e => .ok e

def children : RequestWriter Element :=
  fun r e => .ok (e.push (r.data.elim [] (·.children)))

/-- An element filled with the content of a request, and qualified if the request asks for it. -/
def fill (w : RequestWriter α) (r : Request α) (e : Element) : Except WriteError Element :=
  match w r e with
  | .error reason => .error (.payload reason)
  | .ok e => .ok (e.qualifyIn (if r.qualifyRequest then r.producer.binding? else none))

/-- The element in the body of a request. Without content it stays empty. -/
def bodyElement (w : RequestWriter α) (r : Request α) : Except WriteError Element :=
  let rpc := Element.bound r.producer.binding? r.producer.serviceCode.text
  if r.data.isNone then .ok rpc
  else if r.wrapped then do
    let wrapper ← w.fill r (.named "request")
    .ok (rpc.pushChild wrapper)
  else w.fill r rpc

def write (w : RequestWriter α) (r : Request α) : Except WriteError Soap.Message := do
  let m ← r.header.writeTo .empty
  let rpc ← w.bodyElement r
  .ok (m.pushBody [rpc.node])

end RequestWriter

end XRoad
