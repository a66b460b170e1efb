import XRoad.Fault.Element
import XRoad.Request.Reader
import XRoad.Response.Basic

/-!
# Reading responses

A message is an answer when its body has one element named after the service, and else perhaps a
SOAP fault. An answer holds an error of the service or content.
-/

namespace XRoad

open Xml (Element only?)

structure ResponseReader (α β : Type) where
  /-- Reads the repeated request, if it is wanted. -/
  request : Option (ContentReader α) := none
  response : ContentReader β
  /-- Reads a fault detail that has child elements. -/
  detail : Fault.DetailReader := fun _ => none
  /-- Empty elements are read too, and errors of the service are not looked for. -/
  metaService : Bool := false

namespace ResponseReader

variable {α β : Type}

def headerOf (m : Soap.Message) : Header :=
  match m.header.filter (·.hasChildElements) with
  | some e => Header.readLenient e
  | none => {}

/-- The only element in the body, at any depth, that is named after the service. -/
def answer? (service : Option Service) (expected : Option String) (m : Soap.Message) :
    Option Element :=
  service.bind fun s => only? (m.body.find (expectedUri? expected) s.responseName)

def readContent {γ : Type} (r : ResponseReader α β) (reader : ContentReader γ) (e : Element)
    (m : Soap.Message) : Except ReadError (Option γ) :=
  if r.metaService then (reader.read e m).map some else reader.readChildren e m

def readRequest (r : ResponseReader α β) (wrapped : Bool) (rpc : Element) (m : Soap.Message) :
    Except ReadError (Option α) :=
  match wrapped, r.request, rpc.child? "request" with
  | true, some reader, some e => r.readContent reader e m
  | _, _, _ => .ok none

inductive Outcome (β : Type) where
  | fault (f : Fault)
  | content (data : Option β)

def Outcome.fault? : Outcome β → Option Fault
  | .fault f => some f
  | .content _ => none

def Outcome.data? : Outcome β → Option β
  | .fault _ => none
  | .content data => data

def readOutcome (r : ResponseReader α β) (e : Element) (m : Soap.Message) :
    Except ReadError (Outcome β) :=
  match if r.metaService then none else Fault.ofAnswer? e with
  | some f => .ok (.fault f)
  | none => (r.readContent r.response e m).map .content

def read (r : ResponseReader α β) (expected : Option String) (wrapped : Bool) (m : Soap.Message) :
    Except ReadError (Response α β) :=
  let h := headerOf m
  let base : Response α β := { Response.ofHeader h with wrapped, received := some m }
  match answer? h.service expected m with
  | none => .ok { base with fault := Fault.ofBody? r.detail m.body }
  | some rpc => do
    let requestData ← r.readRequest wrapped rpc m
    let outcome ← match Request.contentOf? wrapped "response" rpc with
      | none => .ok (.content none)
      | some e => r.readOutcome e m
    .ok { base with
      producer := base.producer.map (·.observed rpc.tag.toQName)
      requestData
      responseData := outcome.data?
      fault := outcome.fault? }

def parse (r : ResponseReader α β) (expected : Option String) (wrapped : Bool)
    (bytes : List UInt8) : Except ReadError (Response α β) :=
  match Soap.Message.parse bytes with
  | .error cause => .error (.xml cause)
  | .ok m => r.read expected wrapped m

end ResponseReader

end XRoad
