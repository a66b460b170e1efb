import XRoad.Fault.Basic
import XRoad.Soap.Message

/-!
# Faults as elements

A SOAP fault is the only content of a message. An error of a service stands among the content of
its answer. The names of both are found in any case.
-/

namespace XRoad

open Xml (Element Node only?)

/-! ### Writing -/

def optionalText (name : String) (text : Option String) : List Element :=
  text.toList.map (Element.withText name)

abbrev DetailWriter := FaultDetail → Element → Element

/-- A text as text, a table as an element for each key, a node as it is. -/
def FaultDetail.write : DetailWriter
  | .text s, e => e.pushText s
  | .table t, e => e.push (t.entries.map fun p => (Element.withText p.1 p.2).node)
  | .node n, e => e.pushChild n

namespace Fault

def element (writeDetail : DetailWriter) (f : Fault) : Element :=
  (Protocol.soap.element "Fault").push
    ((optionalText "faultcode" f.code ++ optionalText "faultstring" f.text ++
      optionalText "faultactor" f.actor ++
      f.detail.toList.map fun d => writeDetail d (.named "detail")).map (·.node))

def toMessage (writeDetail : DetailWriter) (f : Fault) : Soap.Message :=
  Soap.Message.empty.pushBody [(f.element writeDetail).node]

def answerNodes (f : Fault) : List Node :=
  (optionalText "faultcode" f.code ++ optionalText "faultstring" f.text).map (·.node)

/-! ### Reading -/

def childAnyCase? (e : Element) (name : String) : Option Element :=
  e.childElements.find? fun c => Text.sameLetters c.tag.name name

def textAnyCase? (e : Element) (name : String) : Option String :=
  (childAnyCase? e name).map fun c => Text.trim c.textContent

abbrev DetailReader := Element → Option FaultDetail

/-- A detail without child elements is its text. -/
def readDetail (reader : DetailReader) (e : Element) : Option FaultDetail :=
  if e.hasChildElements then reader e else some (.text e.textContent)

def ofElement (reader : DetailReader) (e : Element) : Fault :=
  .standard (textAnyCase? e "faultcode") (textAnyCase? e "faultstring")
    (textAnyCase? e "faultactor") ((childAnyCase? e "detail").bind (readDetail reader))

/-- The SOAP fault of a body: its only element of that name, at any depth. -/
def ofBody? (reader : DetailReader) (body : Element) : Option Fault :=
  (only? (body.find none "Fault")).map (ofElement reader)

/-- The error that an answer reports by a code or a text among its children. -/
def ofAnswer? (e : Element) : Option Fault :=
  match textAnyCase? e "faultcode", textAnyCase? e "faultstring" with
  | none, none => none
  | code, text => some (.nonTechnical code text)

end Fault

end XRoad
