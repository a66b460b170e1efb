import XRoad.Response.Reader

/-!
# Meta services

The answers of the services that tell about a network: its methods, the measurements of a security
server, its clients and the central services.
-/

namespace XRoad

open Xml (Element)

/-- The methods of a list, in document order. Those that cannot be read are left out. -/
def methodsOf (body : Element) : List Service :=
  (body.find (some Protocol.header.nsUri) "service").filterMap fun e =>
    (Service.ofElement e).toOption

/-- The measurements of a security server, those inside others included. -/
def metricSetsOf (body : Element) : List Element :=
  body.find (some Protocol.monitoring.nsUri) "metricSet"

def methodList : ResponseReader Unit (List Service) where
  response _ m := .ok (methodsOf m.body)
  metaService := true

def metrics : ResponseReader Unit (List Element) where
  response _ m := .ok (metricSetsOf m.body)
  metaService := true

def childText? (e : Element) (name : String) : Option String :=
  (e.child? name).map (·.textContent)

/-- The name and the version of a package that belongs to the network's own software. -/
def packageVersion? (metric : Element) : Option (String × String) :=
  ((childText? metric "name").filter ("xroad-".toList.isPrefixOf ·.toList)).map fun name =>
    (name, (childText? metric "value").getD "")

def packageVersions (set : Element) : List (String × String) :=
  if childText? set "name" = some "Packages" then
    (set.childElements.filter (·.tag.name == "stringMetric")).filterMap packageVersion?
  else []

def versionTable (sets : List Element) : Table String :=
  Table.ofList (sets.flatMap packageVersions)

def versionsOf (r : Response Unit (List Element)) : Table String :=
  versionTable (r.responseData.getD [])

def parseList (bytes : List UInt8) : Except ReadError Element :=
  match Element.parse bytes with
  | .error cause => .error (.xml cause)
  | .ok e => .ok e

def parseClients (bytes : List UInt8) : Except ReadError (List Consumer) := do
  let root ← parseList bytes
  (root.find (some Protocol.header.nsUri) "member").mapM fun e =>
    Consumer.ofElement ((e.childIn? Protocol.header.nsUri "id").getD e)

def parseCentralServices (bytes : List UInt8) : Except ReadError (List Service) := do
  let root ← parseList bytes
  (root.find (some Protocol.header.nsUri) "centralService").mapM Service.ofElement

end XRoad
