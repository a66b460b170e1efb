import XRoad.Xml.Binding

/-!
# The message protocol

Its namespaces, each with the prefix that it is written under, and its version.
-/

namespace XRoad.Protocol

open Xml (Binding)

def soap : Binding := ⟨"SOAP-ENV", "http://schemas.xmlsoap.org/soap/envelope/"⟩

def identifiers : Binding := ⟨"id", "http://x-road.eu/xsd/identifiers"⟩

def header : Binding := ⟨"xrd", "http://x-road.eu/xsd/xroad.xsd"⟩

def securityToken : Binding := ⟨"extsec", "http://x-road.eu/xsd/security-token.xsd"⟩

def monitoring : Binding := ⟨"m", "http://x-road.eu/xsd/monitoring"⟩

/-- The version that is meant when none is given. -/
def version : String := "4.0"

end XRoad.Protocol
