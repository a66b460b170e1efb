import XRoad.Identifier.Member
import XRoad.Xml.Binding

/-!
# Services

A service belongs to a member, or it is a central service, which has no owner. A producer is a
service together with the namespace in which the bodies of its messages are written.
-/

namespace XRoad

structure Owner where
  memberClass : Code
  memberCode : Code
  deriving DecidableEq

structure Service where
  xRoadInstance : Code
  owner : Option Owner
  subsystem : Option Code := none
  serviceCode : Code
  version : Option Code := none
  deriving DecidableEq

namespace Service

def objectType (s : Service) : ObjectType :=
  if s.owner.isSome then .service else .centralService

def memberClass (s : Service) : Option Code :=
  s.owner.map (·.memberClass)

def memberCode (s : Service) : Option Code :=
  s.owner.map (·.memberCode)

def parts (s : Service) : List Code :=
  [s.xRoadInstance] ++ s.memberClass.toList ++ s.memberCode.toList ++ s.subsystem.toList ++
    [s.serviceCode] ++ s.version.toList

def text (s : Service) : String :=
  joinParts s.parts

def owned (xRoadInstance memberClass memberCode serviceCode : String) :
    Except IdentifierError Service := do
  let member ← Member.build xRoadInstance memberClass memberCode
  let serviceCode ← Code.required Part.serviceCode serviceCode
  .ok {
    xRoadInstance := member.xRoadInstance
    owner := some ⟨member.memberClass, member.memberCode⟩
    serviceCode }

def central (xRoadInstance serviceCode : String) : Except IdentifierError Service := do
  let xRoadInstance ← Code.required Part.xRoadInstance xRoadInstance
  let serviceCode ← Code.required Part.serviceCode serviceCode
  .ok { xRoadInstance, owner := none, serviceCode }

def withSubsystem (s : Service) (subsystemCode : String) : Except IdentifierError Service := do
  let subsystem ← Code.required Part.subsystemCode subsystemCode
  .ok { s with subsystem := some subsystem }

def withVersion (s : Service) (version : String) : Except IdentifierError Service := do
  let version ← Code.required Part.serviceVersion version
  .ok { s with version := some version }

/-- Sets the subsystem, an empty one as none. -/
def setSubsystem (s : Service) (subsystemCode : Option String) : Service :=
  { s with subsystem := subsystemCode.bind Code.of? }

/-- Sets the version, an empty one as none. -/
def setVersion (s : Service) (version : Option String) : Service :=
  { s with version := version.bind Code.of? }

end Service

/-- Without a prefix bodies have no namespace; the empty prefix asks for the default namespace. -/
structure Producer extends Service where
  bodyPrefix : Option String := none
  bodyUri : Option String := none
  deriving DecidableEq

namespace Producer

def ofService (s : Service) : Producer :=
  { s with }

/-- The namespace of bodies, if there is one: a prefix and a URI that is not empty. -/
def binding? (p : Producer) : Option Xml.Binding :=
  match p.bodyPrefix, p.bodyUri with
  | some nsPrefix, some nsUri => if nsUri = "" then none else some { nsPrefix, nsUri }
  | _, _ => none

def observed (p : Producer) (q : Xml.QName) : Producer :=
  { p with bodyPrefix := q.nsUri.map fun _ => q.nsPrefix.getD "", bodyUri := q.nsUri }

end Producer

end XRoad
