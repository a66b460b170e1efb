import XRoad.Identifier.Basic

/-!
# Members

Organisations, the subsystems of theirs that call services, and their security servers.
-/

namespace XRoad

def joinParts (parts : List Code) : String :=
  ".".intercalate (parts.map (·.text))

structure Member where
  xRoadInstance : Code
  memberClass : Code
  memberCode : Code
  deriving DecidableEq

namespace Member

def build (xRoadInstance memberClass memberCode : String) : Except IdentifierError Member := do
  let xRoadInstance ← Code.required Part.xRoadInstance xRoadInstance
  let memberClass ← Code.required Part.memberClass memberClass
  let memberCode ← Code.required Part.memberCode memberCode
  .ok { xRoadInstance, memberClass, memberCode }

def parts (m : Member) : List Code :=
  [m.xRoadInstance, m.memberClass, m.memberCode]

end Member

/-- Who calls a service: a member, or one of its subsystems. -/
structure Consumer extends Member where
  subsystem : Option Code := none
  deriving DecidableEq

namespace Consumer

def objectType (c : Consumer) : ObjectType :=
  if c.subsystem.isSome then .subsystem else .member

def parts (c : Consumer) : List Code :=
  c.toMember.parts ++ c.subsystem.toList

def text (c : Consumer) : String :=
  joinParts c.parts

def member (xRoadInstance memberClass memberCode : String) : Except IdentifierError Consumer := do
  let member ← Member.build xRoadInstance memberClass memberCode
  .ok { member with }

def ofSubsystem (xRoadInstance memberClass memberCode subsystemCode : String) :
    Except IdentifierError Consumer := do
  let member ← Member.build xRoadInstance memberClass memberCode
  let subsystem ← Code.required Part.subsystemCode subsystemCode
  .ok { member with subsystem := some subsystem }

/-- A consumer whose subsystem may be missing or empty. -/
def build (xRoadInstance memberClass memberCode : String) (subsystemCode : Option String) :
    Except IdentifierError Consumer := do
  let member ← Member.build xRoadInstance memberClass memberCode
  .ok { member with subsystem := subsystemCode.bind Code.of? }

end Consumer

structure SecurityServer extends Member where
  serverCode : Code
  deriving DecidableEq

namespace SecurityServer

def objectType (_ : SecurityServer) : ObjectType :=
  .server

def parts (s : SecurityServer) : List Code :=
  s.toMember.parts ++ [s.serverCode]

def text (s : SecurityServer) : String :=
  joinParts s.parts

def build (xRoadInstance memberClass memberCode serverCode : String) :
    Except IdentifierError SecurityServer := do
  let member ← Member.build xRoadInstance memberClass memberCode
  let serverCode ← Code.required Part.serverCode serverCode
  .ok { member with serverCode }

end SecurityServer

end XRoad
