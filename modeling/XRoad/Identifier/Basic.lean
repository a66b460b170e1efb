import XRoad.Text.Blank
import XRoad.Text.Case

/-!
# Parts of identifiers

An identifier is made of codes, which are never empty, and has an object type.
-/

namespace XRoad

/-- A text that is not empty. -/
structure Code where
  text : String
  ne_empty : text ≠ ""

instance : DecidableEq Code := fun a b =>
  decidable_of_iff (a.text = b.text) ⟨fun h => by cases a; cases b; simp_all, fun h => h ▸ rfl⟩

def Code.of? (text : String) : Option Code :=
  if h : text = "" then none else some ⟨text, h⟩

theorem Code.of?_text (c : Code) : Code.of? c.text = some c := by
  rw [Code.of?, dif_neg c.ne_empty]

inductive ObjectType where
  | member
  | subsystem
  | service
  | centralService
  | server
  deriving DecidableEq

inductive IdentifierError where
  | missingField (name : String)
  | unknownObjectType (text : String)
  deriving DecidableEq

def IdentifierError.message : IdentifierError → String
  | .missingField name => "\"" ++ name ++ "\" can't be null or empty."
  | .unknownObjectType text => "Unknown object type: " ++ text

namespace ObjectType

def name : ObjectType → String
  | .member => "MEMBER"
  | .subsystem => "SUBSYSTEM"
  | .service => "SERVICE"
  | .centralService => "CENTRALSERVICE"
  | .server => "SERVER"

def all : List ObjectType :=
  [.member, .subsystem, .service, .centralService, .server]

/-- The type that a text names in any case, blank characters around it aside. -/
def ofText (text : String) : Except IdentifierError ObjectType :=
  match all.find? (·.name == Text.upper (Text.trim text)) with
  | some t => .ok t
  | none => .error (.unknownObjectType text)

end ObjectType

/-! ### The names of the parts -/

namespace Part

def xRoadInstance : String := "xRoadInstance"

def memberClass : String := "memberClass"

def memberCode : String := "memberCode"

def subsystemCode : String := "subsystemCode"

def serviceCode : String := "serviceCode"

def serviceVersion : String := "serviceVersion"

def serverCode : String := "serverCode"

end Part

def Code.required (part text : String) : Except IdentifierError Code :=
  match Code.of? text with
  | some c => .ok c
  | none => .error (.missingField part)

end XRoad
