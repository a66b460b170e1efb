import XRoad.Xml.Tree

/-!
# Namespace scopes

Which namespace a prefix stands for inside some open elements. The nearest declaration counts, and
of two on one tag the later one; an empty namespace takes a prefix out of use.
-/

namespace XRoad.Xml

/-- The namespace of the prefix `xml`, which needs no declaration. -/
def xmlUri : String :=
  "http://www.w3.org/XML/1998/namespace"

def Declarations.uri? (ds : Declarations) (nsPrefix : String) : Option String :=
  (ds.reverse.find? (·.1 == nsPrefix)).map (·.2)

/-- The declarations of the open elements, innermost first. -/
abbrev Scope := List Declarations

namespace Scope

/-- The namespace that the nearest declaration gives, `""` included. -/
def declared? (scope : Scope) (nsPrefix : String) : Option String :=
  scope.findSome? (Declarations.uri? · nsPrefix)

/-- The namespace that a prefix stands for, `""` for the default one. -/
def resolve? (scope : Scope) (nsPrefix : String) : Option String :=
  match scope.declared? nsPrefix with
  | some uri => if uri = "" then none else some uri
  | none => if nsPrefix = "xml" then some xmlUri else none

end Scope

end XRoad.Xml
