import XRoad.Xml.Namespace

/-!
# Bindings

A prefix with the namespace that it is bound to, and elements that are written under it.
-/

namespace XRoad.Xml

structure Binding where
  nsPrefix : String
  nsUri : String
  deriving DecidableEq

namespace Binding

def element (b : Binding) (name : String) : Element :=
  .within name b.nsPrefix b.nsUri

def textElement (b : Binding) (name text : String) : Element :=
  (b.element name).pushText text

def setAttribute (b : Binding) (name value : String) (e : Element) : Element :=
  { e with tag := e.tag.setAttributeIn b.nsPrefix b.nsUri name value }

def declare (b : Binding) (t : Tag) : Tag :=
  t.declare b.nsPrefix b.nsUri

def qualify (b : Binding) (e : Element) : Element :=
  e.applyNamespace b.nsUri (some b.nsPrefix)

/-- Puts the elements of a subtree that have no namespace in this one. -/
def fill (b : Binding) (e : Element) : Element :=
  e.fillNamespace b.nsUri (some b.nsPrefix)

end Binding

def Element.bound (binding : Option Binding) (name : String) : Element :=
  match binding with
  | some b => b.element name
  | none => .named name

def Element.qualifyIn (binding : Option Binding) (e : Element) : Element :=
  match binding with
  | some b => b.qualify e
  | none => e

end XRoad.Xml
