import XRoad.Xml.Escape
import XRoad.Text.Utf8
import XRoad.Xml.Scope

/-!
# Writing a tree

A tag is written with its own declarations. Where the scope does not bind a prefix of the tag or of
one of its attributes as the tree says, the tag is given the declaration that it lacks.
-/

namespace XRoad.Xml

/-- The scope already gives a prefix this namespace; without a default namespace it gives `""`. -/
def Scope.binds (scope : Scope) (nsPrefix nsUri : String) : Bool :=
  if nsPrefix = "" then (scope.declared? "").getD "" == nsUri
  else scope.declared? nsPrefix == some nsUri

/-- The declarations of a tag after it has been made to bind one prefix. -/
def Declarations.bind (scope : Scope) (nsPrefix nsUri : String) (ds : Declarations) : Declarations :=
  if nsPrefix = "xml" ∨ (nsPrefix ≠ "" ∧ nsUri = "") then ds
  else if Scope.binds (ds :: scope) nsPrefix nsUri then ds
  else ds.set nsPrefix nsUri

def Declarations.bindAttribute (scope : Scope) (ds : Declarations) (a : Attribute) : Declarations :=
  match a.nsPrefix, a.nsUri with
  | some p, some u => ds.bind scope p u
  | _, _ => ds

def Tag.writtenDeclarations (scope : Scope) (t : Tag) : Declarations :=
  t.attributes.foldl (Declarations.bindAttribute scope)
    (t.declarations.bind scope (t.nsPrefix.getD "") t.uri)

def writeAttribute (name value : String) : List Char :=
  ' ' :: name.toList ++ "=\"".toList ++ escapeValue value.toList ++ ['"']

def writeDeclaration (d : String × String) : List Char :=
  writeAttribute (if d.1 = "" then "xmlns" else "xmlns:" ++ d.1) d.2

/-- A start tag up to its last character, with these declarations. -/
def Tag.write (t : Tag) (declarations : Declarations) : List Char :=
  '<' :: t.written.toList ++ declarations.flatMap writeDeclaration ++
    t.attributes.flatMap fun a => writeAttribute a.written a.value

namespace Node

/-- The node leaves a trace between the tags of its parent. -/
def isVisible : Node → Bool
  | .text s => s != ""
  | .element .. => true

mutual

def write (scope : Scope) : Node → List Char
  | .text s => escapeContent s.toList
  | .element tag children =>
    let declarations := tag.writtenDeclarations scope
    tag.write declarations ++
      if children.any isVisible then
        '>' :: writeAll (declarations :: scope) children ++ "</".toList ++ tag.written.toList ++ ['>']
      else "/>".toList

def writeAll (scope : Scope) : List Node → List Char
  | [] => []
  | n :: rest => write scope n ++ writeAll scope rest

end

end Node

def Element.toXml (e : Element) : String :=
  String.ofList (e.node.write [])

def Element.toBytes (e : Element) : List UInt8 :=
  Text.Utf8.encode (e.node.write [])

end XRoad.Xml
