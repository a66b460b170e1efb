import XRoad.Text.Blank
import XRoad.Xml.Attributes
import XRoad.Xml.Query
import XRoad.Xml.Scope

/-!
# Reading a document

The tree that the tokens of a document build. Reading keeps the open elements and the scope of
their declarations; each token takes it one step on, and the first step that fails is the error of
the whole document.
-/

namespace XRoad.Xml

open Text (Raw)

/-- A written name at its first colon. -/
def splitName (name : String) : Option String × String :=
  let cs := name.toList
  match cs.dropWhile (· != ':') with
  | _ :: localName => (some (String.ofList (cs.takeWhile (· != ':'))), String.ofList localName)
  | [] => (none, name)

def declaredPrefix? (key : String) : Option String :=
  if key = "xmlns" then some ""
  else if "xmlns:".toList.isPrefixOf key.toList then some (String.ofList (key.toList.drop 6))
  else none

def Declarations.ofAttributes (attributes : List (String × String)) : Declarations :=
  attributes.filterMap fun a => (declaredPrefix? a.1).map (·, a.2)

def Scope.require (scope : Scope) (nsPrefix : String) : Except Error String :=
  match scope.resolve? nsPrefix with
  | some uri => .ok uri
  | none => .error (.unboundPrefix nsPrefix)

/-- The name of an element: without a prefix it lies in the default namespace. -/
def Scope.elementName (scope : Scope) (written : String) : Except Error QName :=
  match splitName written with
  | (some p, name) => do
    let uri ← scope.require p
    .ok { nsPrefix := some p, nsUri := some uri, name := name }
  | (none, name) => .ok { nsUri := scope.resolve? "", name := name }

/-- The name of an attribute: without a prefix it has no namespace. -/
def Scope.attributeName (scope : Scope) (written : String) : Except Error QName :=
  match splitName written with
  | (some p, name) => do
    let uri ← scope.require p
    .ok { nsPrefix := some p, nsUri := some uri, name := name }
  | (none, name) => .ok { name := name }

def Scope.tag (scope : Scope) (name attributes : Raw) : Except Error Tag := do
  let written ← Attributes.list [] attributes
  let declarations := Declarations.ofAttributes written
  let inner : Scope := declarations :: scope
  let name ← Attributes.text name
  let qname ← inner.elementName name
  let attributes ← (written.filter fun a => (declaredPrefix? a.1).isNone).mapM fun a => do
    let q ← inner.attributeName a.1
    .ok { q with value := a.2 : Attribute }
  .ok { qname with declarations := declarations, attributes := attributes : Tag }

def referenceText (name : Raw) : Except Error String :=
  match name with
  | some '#' :: digits => do
    let digits ← Attributes.text digits
    match characterReference? digits.toList with
    | some c => .ok (String.ofList [c])
    | none => .error (.encoding "not a character reference")
  | _ => do
    let name ← Attributes.text name
    match entity? name.toList with
    | some c => .ok (String.ofList [c])
    | none => .error (.unknownEntity name)

/-- Drops the blank texts of an element that has child elements. -/
def Element.dropLayout (e : Element) : Element :=
  let isLayout : Node → Bool
    | .text s => Text.isBlank s
    | .element .. => false
  if e.hasChildElements then { e with children := e.children.filter (!isLayout ·) } else e

structure Reading where
  /-- The open elements, innermost first. -/
  opened : List Element := []
  scope : Scope := []
  root : Option Element := none

namespace Reading

def close (r : Reading) (e : Element) : Except Error Reading :=
  let e := e.dropLayout
  match r.opened, r.root with
  | parent :: outer, _ => .ok { r with opened := parent.pushChild e :: outer }
  | [], none => .ok { r with root := some e }
  | [], some _ => .error (.multipleRoots e.tag.written)

/-- Adds text to the innermost open element; outside the root it is not even looked at. -/
def addText (r : Reading) (text : Except Error String) : Except Error Reading :=
  match r.opened with
  | [] => .ok r
  | e :: outer => do
    let s ← text
    .ok { r with opened := e.pushText s :: outer }

def step (r : Reading) : Token → Except Error Reading
  | .startTag name attributes => do
    let tag ← r.scope.tag name attributes
    .ok { r with opened := { tag := tag } :: r.opened, scope := tag.declarations :: r.scope }
  | .emptyTag name attributes => do
    let tag ← r.scope.tag name attributes
    r.close { tag := tag }
  | .endTag name =>
    match r.opened with
    | [] => .error (.unexpectedEnd name.lossy)
    | e :: outer => close { r with opened := outer, scope := r.scope.tail } e
  | .text content => r.addText (Attributes.text content)
  | .cdata content => r.addText (Attributes.text content)
  | .reference name => r.addText (referenceText name)
  | .aside => .ok r
  | .malformed reason => .error (.malformed reason)

def run (r : Reading) (tokens : List Token) : Except Error Reading :=
  tokens.foldlM step r

def finish (r : Reading) : Except Error Element :=
  match r.opened, r.root with
  | e :: _, _ => .error (.unclosed e.tag.written)
  | [], some root => .ok root
  | [], none => .error .noRoot

end Reading

def Element.ofTokens (tokens : List Token) : Except Error Element := do
  let r ← ({} : Reading).run tokens
  r.finish

def Element.parse (bytes : List UInt8) : Except Error Element :=
  Element.ofTokens (Token.ofBytes bytes)

end XRoad.Xml
