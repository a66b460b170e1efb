/-!
# Elements

An element is a tag and its children; a child is an element or a run of text. A tag keeps the
namespace declarations that stand on it apart from its other attributes.
-/

namespace XRoad.Xml

/-- A name with its namespace. A name without a namespace prefix may stand in the default
namespace. -/
structure QName where
  nsPrefix : Option String := none
  nsUri : Option String := none
  name : String
  deriving DecidableEq, Inhabited

namespace QName

/-- A name in the default namespace when `nsPrefix` is empty. -/
def within (name nsPrefix nsUri : String) : QName where
  nsPrefix := if nsPrefix = "" then none else some nsPrefix
  nsUri := some nsUri
  name := name

def written (q : QName) : String :=
  match q.nsPrefix with
  | some p => p ++ ":" ++ q.name
  | none => q.name

/-- The namespace, `""` for none. -/
def uri (q : QName) : String :=
  q.nsUri.getD ""

/-- Has this local name and, when a namespace is given, lies in it; `""` stands for none. -/
def isNamed (nsUri : Option String) (name : String) (q : QName) : Bool :=
  q.name == name && match nsUri with
    | none => true
    | some u => q.uri == u

end QName

structure Attribute extends QName where
  value : String
  deriving DecidableEq, Inhabited

/-- Namespace prefixes with their namespaces, `""` for the default one, as they stand on a tag. -/
abbrev Declarations := List (String × String)

structure Tag extends QName where
  declarations : Declarations := []
  attributes : List Attribute := []
  deriving DecidableEq, Inhabited

/-- Changes the first member that `p` accepts, or adds `new` after the last. -/
def changeFirst {α : Type} (p : α → Bool) (f : α → α) (new : α) : List α → List α
  | [] => [new]
  | a :: rest => if p a then f a :: rest else a :: changeFirst p f new rest

/-- Declares a prefix, in place of an earlier declaration of it. -/
def Declarations.set (ds : Declarations) (nsPrefix nsUri : String) : Declarations :=
  changeFirst (·.1 == nsPrefix) (fun d => (d.1, nsUri)) (nsPrefix, nsUri) ds

namespace Tag

def named (name : String) : Tag :=
  { name }

def within (name nsPrefix nsUri : String) : Tag :=
  { QName.within name nsPrefix nsUri with }

def declare (t : Tag) (nsPrefix nsUri : String) : Tag :=
  { t with declarations := Declarations.set t.declarations nsPrefix nsUri }

def attribute? (t : Tag) (name : String) : Option String :=
  (t.attributes.find? fun a => a.nsUri.isNone && a.name == name).map (·.value)

def attributeIn? (t : Tag) (nsUri name : String) : Option String :=
  (t.attributes.find? fun a => a.nsUri == some nsUri && a.name == name).map (·.value)

def setAttribute (t : Tag) (name value : String) : Tag :=
  let here (a : Attribute) : Bool := a.nsUri.isNone && a.name == name
  let change (a : Attribute) : Attribute := { a with value := value }
  let new : Attribute := { name := name, value := value }
  { t with attributes := changeFirst here change new t.attributes }

def setAttributeIn (t : Tag) (nsPrefix nsUri name value : String) : Tag :=
  let here (a : Attribute) : Bool := a.nsUri == some nsUri && a.name == name
  let change (a : Attribute) : Attribute := { a with nsPrefix := some nsPrefix, value := value }
  let new : Attribute := { nsPrefix := some nsPrefix, nsUri := some nsUri, name := name, value := value }
  { t with attributes := changeFirst here change new t.attributes }

end Tag

inductive Node where
  | text (content : String)
  | element (tag : Tag) (children : List Node)

structure Element where
  tag : Tag
  children : List Node := []

instance : Inhabited Node := ⟨.text ""⟩
instance : Inhabited Element := ⟨{ tag := .named "" }⟩

namespace Node

/-- What holds of texts, and of an element when it holds of its children, holds of every node. -/
@[elab_as_elim]
theorem induction {P : Node → Prop} (text : ∀ s, P (.text s))
    (element : ∀ t cs, (∀ c ∈ cs, P c) → P (.element t cs)) : ∀ n, P n
  | .text s => text s
  | .element t cs => element t cs fun c m =>
    have : sizeOf c < sizeOf cs := List.sizeOf_lt_of_mem m
    induction text element c
termination_by n => sizeOf n

mutual

def decEq : (a b : Node) → Decidable (a = b)
  | .text s, .text t => if h : s = t then isTrue (h ▸ rfl) else isFalse (by simp [h])
  | .text _, .element .. => isFalse (by simp)
  | .element .., .text _ => isFalse (by simp)
  | .element t cs, .element u ds =>
    if h : t = u then
      match decEqList cs ds with
      | isTrue h' => isTrue (by rw [h, h'])
      | isFalse h' => isFalse (by simp [h'])
    else isFalse (by simp [h])

def decEqList : (as bs : List Node) → Decidable (as = bs)
  | [], [] => isTrue rfl
  | [], _ :: _ => isFalse (by simp)
  | _ :: _, [] => isFalse (by simp)
  | a :: as, b :: bs =>
    match decEq a b, decEqList as bs with
    | isTrue h, isTrue h' => isTrue (by rw [h, h'])
    | isFalse h, _ => isFalse (by simp [h])
    | _, isFalse h => isFalse (by simp [h])

end

instance : DecidableEq Node := decEq

def element? : Node → Option Element
  | .text _ => none
  | .element tag children => some { tag, children }

def isElement (n : Node) : Bool :=
  n.element?.isSome

end Node

instance : DecidableEq Element := fun a b =>
  decidable_of_iff (a.tag = b.tag ∧ a.children = b.children)
    ⟨fun h => by cases a; cases b; simp_all, fun h => h ▸ ⟨rfl, rfl⟩⟩

namespace Element

def node (e : Element) : Node :=
  .element e.tag e.children

def named (name : String) : Element :=
  { tag := .named name }

def within (name nsPrefix nsUri : String) : Element :=
  { tag := .within name nsPrefix nsUri }

def push (e : Element) (ns : List Node) : Element :=
  { e with children := e.children ++ ns }

def pushChild (e child : Element) : Element :=
  e.push [child.node]

end Element

/-- Adds text at the end, as part of the last node when that is a text. -/
def appendText (s : String) : List Node → List Node
  | [] => [.text s]
  | [.text t] => [.text (t ++ s)]
  | n :: rest => n :: appendText s rest

namespace Element

def pushText (e : Element) (s : String) : Element :=
  { e with children := appendText s e.children }

def withText (name text : String) : Element :=
  { tag := .named name, children := [.text text] }

def childElements (e : Element) : List Element :=
  e.children.filterMap Node.element?

def hasChildElements (e : Element) : Bool :=
  e.children.any Node.isElement

def child? (e : Element) (name : String) : Option Element :=
  e.childElements.find? (·.tag.name == name)

def childIn? (e : Element) (nsUri name : String) : Option Element :=
  e.childElements.find? (·.tag.isNamed (some nsUri) name)

end Element

end XRoad.Xml
