import XRoad.Xml.Tree

/-!
# Searching a tree

The elements below an element in document order, and the text below it.
-/

namespace XRoad.Xml

namespace Node

mutual

/-- The node when it is an element, then every element below it, in document order. -/
def elements : Node → List Element
  | .text _ => []
  | .element tag children => { tag, children } :: elementsAll children

def elementsAll : List Node → List Element
  | [] => []
  | n :: rest => elements n ++ elementsAll rest

end

mutual

def content : Node → String
  | .text s => s
  | .element _ children => contentAll children

def contentAll : List Node → String
  | [] => ""
  | n :: rest => content n ++ contentAll rest

end

theorem elementsAll_eq (ns : List Node) : elementsAll ns = ns.flatMap elements := by
  induction ns with
  | nil => rfl
  | cons n rest ih => rw [elementsAll, ih, List.flatMap_cons]

end Node

namespace Element

def descendants (e : Element) : List Element :=
  Node.elementsAll e.children

def find (e : Element) (nsUri : Option String) (name : String) : List Element :=
  e.descendants.filter (·.tag.isNamed nsUri name)

def textContent (e : Element) : String :=
  Node.contentAll e.children

end Element

def only? {α : Type} : List α → Option α
  | [a] => some a
  | _ => none

theorem only?_eq_some_iff {α : Type} {as : List α} {a : α} : only? as = some a ↔ as = [a] := by
  match as with
  | [] => simp [only?]
  | [b] => simp [only?]
  | _ :: _ :: _ => simp [only?]

end XRoad.Xml
