import XRoad.Xml.Query

/-!
# Paths

A path leads from an element to one below it, a step for each level.
-/

namespace XRoad.Xml

inductive Step where
  /-- The child element that has so many child elements before it. -/
  | nth (n : Nat)
  | named (name : String)
  deriving DecidableEq

/-- Changes the first child element that a step leads to, and counts off the others. -/
def Step.change? (f : Element → Option Element) : Step → List Node → Option (List Node)
  | _, [] => none
  | s, .text t :: rest => (change? f s rest).map (.text t :: ·)
  | .nth 0, .element tag cs :: rest => (f { tag, children := cs }).map (·.node :: rest)
  | .nth (n + 1), .element tag cs :: rest => (change? f (.nth n) rest).map (.element tag cs :: ·)
  | .named name, .element tag cs :: rest =>
    if tag.name == name then (f { tag, children := cs }).map (·.node :: rest)
    else (change? f (.named name) rest).map (.element tag cs :: ·)

namespace Element

def step? (e : Element) : Step → Option Element
  | .nth n => e.childElements[n]?
  | .named name => e.child? name

def at? (e : Element) : List Step → Option Element
  | [] => some e
  | s :: path => (e.step? s).bind (at? · path)

def changeAt? (f : Element → Option Element) : List Step → Element → Option Element
  | [], e => f e
  | s :: path, e => (s.change? (changeAt? f path) e.children).map fun cs => { e with children := cs }

end Element

end XRoad.Xml
