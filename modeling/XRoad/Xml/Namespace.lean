import XRoad.Xml.Query

/-!
# Moving subtrees between namespaces

Each operation changes every tag of a subtree by the same rule and leaves names, attributes, text
and order alone. `qualify` puts all of it in a namespace, `adopt` and `fill` only what has none,
`strip` takes all of it out.
-/

namespace XRoad.Xml

namespace Node

mutual

def mapTags (f : Tag → Tag) : Node → Node
  | .text s => .text s
  | .element tag children => .element (f tag) (mapTagsAll f children)

def mapTagsAll (f : Tag → Tag) : List Node → List Node
  | [] => []
  | n :: rest => mapTags f n :: mapTagsAll f rest

end

theorem mapTagsAll_eq (f : Tag → Tag) (ns : List Node) : mapTagsAll f ns = ns.map (mapTags f) := by
  induction ns with
  | nil => rfl
  | cons n rest ih => rw [mapTagsAll, ih, List.map_cons]

end Node

namespace Tag

def nonEmpty? (nsPrefix : Option String) : Option String :=
  nsPrefix.filter (· ≠ "")

theorem nonEmpty?_eq_some_iff {nsPrefix : Option String} {p : String} :
    nonEmpty? nsPrefix = some p ↔ nsPrefix = some p ∧ p ≠ "" := by
  rw [nonEmpty?, Option.filter_eq_some_iff, decide_eq_true_iff]

theorem nonEmpty?_some (p : String) : nonEmpty? (some p) = if p = "" then none else some p := by
  rw [nonEmpty?, Option.filter_some]
  by_cases empty : p = "" <;> simp [empty]

theorem nonEmpty?_eq (p : Option String) : nonEmpty? p = if p = some "" then none else p := by
  cases p with
  | none => rfl
  | some s => simp [nonEmpty?_some]

/-- Puts a tag in a namespace under a prefix, an empty one for the default namespace. -/
def qualify (nsUri nsPrefix : String) (t : Tag) : Tag :=
  { t with nsPrefix := nonEmpty? (some nsPrefix), nsUri := some nsUri }

/-- Puts a tag that has no namespace in this default namespace. -/
def adopt (nsUri : String) (t : Tag) : Tag :=
  if t.nsUri.isNone then { t with nsPrefix := none, nsUri := some nsUri } else t

/-- Puts a tag whose namespace is absent or empty in this namespace. -/
def fill (nsUri : String) (nsPrefix : Option String) (t : Tag) : Tag :=
  if t.uri = "" then { t with nsPrefix := nonEmpty? nsPrefix, nsUri := some nsUri } else t

def strip (t : Tag) : Tag :=
  { t with nsPrefix := none, nsUri := none, declarations := [] }

end Tag

namespace Element

def mapTags (f : Tag → Tag) (e : Element) : Element where
  tag := f e.tag
  children := Node.mapTagsAll f e.children

/-- Puts a subtree in a namespace; without a prefix, only the elements that have no namespace. -/
def applyNamespace (nsUri : String) (nsPrefix : Option String) : Element → Element :=
  match nsPrefix with
  | some p => mapTags (Tag.qualify nsUri p)
  | none => mapTags (Tag.adopt nsUri)

/-- Takes a subtree out of all namespaces, with its declarations. -/
def stripNamespace : Element → Element :=
  mapTags Tag.strip

/-- Puts the elements without a namespace in this one; an empty namespace changes nothing. -/
def fillNamespace (nsUri : String) (nsPrefix : Option String) (e : Element) : Element :=
  if nsUri = "" then e else e.mapTags (Tag.fill nsUri nsPrefix)

end Element

/-- A node as it is moved under a tag, its elements without a namespace put in the tag's. -/
def Node.fillFrom (target : Tag) (n : Node) : Node :=
  match target.nsUri with
  | none => n
  | some u => if u = "" then n else n.mapTags (Tag.fill u target.nsPrefix)

/-- Moves all children of `source` behind those of `target`. The first of the two results is
`source` without them. With `qualify`, moved elements without a namespace take that of `target`. -/
def moveChildren (source target : Element) (qualify : Bool) : Element × Element :=
  ({ source with children := [] },
    target.push (if qualify then source.children.map (Node.fillFrom target.tag) else source.children))

end XRoad.Xml
