import Mathlib.Data.List.Basic
import XRoad.Proofs.Xml.WrittenText

/-!
# Elements in their places

The elements of a tree, each with the declarations of the elements around it. Reading keeps these
apart for the open elements: what holds of every tag as it is read, and stays when content is added
to its element, holds of all elements of the tree in their places. Main statement:
`Element.everywhere_of_ofTokens`.
-/

namespace XRoad.Xml

open Text (Raw)

namespace Node

mutual

/-- The elements of a node in document order, each with the scope that it stands in. -/
def placed (scope : Scope) : Node → List (Scope × Element)
  | .text _ => []
  | .element tag children =>
    (scope, { tag, children }) :: placedAll (tag.declarations :: scope) children

def placedAll (scope : Scope) : List Node → List (Scope × Element)
  | [] => []
  | n :: rest => placed scope n ++ placedAll scope rest

end

theorem placedAll_eq (scope : Scope) (ns : List Node) :
    placedAll scope ns = ns.flatMap (placed scope) := by
  induction ns with
  | nil => rw [placedAll, List.flatMap_nil]
  | cons n ns ih => rw [placedAll, ih, List.flatMap_cons]

/-- What holds of an element where it stands holds of all elements of the node. -/
def Everywhere (P : Scope → Element → Prop) (scope : Scope) (n : Node) : Prop :=
  ∀ p ∈ n.placed scope, P p.1 p.2

section
variable {P : Scope → Element → Prop} {scope : Scope}

theorem everywhere_text (s : String) : (Node.text s).Everywhere P scope := by
  intro p m
  rw [placed] at m
  cases m

theorem everywhere_element {t : Tag} {cs : List Node} :
    (Node.element t cs).Everywhere P scope ↔
      P scope { tag := t, children := cs } ∧
        ∀ n ∈ cs, n.Everywhere P (t.declarations :: scope) := by
  rw [Everywhere, placed, placedAll_eq, List.forall_mem_cons]
  refine and_congr_right' ⟨fun all n m p mp => all p (List.mem_flatMap.2 ⟨n, m, mp⟩), ?_⟩
  intro all p m
  obtain ⟨n, mn, mp⟩ := List.mem_flatMap.1 m
  exact all n mn p mp

theorem elements_eq_placed (scope : Scope) (n : Node) : n.elements = (n.placed scope).map (·.2) := by
  induction n using Node.induction generalizing scope with
  | text s => rw [elements, placed, List.map_nil]
  | element t cs ih =>
    rw [elements, placed, elementsAll_eq, placedAll_eq, List.map_cons, List.map_flatMap]
    exact congrArg _ (List.flatMap_congr fun n m => ih n m _)

end

end Node

theorem mem_appendText {n : Node} {s : String} {ns : List Node} (m : n ∈ appendText s ns) :
    n ∈ ns ∨ ∃ t, n = .text t := by
  fun_induction appendText s ns with
  | case1 => exact .inr ⟨_, List.mem_singleton.1 m⟩
  | case2 t => exact .inr ⟨_, List.mem_singleton.1 m⟩
  | case3 first rest _ ih =>
    rcases List.mem_cons.1 m with rfl | m
    · exact .inl List.mem_cons_self
    · exact (ih m).imp_left (List.mem_cons_of_mem _)

/-- What reading a tag establishes, as the element is opened (`opens`), while content is added to it
(`text`, `child`) and when it is closed (`closes`). -/
structure Element.IsReadAs (Q P : Scope → Element → Prop) (tokens : List Token) : Prop where
  opens : ∀ {scope name attributes t}, scope.tag name attributes = .ok t →
    .startTag name attributes ∈ tokens ∨ .emptyTag name attributes ∈ tokens → Q scope { tag := t }
  text : ∀ {scope e} (s : String), Q scope e → Q scope (e.pushText s)
  child : ∀ {scope e} (c : Element), Q scope e → Q scope (e.pushChild c)
  closes : ∀ {scope e}, Q scope e → P scope e.dropLayout

namespace Reading

variable {Q P : Scope → Element → Prop}

/-- The open elements are what they are being read as, each in the scope of those around it. -/
inductive Opened (Q P : Scope → Element → Prop) : List Element → Scope → Prop
  | nil : Opened Q P [] []
  | cons {e : Element} {outer : List Element} {scope : Scope} (here : Q scope e)
      (children : ∀ n ∈ e.children, n.Everywhere P (e.tag.declarations :: scope))
      (around : Opened Q P outer scope) : Opened Q P (e :: outer) (e.tag.declarations :: scope)

structure Holds (Q P : Scope → Element → Prop) (r : Reading) : Prop where
  opened : Opened Q P r.opened r.scope
  root : ∀ e ∈ r.root, e.node.Everywhere P []

variable {tokens : List Token} {r r' : Reading} {e : Element} {scope : Scope}

theorem everywhere_dropLayout (read : Element.IsReadAs Q P tokens) (here : Q scope e)
    (children : ∀ n ∈ e.children, n.Everywhere P (e.tag.declarations :: scope)) :
    e.dropLayout.node.Everywhere P scope := by
  refine Node.everywhere_element.2 ⟨read.closes here, fun n m => ?_⟩
  rw [Element.dropLayout_tag]
  exact children n (Element.mem_of_mem_dropLayout m)

theorem Holds.close (read : Element.IsReadAs Q P tokens) (holds : r.Holds Q P) (here : Q r.scope e)
    (children : ∀ n ∈ e.children, n.Everywhere P (e.tag.declarations :: r.scope))
    (closed : r.close e = .ok r') : r'.Holds Q P := by
  have inside := everywhere_dropLayout read here children
  obtain ⟨opened, scope, root⟩ := r
  obtain ⟨stack, isRoot⟩ := holds
  simp only at stack isRoot inside
  cases stack with
  | nil =>
    cases root with
    | some _ => cases closed
    | none =>
      obtain rfl := Except.ok.inj closed
      exact ⟨.nil, fun e m => Option.some.inj m ▸ inside⟩
  | @cons parent outer scope here' children' around =>
    obtain rfl := Except.ok.inj closed
    refine ⟨.cons (read.child _ here') (fun n m => ?_) around, isRoot⟩
    rcases List.mem_append.1 m with m | m
    · exact children' n m
    · rw [List.mem_singleton.1 m]
      exact inside

theorem Holds.addText (read : Element.IsReadAs Q P tokens) (holds : r.Holds Q P)
    {text : Except Error String} (added : r.addText text = .ok r') : r'.Holds Q P := by
  obtain ⟨opened, scope, root⟩ := r
  obtain ⟨stack, isRoot⟩ := holds
  simp only at stack isRoot
  cases stack with
  | nil => exact Except.ok.inj added ▸ ⟨.nil, isRoot⟩
  | cons here children around =>
    obtain ⟨s, -, added⟩ := bind_ok added
    obtain rfl := Except.ok.inj added
    refine ⟨.cons (read.text s here) (fun n m => ?_) around, isRoot⟩
    rcases mem_appendText m with m | ⟨t, rfl⟩
    · exact children n m
    · exact Node.everywhere_text t

theorem Holds.step (read : Element.IsReadAs Q P tokens) (holds : r.Holds Q P) {token : Token}
    (present : token ∈ tokens) (stepped : r.step token = .ok r') : r'.Holds Q P := by
  cases token with
  | startTag name attributes =>
    obtain ⟨t, tag, rest⟩ := bind_ok stepped
    obtain rfl := Except.ok.inj rest
    exact ⟨.cons (e := { tag := t }) (read.opens tag (.inl present)) nofun holds.opened, holds.root⟩
  | emptyTag name attributes =>
    obtain ⟨t, tag, rest⟩ := bind_ok stepped
    exact holds.close read (read.opens tag (.inr present)) nofun rest
  | endTag name =>
    obtain ⟨opened, scope, root⟩ := r
    obtain ⟨stack, isRoot⟩ := holds
    simp only at stack isRoot
    cases stack with
    | nil => cases stepped
    | @cons e outer scope here children around =>
      exact Holds.close (r := { opened := outer, scope := scope, root := root }) read
        ⟨around, isRoot⟩ here children stepped
  | text content => exact holds.addText read stepped
  | cdata content => exact holds.addText read stepped
  | reference name => exact holds.addText read stepped
  | aside => exact Except.ok.inj stepped ▸ holds
  | malformed reason => cases stepped

theorem Holds.run (read : Element.IsReadAs Q P tokens) (holds : r.Holds Q P) {part : List Token}
    (present : ∀ token ∈ part, token ∈ tokens) (ran : r.run part = .ok r') : r'.Holds Q P := by
  induction part generalizing r with
  | nil => exact Except.ok.inj ran ▸ holds
  | cons token rest ih =>
    obtain ⟨next, stepped, ran⟩ := bind_ok ((run_cons r token rest).symm.trans ran)
    exact ih (holds.step read (present token List.mem_cons_self) stepped)
      (fun other m => present other (List.mem_cons_of_mem _ m)) ran

end Reading

/-- All elements of a tree that was read are what they were read as, where they stand. -/
theorem Element.everywhere_of_ofTokens {Q P : Scope → Element → Prop} {tokens : List Token}
    (read : Element.IsReadAs Q P tokens) {e : Element} (tree : Element.ofTokens tokens = .ok e) :
    e.node.Everywhere P [] := by
  obtain ⟨r, ran, finished⟩ := bind_ok tree
  have holds : r.Holds Q P := Reading.Holds.run read ⟨.nil, fun _ m => by cases m⟩ (fun _ => id) ran
  unfold Reading.finish at finished
  split at finished
  · cases finished
  · next root =>
    obtain rfl := Except.ok.inj finished
    exact holds.root _ root
  · cases finished

end XRoad.Xml
