import XRoad.Proofs.Xml.Settled

/-!
# What a reading has seen

The tags and the ends of elements in document order. A reading only adds to what it has seen, so
that what its tree shows was there when it was read. Main statements: `Reading.events_run` and
`Element.events_of_finish`.
-/

namespace XRoad.Xml

open Text (Raw)
open Token (raw)

namespace Node

mutual

/-- The tags of a node as they begin, and `none` where an element ends. -/
def events : Node → List (Option Tag)
  | .text _ => []
  | .element tag children => some tag :: eventsAll children ++ [none]

def eventsAll : List Node → List (Option Tag)
  | [] => []
  | n :: rest => events n ++ eventsAll rest

end

theorem eventsAll_eq (ns : List Node) : eventsAll ns = ns.flatMap events := by
  induction ns with
  | nil => rw [eventsAll, List.flatMap_nil]
  | cons n ns ih => rw [eventsAll, ih, List.flatMap_cons]

theorem eventsAll_append (ms ns : List Node) : eventsAll (ms ++ ns) = eventsAll ms ++ eventsAll ns := by
  rw [eventsAll_eq, eventsAll_eq, eventsAll_eq, List.flatMap_append]

theorem eventsAll_singleton (n : Node) : eventsAll [n] = n.events := by
  rw [eventsAll_eq, List.flatMap_singleton]

theorem eventsAll_appendText (s : String) (ns : List Node) :
    eventsAll (appendText s ns) = eventsAll ns := by
  fun_induction appendText s ns with
  | case1 => rfl
  | case2 => rfl
  | case3 n rest _ ih => rw [eventsAll, ih, eventsAll]

theorem eventsAll_filter {p : Node → Bool} (keeps : ∀ n, n.isElement → p n) (ns : List Node) :
    eventsAll (ns.filter p) = eventsAll ns := by
  induction ns with
  | nil => rfl
  | cons n ns ih =>
    rw [List.filter_cons]
    split
    · rw [eventsAll, ih, eventsAll]
    · next dropped =>
      cases n with
      | text s => rw [eventsAll, events, ih, List.nil_append]
      | element => exact absurd (keeps _ rfl) dropped

end Node

namespace Element

/-- What is seen of an element before its end. -/
def events (e : Element) : List (Option Tag) :=
  some e.tag :: Node.eventsAll e.children

theorem events_node (e : Element) : e.node.events = e.events ++ [none] := by
  rw [node, Node.events, events]

theorem events_dropLayout (e : Element) : e.dropLayout.events = e.events := by
  rw [dropLayout_eq]
  split
  · exact congrArg (some e.tag :: ·)
      (Node.eventsAll_filter (fun _ => Node.not_isBlank_of_isElement) e.children)
  · rfl

end Element

namespace Reading

variable {r r' : Reading} {e : Element} {scope : Scope} {outer : List Element} {root : Option Element}

def events (r : Reading) : List (Option Tag) :=
  (r.root.elim [] fun e => e.node.events) ++ r.opened.reverse.flatMap Element.events

theorem events_cons (e : Element) (outer : List Element) (scope scope' : Scope)
    (root : Option Element) :
    events { opened := e :: outer, scope, root } =
      events { opened := outer, scope := scope', root } ++ e.events := by
  simp [events]

theorem events_addText {text : Except Error String} (added : r.addText text = .ok r') :
    r'.events = r.events := by
  obtain ⟨opened, scope, root⟩ := r
  cases opened with
  | nil => exact Except.ok.inj added ▸ rfl
  | cons e outer =>
    obtain ⟨s, -, made⟩ := bind_ok added
    obtain rfl := Except.ok.inj made
    rw [events_cons _ _ _ scope, events_cons _ _ _ scope, Element.events, Element.pushText,
      Node.eventsAll_appendText, Element.events]

theorem events_close (closed : r.close e = .ok r') : r'.events = r.events ++ e.events ++ [none] := by
  obtain ⟨opened, scope, root⟩ := r
  cases opened with
  | cons parent outer =>
    obtain rfl := Except.ok.inj closed
    have child : (parent.pushChild e.dropLayout).events = parent.events ++ (e.events ++ [none]) := by
      rw [Element.events, Element.pushChild, Element.push, Node.eventsAll_append,
        Node.eventsAll_singleton, Element.events_node, Element.events_dropLayout, Element.events]
      rfl
    simp only
    rw [events_cons _ _ _ scope, events_cons _ _ _ scope, child]
    simp only [List.append_assoc]
  | nil =>
    cases root with
    | some _ => cases closed
    | none =>
      obtain rfl := Except.ok.inj closed
      change e.dropLayout.node.events ++ [] = [] ++ e.events ++ [none]
      rw [Element.events_node, Element.events_dropLayout, List.append_nil, List.nil_append]

theorem events_startTag {name attributes : Raw} (stepped : r.step (.startTag name attributes) = .ok r') :
    ∃ t, r.scope.tag name attributes = .ok t ∧ r'.events = r.events ++ [some t] := by
  obtain ⟨t, tag, made⟩ := bind_ok stepped
  obtain rfl := Except.ok.inj made
  exact ⟨t, tag, events_cons _ _ _ _ _⟩

theorem events_emptyTag {name attributes : Raw} (stepped : r.step (.emptyTag name attributes) = .ok r') :
    ∃ t, r.scope.tag name attributes = .ok t ∧ r'.events = r.events ++ [some t] ++ [none] := by
  obtain ⟨t, tag, closed⟩ := bind_ok stepped
  exact ⟨t, tag, events_close closed⟩

theorem events_endTag {name : Raw} (stepped : r.step (.endTag name) = .ok r') :
    r'.events = r.events ++ [none] := by
  obtain ⟨opened, scope, root⟩ := r
  cases opened with
  | nil => cases stepped
  | cons e outer =>
    rw [events_close stepped, events_cons]

theorem events_step {token : Token} (stepped : r.step token = .ok r') : r.events <+: r'.events := by
  cases token with
  | startTag =>
    obtain ⟨t, -, seen⟩ := events_startTag stepped
    exact seen ▸ List.prefix_append _ _
  | emptyTag =>
    obtain ⟨t, -, seen⟩ := events_emptyTag stepped
    exact seen ▸ (List.prefix_append _ _).trans (List.prefix_append _ _)
  | endTag => exact events_endTag stepped ▸ List.prefix_append _ _
  | text => exact events_addText stepped ▸ List.prefix_refl _
  | cdata => exact events_addText stepped ▸ List.prefix_refl _
  | reference => exact events_addText stepped ▸ List.prefix_refl _
  | aside => exact Except.ok.inj stepped ▸ List.prefix_refl _
  | malformed => cases stepped

theorem events_run {tokens : List Token} (ran : r.run tokens = .ok r') : r.events <+: r'.events := by
  induction tokens generalizing r with
  | nil => exact Except.ok.inj ran ▸ List.prefix_refl _
  | cons token rest ih =>
    obtain ⟨next, stepped, ran⟩ := bind_ok ((run_cons r token rest).symm.trans ran)
    exact (events_step stepped).trans (ih ran)

theorem events_of_finish (finished : r.finish = .ok e) : r.events = e.node.events := by
  obtain ⟨opened, scope, root⟩ := r
  cases opened with
  | cons => cases finished
  | nil =>
    cases root with
    | none => cases finished
    | some root =>
      obtain rfl := Except.ok.inj finished
      exact List.append_nil _

/-- A reading of some input that comes to an end began with a token of it. -/
theorem run_list_ok {opened : List Raw} {input : Raw} (nonempty : input ≠ [])
    (ran : r.run (Token.list opened input) = .ok r') :
    ∃ token rest opened' next, Token.next? input = some (token, rest) ∧
      Token.opened? opened token = some opened' ∧ r.step token = .ok next ∧
      next.run (Token.list opened' rest) = .ok r' := by
  obtain ⟨c, tail, rfl⟩ := List.exists_cons_of_ne_nil nonempty
  rw [Token.list.eq_def] at ran
  simp only at ran
  split at ran
  · cases ran
  · next token rest next =>
    split at ran
    · cases ran
    · next opened' fits =>
      obtain ⟨r1, stepped, ran⟩ := bind_ok ((run_cons r _ _).symm.trans ran)
      exact ⟨token, rest, opened', r1, next, fits, stepped, ran⟩

end Reading

/-! ### What a written node shows -/

namespace Node

theorem eventsAll_rereadAll {ns : List Node} {scope : Scope}
    (all : ∀ n ∈ ns, ∀ before, eventsAll (n.reread scope before) = eventsAll before ++ n.events)
    (before : List Node) : eventsAll (rereadAll scope before ns) = eventsAll before ++ eventsAll ns := by
  induction ns generalizing before with
  | nil => rw [rereadAll, eventsAll, List.append_nil]
  | cons n ns ih =>
    rw [rereadAll, ih fun m h => all m (List.mem_cons_of_mem _ h), all n List.mem_cons_self,
      eventsAll, List.append_assoc]

/-- A node shows the same after reading when its tags keep their declarations. -/
theorem eventsAll_reread {n : Node} {scope : Scope} (keeps : n.KeepsDeclarations scope)
    (before : List Node) : eventsAll (n.reread scope before) = eventsAll before ++ n.events := by
  induction n using Node.induction generalizing scope before with
  | text s =>
    rw [reread, events, List.append_nil]
    split
    · rfl
    · exact eventsAll_appendText s before
  | element t cs ih =>
    obtain ⟨here, below⟩ := everywhere_element.1 keeps
    simp only at here
    rw [reread, Tag.declared, here, eventsAll_append, eventsAll_singleton, Element.events_node,
      Element.events_dropLayout, Element.events,
      eventsAll_rereadAll fun n m before => ih n m (below n m) before]
    rw [eventsAll, List.nil_append, events]

end Node

end XRoad.Xml
