import XRoad.Proofs.Header.RoundTrip

/-!
# Messages that are changed step by step

Whatever is done to a message, its envelope tells its header, its body and their contents apart: the
message is found in its envelope again. Main statement: `Message.ofElement_run`.
-/

namespace XRoad

open Xml (Element Node Tag)

def Header.elements? (h : Header) : Option (List Element) := do
  let consumer ← h.consumer
  let service ← h.service
  let id ← h.id
  some (h.elements consumer service id)

namespace Soap

/-- What may be done to a message between its making and its sending. -/
inductive Step where
  | openHeader
  | pushHeader (e : Element)
  | pushHeaderText (s : String)
  | pushBody (e : Element)
  | pushBodyText (s : String)
  | clearBody
  | removeHeader
  | declare (b : Xml.Binding)
  /-- Writes the header of a request or of a response, if it can be written. -/
  | writeHeader (h : Header)

namespace Message

def changeHeader (m : Message) (f : List Node → List Node) : Message :=
  { m with
    header := some { m.headerOrNew with children := f m.headerOrNew.children }
    header_name := fun h e => by rw [← Option.some.inj e]; exact m.headerOrNew_name }

def step (m : Message) : Step → Message
  | .openHeader => m.pushHeader []
  | .pushHeader e => m.pushHeader [e.node]
  | .pushHeaderText s => m.changeHeader (Xml.appendText s)
  | .pushBody e => m.pushBody [e.node]
  | .pushBodyText s => m.changeBody (Xml.appendText s)
  | .clearBody => m.withoutBody
  | .removeHeader => m.removeHeader
  | .declare b => m.declare b
  | .writeHeader h =>
    match h.writeTo m with
    | .ok m' => m'
    | .error _ => m

def run (m : Message) : List Step → Message
  | [] => m
  | s :: rest => (m.step s).run rest

end Message

/-! ### What the steps do to the contents -/

/-- The nodes in the header, if there is one, and in the body. -/
structure Contents where
  header : Option (List Node)
  body : List Node

namespace Contents

def changeHeader (c : Contents) (f : List Node → List Node) : Contents :=
  { c with header := some (f (c.header.getD [])) }

/-- The contents after a step. What the nodes are makes no difference. -/
def step (c : Contents) : Step → Contents
  | .openHeader => c.changeHeader id
  | .pushHeader e => c.changeHeader (· ++ [e.node])
  | .pushHeaderText s => c.changeHeader (Xml.appendText s)
  | .pushBody e => { c with body := c.body ++ [e.node] }
  | .pushBodyText s => { c with body := Xml.appendText s c.body }
  | .clearBody => { c with body := [] }
  | .removeHeader => { c with header := none }
  | .declare _ => c
  | .writeHeader h =>
    match h.elements? with
    | some es => c.changeHeader (· ++ es.map (·.node))
    | none => c

end Contents

def Step.bindings : Step → List Xml.Binding
  | .declare b => [b]
  | .writeHeader h => if h.elements?.isSome then h.bindings else []
  | _ => []

end Soap

namespace Header

theorem writeTo_ok {h : Header} {es : List Element} (complete : h.elements? = some es)
    (m : Soap.Message) :
    h.writeTo m = .ok ((h.bindings.foldl Soap.Message.declare m).pushHeader (es.map (·.node))) := by
  unfold elements? at complete
  obtain ⟨consumer, first, complete⟩ := Option.bind_eq_some_iff.1 complete
  obtain ⟨service, second, complete⟩ := Option.bind_eq_some_iff.1 complete
  obtain ⟨id, third, complete⟩ := Option.bind_eq_some_iff.1 complete
  rw [writeTo_eq, first, second, third, ← Option.some.inj complete]

theorem writeTo_error {h : Header} (incomplete : h.elements? = none) (m : Soap.Message) :
    ∃ error, h.writeTo m = .error error := by
  rw [writeTo_eq]
  split
  · exact ⟨_, rfl⟩
  · exact ⟨_, rfl⟩
  · exact ⟨_, rfl⟩
  · next consumer service id first second third =>
    rw [elements?, first, second, third] at incomplete
    cases incomplete

end Header

namespace Soap.Message

def contents (m : Message) : Contents where
  header := m.header.map (·.children)
  body := m.body.children

theorem children_headerOrNew (m : Message) :
    m.headerOrNew.children = m.contents.header.getD [] := by
  rw [headerOrNew, contents]
  cases m.header <;> rfl

theorem contents_changeHeader (m : Message) (f : List Node → List Node) :
    (m.changeHeader f).contents = m.contents.changeHeader f := by
  rw [Contents.changeHeader, ← children_headerOrNew]
  rfl

theorem contents_pushHeader (m : Message) (ns : List Node) :
    (m.pushHeader ns).contents = m.contents.changeHeader (· ++ ns) :=
  m.contents_changeHeader (· ++ ns)

theorem contents_declare_all (bindings : List Xml.Binding) (m : Message) :
    (bindings.foldl declare m).contents = m.contents := by
  obtain ⟨-, header, body⟩ := Header.declare_all bindings m
  rw [contents, header, body]
  rfl

theorem step_writeHeader (m : Message) (h : Header) :
    m.step (.writeHeader h) = match h.elements? with
      | some es => (h.bindings.foldl declare m).pushHeader (es.map (·.node))
      | none => m := by
  rw [step]
  cases complete : h.elements? with
  | some es => rw [h.writeTo_ok complete]
  | none =>
    obtain ⟨error, failed⟩ := h.writeTo_error complete m
    rw [failed]

/-- A step does to the contents what it says, whatever the names of the nodes in them. -/
theorem contents_step (m : Message) (s : Step) : (m.step s).contents = m.contents.step s := by
  cases s with
  | openHeader =>
    refine (m.contents_pushHeader []).trans ?_
    simp only [Contents.changeHeader, Contents.step, List.append_nil, id]
  | pushHeader e => exact m.contents_pushHeader [e.node]
  | pushHeaderText s => exact m.contents_changeHeader (Xml.appendText s)
  | pushBody e => rfl
  | pushBodyText s => rfl
  | clearBody => rfl
  | removeHeader => rfl
  | declare b => rfl
  | writeHeader h =>
    rw [step_writeHeader, Contents.step]
    cases h.elements? with
    | some es => rw [contents_pushHeader, contents_declare_all]
    | none => rfl

theorem envelope_step (m : Message) (s : Step) :
    (m.step s).envelope = s.bindings.foldl (fun t b => b.declare t) m.envelope := by
  cases s with
  | writeHeader h =>
    rw [step_writeHeader, Step.bindings]
    cases h.elements? with
    | some es => exact (Header.declare_all h.bindings m).1
    | none => rfl
  | _ => rfl

theorem contents_run (m : Message) (steps : List Step) :
    (m.run steps).contents = steps.foldl Contents.step m.contents := by
  induction steps generalizing m with
  | nil => rfl
  | cons s steps ih => rw [run, ih, contents_step, List.foldl_cons]

theorem envelope_run (m : Message) (steps : List Step) :
    (m.run steps).envelope =
      (steps.flatMap Step.bindings).foldl (fun t b => b.declare t) m.envelope := by
  induction steps generalizing m with
  | nil => rfl
  | cons s steps ih => rw [run, ih, envelope_step, List.flatMap_cons, List.foldl_append]

/-- The nodes of a whole envelope: a header, if there is one, then a body. -/
theorem names_toElement (m : Message) :
    m.toElement.children.map (fun n => n.element?.map (·.tag.name)) =
      if m.contents.header.isSome then [some "Header", some "Body"] else [some "Body"] := by
  have body : m.body.node.element?.map (·.tag.name) = some "Body" := congrArg some m.body_name
  rw [toElement, contents, Option.isSome_map]
  cases found : m.header with
  | none => simp [body]
  | some h =>
    have header : h.node.element?.map (·.tag.name) = some "Header" :=
      congrArg some (m.header_name h found)
    simp [header, body]

/-- After any run of steps from any message, the message is found again in its envelope, which holds
the header, if there is one, and then the body, and nothing else. What was added to the header and
to the body is their content, whatever it is named. -/
theorem ofElement_run (m : Message) (steps : List Step) :
    let r := m.run steps
    ofElement r.toElement = .ok r ∧
      r.contents = steps.foldl Contents.step m.contents ∧
      r.envelope = (steps.flatMap Step.bindings).foldl (fun t b => b.declare t) m.envelope ∧
      r.toElement.children.map (fun n => n.element?.map (·.tag.name)) =
        if r.contents.header.isSome then [some "Header", some "Body"] else [some "Body"] := by
  intro r
  exact ⟨r.ofElement_toElement, m.contents_run steps, m.envelope_run steps, r.names_toElement⟩

/-- Elements that are named like the parts of an envelope stay content. -/
example :
    let r := Message.empty.run
      [.pushHeader (.named "Body"), .pushBody (.named "Header"), .pushBody (.named "Envelope")]
    ofElement r.toElement = .ok r := by decide

end Soap.Message

end XRoad
