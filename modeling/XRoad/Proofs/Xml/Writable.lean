import Mathlib.Data.List.Chain
import XRoad.Xml.Namespace
import XRoad.Xml.Scope
import XRoad.Xml.Token
import XRoad.Text.Blank

/-!
# Trees that can be written

What a tree must be like for its document to say all of it: its names can be told apart from
markup, its prefixes can be bound, and its texts stand where reading would leave them.
-/

namespace XRoad.Xml

/-- A character that no markup begins or ends with. -/
def isNameChar (c : Char) : Bool :=
  !Token.isSpace (some c) && c ∉ ['<', '>', '&', '\'', '"', '/', '=', ':', '!', '?']

def IsPlainName (s : String) : Prop :=
  s ≠ "" ∧ ∀ c ∈ s.toList, isNameChar c

instance (s : String) : Decidable (IsPlainName s) :=
  decidable_of_iff (s ≠ "" ∧ s.toList.all isNameChar) (and_congr_right' List.all_eq_true)

/-- A name with plain parts, whose prefix stands for a namespace. -/
structure QName.IsWritable (q : QName) : Prop where
  name : IsPlainName q.name
  nsPrefix : ∀ p ∈ q.nsPrefix, IsPlainName p
  uri : q.nsPrefix.isSome → q.uri ≠ ""
  xml : q.nsPrefix = some "xml" → q.nsUri = some xmlUri

instance (q : QName) : Decidable q.IsWritable :=
  decidable_of_iff (IsPlainName q.name ∧ (∀ p ∈ q.nsPrefix, IsPlainName p) ∧
      (q.nsPrefix.isSome → q.uri ≠ "") ∧ (q.nsPrefix = some "xml" → q.nsUri = some xmlUri))
    ⟨fun ⟨a, b, c, d⟩ => ⟨a, b, c, d⟩, fun ⟨a, b, c, d⟩ => ⟨a, b, c, d⟩⟩

def Tag.names (t : Tag) : List QName :=
  t.toQName :: t.attributes.map (·.toQName)

structure Tag.IsWritable (t : Tag) : Prop where
  names : ∀ q ∈ t.names, q.IsWritable
  uri : t.nsUri ≠ some ""
  /-- An attribute without a prefix has no namespace. -/
  unprefixed : ∀ a ∈ t.attributes, a.nsPrefix = none → a.nsUri = none
  /-- No attribute looks like a declaration. -/
  reserved : ∀ a ∈ t.attributes, a.nsPrefix ≠ some "xmlns" ∧ (a.nsPrefix = none → a.name ≠ "xmlns")
  declared : ∀ d ∈ t.declarations, (d.1 = "" ∨ IsPlainName d.1) ∧ d.1 ≠ "xml"
  /-- A prefix stands for one namespace. -/
  consistent : ∀ q ∈ t.names, ∀ q' ∈ t.names, q.nsPrefix.isSome → q.nsPrefix = q'.nsPrefix →
    q.nsUri = q'.nsUri
  attributes_nodup : (t.attributes.map fun a => (a.nsPrefix, a.name)).Nodup
  declarations_nodup : (t.declarations.map Prod.fst).Nodup

instance (t : Tag) : Decidable t.IsWritable :=
  decidable_of_iff ((∀ q ∈ t.names, q.IsWritable) ∧ t.nsUri ≠ some "" ∧
      (∀ a ∈ t.attributes, a.nsPrefix = none → a.nsUri = none) ∧
      (∀ a ∈ t.attributes, a.nsPrefix ≠ some "xmlns" ∧ (a.nsPrefix = none → a.name ≠ "xmlns")) ∧
      (∀ d ∈ t.declarations, (d.1 = "" ∨ IsPlainName d.1) ∧ d.1 ≠ "xml") ∧
      (∀ q ∈ t.names, ∀ q' ∈ t.names, q.nsPrefix.isSome → q.nsPrefix = q'.nsPrefix →
        q.nsUri = q'.nsUri) ∧
      (t.attributes.map fun a => (a.nsPrefix, a.name)).Nodup ∧
      (t.declarations.map Prod.fst).Nodup)
    ⟨fun ⟨a, b, c, d, e, f, g, h⟩ => ⟨a, b, c, d, e, f, g, h⟩,
      fun ⟨a, b, c, d, e, f, g, h⟩ => ⟨a, b, c, d, e, f, g, h⟩⟩

/-- A name with plain parts, whose prefix stands for some namespace. -/
structure QName.IsBindable (q : QName) : Prop where
  name : IsPlainName q.name
  nsPrefix : ∀ p ∈ q.nsPrefix, IsPlainName p
  uri : q.nsPrefix.isSome → q.uri ≠ ""

/-- A tag whose prefixes can be bound to what they stand for on it, whatever it declares besides. -/
structure Tag.IsBindable (t : Tag) : Prop where
  names : ∀ q ∈ t.names, q.IsBindable
  uri : t.nsUri ≠ some ""
  unprefixed : ∀ a ∈ t.attributes, a.nsPrefix = none → a.nsUri = none
  reserved : ∀ a ∈ t.attributes, a.nsPrefix ≠ some "xmlns" ∧ (a.nsPrefix = none → a.name ≠ "xmlns")
  consistent : ∀ q ∈ t.names, ∀ q' ∈ t.names, q.nsPrefix.isSome → q.nsPrefix = q'.nsPrefix →
    q.nsUri = q'.nsUri
  attributes_nodup : (t.attributes.map fun a => (a.nsPrefix, a.name)).Nodup
  declarations_nodup : (t.declarations.map Prod.fst).Nodup

theorem Tag.IsWritable.bindable {t : Tag} (writable : t.IsWritable) : t.IsBindable where
  names q m :=
    have ⟨name, nsPrefix, uri, _⟩ := writable.names q m
    ⟨name, nsPrefix, uri⟩
  uri := writable.uri
  unprefixed := writable.unprefixed
  reserved := writable.reserved
  consistent := writable.consistent
  attributes_nodup := writable.attributes_nodup
  declarations_nodup := writable.declarations_nodup

namespace Node

def isBlank : Node → Bool
  | .text s => Text.isBlank s
  | .element .. => false

def HasWritableTags (n : Node) : Prop :=
  ∀ e ∈ n.elements, e.tag.IsWritable

instance (n : Node) : Decidable n.HasWritableTags :=
  inferInstanceAs (Decidable (∀ e ∈ n.elements, _))

end Node

namespace Element

/-- No text among the children is empty, next to another text, or layout between elements. -/
structure IsCompact (e : Element) : Prop where
  visible : ∀ n ∈ e.children, n ≠ .text ""
  separate : e.children.IsChain fun m n => m.isElement ∨ n.isElement
  content : e.hasChildElements → ∀ n ∈ e.children, !n.isBlank

instance (e : Element) : Decidable e.IsCompact :=
  decidable_of_iff ((∀ n ∈ e.children, n ≠ .text "") ∧
      (e.children.IsChain fun m n => m.isElement ∨ n.isElement) ∧
      (e.hasChildElements → ∀ n ∈ e.children, !n.isBlank))
    ⟨fun ⟨a, b, c⟩ => ⟨a, b, c⟩, fun ⟨a, b, c⟩ => ⟨a, b, c⟩⟩

/-- A tree whose document says all of it. -/
structure IsWritable (e : Element) : Prop where
  tags : e.node.HasWritableTags
  compact : ∀ x ∈ e.node.elements, x.IsCompact

instance (e : Element) : Decidable e.IsWritable :=
  decidable_of_iff (e.node.HasWritableTags ∧ ∀ x ∈ e.node.elements, x.IsCompact)
    ⟨fun ⟨a, b⟩ => ⟨a, b⟩, fun ⟨a, b⟩ => ⟨a, b⟩⟩

end Element

end XRoad.Xml
