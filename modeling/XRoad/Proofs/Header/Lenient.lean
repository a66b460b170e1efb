import XRoad.Header.Basic
import XRoad.Proofs.Xml.Retagged

/-!
# Identifiers that cannot be read

Strict reading of a header fails at the first identifier that cannot be read. Lenient reading never
fails: it is strict reading of the header without such identifiers. Main statements:
`Header.read_ok_iff`, `Header.read_error_iff` and `Header.read_withoutRefused`.
-/

namespace XRoad

open Xml (Element Tag QName only?)

/-! ### Elements whose tags are changed -/

section
variable {f : Tag → Tag} (names : ∀ t, (f t).name = t.name)
  (attributes : ∀ t, (f t).attributes = t.attributes)
include names attributes

theorem ObjectType.ofElement_mapTags (e : Element) :
    ofElement (e.mapTags f) = ofElement e := by
  have text : typeText? (e.mapTags f) = typeText? e := by
    unfold typeText? Tag.attributeIn? Tag.attribute?
    rw [Element.mapTags, attributes]
  rw [ofElement, ofElement, text]
  simp only [inElement, Element.mapTags, names]

theorem Consumer.ofElement_mapTags (e : Element) : ofElement (e.mapTags f) = ofElement e := by
  unfold ofElement inElement
  simp only [Element.table_mapTags names, ObjectType.ofElement_mapTags names attributes]
  simp only [Element.mapTags, names]

theorem Service.ofElement_mapTags (e : Element) : ofElement (e.mapTags f) = ofElement e := by
  unfold ofElement inElement
  simp only [Element.table_mapTags names, ObjectType.ofElement_mapTags names attributes]
  simp only [Element.mapTags, names]

omit attributes in
theorem SecurityServer.ofElement_mapTags (e : Element) : ofElement (e.mapTags f) = ofElement e := by
  unfold ofElement inElement
  simp only [Element.table_mapTags names]
  simp only [Element.mapTags, names]

end

namespace Header

/-! ### One identifier -/

section
variable {α : Type}

/-- The header has one element of a name of the protocol, and only this one. -/
def Has (e : Element) (name : String) (found : Element) : Prop :=
  e.find (some Protocol.header.nsUri) name = [found]

/-- The identifier of a name can be read, if the header has it. -/
def IsReadable (e : Element) (name : String) (read : Element → Except ReadError α) : Prop :=
  ∀ found, Has e name found → ∃ a, read found = .ok a

/-- The identifier of a name cannot be read. -/
def Refuses (e : Element) (name : String) (read : Element → Except ReadError α)
    (cause : ReadError) : Prop :=
  ∃ found, Has e name found ∧ read found = .error cause

/-- The identifier of a name is read with this result. -/
def Gives (e : Element) (name : String) (read : Element → Except ReadError α) (a : α) : Prop :=
  ∃ found, Has e name found ∧ read found = .ok a

def readable? (e : Element) (name : String) (read : Element → Except ReadError α) : Option α :=
  (unique? e Protocol.header name).bind fun found => (read found).toOption

variable {e : Element} {name : String} {read : Element → Except ReadError α}

theorem has_iff {found : Element} : Has e name found ↔ unique? e Protocol.header name = some found :=
  Xml.only?_eq_some_iff.symm

theorem readable?_eq_some_iff {a : α} : readable? e name read = some a ↔ Gives e name read a := by
  unfold readable? Gives
  simp only [has_iff, Option.bind_eq_some_iff]
  refine exists_congr fun found => and_congr_right fun _ => ?_
  cases read found <;> simp [Except.toOption]

theorem identifier_lenient : identifier false e name read = .ok (readable? e name read) := by
  rw [identifier, readable?]
  cases unique? e Protocol.header name with
  | none => rfl
  | some found =>
    simp only [Option.bind_some]
    cases read found <;> rfl

theorem identifier_strict_ok {o : Option α} :
    identifier true e name read = .ok o ↔ IsReadable e name read ∧ o = readable? e name read := by
  unfold identifier readable? IsReadable
  simp only [has_iff]
  cases unique? e Protocol.header name with
  | none => simp [eq_comm]
  | some found =>
    cases result : read found <;> simp [result, Except.toOption, eq_comm]

theorem identifier_strict_error {cause : ReadError} :
    identifier true e name read = .error cause ↔ Refuses e name read cause := by
  unfold identifier Refuses
  simp only [has_iff]
  cases unique? e Protocol.header name with
  | none => simp
  | some found =>
    cases result : read found <;> simp [result]

end

/-! ### All identifiers -/

variable {e : Element}

theorem readIn_lenient (e : Element) : readIn false e =
    .ok { readTexts e with
      consumer := readable? e "client" Consumer.ofElement
      service := readable? e "service" Service.ofElement
      securityServer := readable? e "securityServer" SecurityServer.ofElement } := by
  rw [readIn, identifier_lenient, ok_bind, identifier_lenient, ok_bind, identifier_lenient, ok_bind]

/-- The lenient reader never has to fall back on an empty header. -/
theorem readLenient_eq (e : Element) : readLenient e =
    { readTexts e with
      consumer := readable? e "client" Consumer.ofElement
      service := readable? e "service" Service.ofElement
      securityServer := readable? e "securityServer" SecurityServer.ofElement } := by
  rw [readLenient, readIn_lenient]

/-- Every identifier that the header has can be read. -/
def AllReadable (e : Element) : Prop :=
  IsReadable e "client" Consumer.ofElement ∧ IsReadable e "service" Service.ofElement ∧
    IsReadable e "securityServer" SecurityServer.ofElement

/-- This is why the first identifier that cannot be read cannot be read. -/
def FirstRefused (e : Element) (cause : ReadError) : Prop :=
  Refuses e "client" Consumer.ofElement cause ∨
    IsReadable e "client" Consumer.ofElement ∧ Refuses e "service" Service.ofElement cause ∨
    IsReadable e "client" Consumer.ofElement ∧ IsReadable e "service" Service.ofElement ∧
      Refuses e "securityServer" SecurityServer.ofElement cause

theorem read_ok_iff {h : Header} : read e = .ok h ↔ AllReadable e ∧ h = readLenient e := by
  rw [readLenient_eq, AllReadable]
  constructor
  · intro reads
    obtain ⟨consumer, client, reads⟩ := bind_ok reads
    obtain ⟨service, provider, reads⟩ := bind_ok reads
    obtain ⟨server, gateway, reads⟩ := bind_ok reads
    obtain ⟨first, rfl⟩ := identifier_strict_ok.1 client
    obtain ⟨second, rfl⟩ := identifier_strict_ok.1 provider
    obtain ⟨third, rfl⟩ := identifier_strict_ok.1 gateway
    exact ⟨⟨first, second, third⟩, (Except.ok.inj reads).symm⟩
  · rintro ⟨⟨first, second, third⟩, rfl⟩
    rw [read, readIn, identifier_strict_ok.2 ⟨first, rfl⟩, ok_bind,
      identifier_strict_ok.2 ⟨second, rfl⟩, ok_bind, identifier_strict_ok.2 ⟨third, rfl⟩, ok_bind]

theorem firstRefused_of_error {cause : ReadError} (fails : read e = .error cause) :
    FirstRefused e cause := by
  rw [read, readIn] at fails
  cases client : identifier true e "client" Consumer.ofElement with
  | error reported =>
    rw [client] at fails
    obtain rfl : reported = cause := Except.error.inj fails
    exact .inl (identifier_strict_error.1 client)
  | ok consumer =>
    have first := (identifier_strict_ok.1 client).1
    rw [client, ok_bind] at fails
    cases provider : identifier true e "service" Service.ofElement with
    | error reported =>
      rw [provider] at fails
      obtain rfl : reported = cause := Except.error.inj fails
      exact .inr (.inl ⟨first, identifier_strict_error.1 provider⟩)
    | ok service =>
      have second := (identifier_strict_ok.1 provider).1
      rw [provider, ok_bind] at fails
      cases gateway : identifier true e "securityServer" SecurityServer.ofElement with
      | error reported =>
        rw [gateway] at fails
        obtain rfl : reported = cause := Except.error.inj fails
        exact .inr (.inr ⟨first, second, identifier_strict_error.1 gateway⟩)
      | ok server =>
        rw [gateway] at fails
        cases fails

theorem read_error_iff {cause : ReadError} : read e = .error cause ↔ FirstRefused e cause := by
  refine ⟨firstRefused_of_error, ?_⟩
  rintro (client | ⟨first, provider⟩ | ⟨first, second, gateway⟩)
  · rw [read, readIn, identifier_strict_error.2 client]
    rfl
  · rw [read, readIn, identifier_strict_ok.2 ⟨first, rfl⟩, ok_bind,
      identifier_strict_error.2 provider]
    rfl
  · rw [read, readIn, identifier_strict_ok.2 ⟨first, rfl⟩, ok_bind,
      identifier_strict_ok.2 ⟨second, rfl⟩, ok_bind, identifier_strict_error.2 gateway]
    rfl

theorem readLenient_of_read {h : Header} (reads : read e = .ok h) : readLenient e = h :=
  (read_ok_iff.1 reads).2.symm

/-! ### The header without the identifiers that cannot be read -/

def refusedName {α : Type} (e : Element) (name : String) (read : Element → Except ReadError α) :
    List String :=
  match identifier true e name read with
  | .ok _ => []
  | .error _ => [name]

def refusedNames (e : Element) : List String :=
  refusedName e "client" Consumer.ofElement ++ refusedName e "service" Service.ofElement ++
    refusedName e "securityServer" SecurityServer.ofElement

/-- A name of the protocol for an identifier that cannot be read. -/
def IsRefused (e : Element) (q : QName) : Prop :=
  q.uri = Protocol.header.nsUri ∧ q.name ∈ refusedNames e

instance (e : Element) (q : QName) : Decidable (IsRefused e q) :=
  inferInstanceAs (Decidable (_ ∧ _))

/-- A tag outside all namespaces, so that it names no part of a header. -/
def disown (e : Element) (t : Tag) : Tag :=
  if IsRefused e t.toQName then { t with nsPrefix := none, nsUri := none } else t

/-- The header in which the identifiers that cannot be read are elements of no namespace. All else
in it stays, what these elements hold too. -/
def withoutRefused (e : Element) : Element :=
  e.mapTags (disown e)

theorem disown_name (e : Element) (t : Tag) : (disown e t).name = t.name := by
  rw [disown]
  split <;> rfl

theorem disown_attributes (e : Element) (t : Tag) : (disown e t).attributes = t.attributes := by
  rw [disown]
  split <;> rfl

theorem isNamed_disown {uri name : String} (nonempty : uri ≠ "")
    (other : ¬ (uri = Protocol.header.nsUri ∧ name ∈ refusedNames e)) (t : Tag) :
    (disown e t).isNamed (some uri) name = t.isNamed (some uri) name := by
  rw [disown]
  split
  · next refused =>
    -- The tag had the name neither before nor after.
    have before : t.isNamed (some uri) name = false := by
      rw [Bool.eq_false_iff]
      intro named
      simp only [QName.isNamed, Bool.and_eq_true, beq_iff_eq] at named
      exact other ⟨named.2.symm.trans refused.1, named.1 ▸ refused.2⟩
    rw [before]
    simp [QName.isNamed, QName.uri, nonempty.symm]
  · rfl

theorem find_withoutRefused {uri name : String} (nonempty : uri ≠ "")
    (other : ¬ (uri = Protocol.header.nsUri ∧ name ∈ refusedNames e)) :
    (withoutRefused e).find (some uri) name =
      (e.find (some uri) name).map (Element.mapTags (disown e)) := by
  rw [Element.find, Element.find, withoutRefused, Element.descendants_mapTags, List.filter_map]
  congr 1
  exact List.filter_congr fun x _ => isNamed_disown nonempty other x.tag

theorem find_refused {name : String} (refused : name ∈ refusedNames e) :
    (withoutRefused e).find (some Protocol.header.nsUri) name = [] := by
  rw [Element.find, withoutRefused, Element.descendants_mapTags, List.filter_eq_nil_iff]
  intro x m named
  obtain ⟨x, -, rfl⟩ := List.mem_map.1 m
  simp only [Element.mapTags, QName.isNamed, Bool.and_eq_true, beq_iff_eq, disown] at named
  split at named
  · exact absurd (show "" = Protocol.header.nsUri from named.2) (by decide)
  · next kept => exact kept ⟨named.2, named.1 ▸ refused⟩

theorem unique?_withoutRefused {b : Xml.Binding} {name : String} (nonempty : b.nsUri ≠ "")
    (other : ¬ (b.nsUri = Protocol.header.nsUri ∧ name ∈ refusedNames e)) :
    unique? (withoutRefused e) b name = (unique? e b name).map (Element.mapTags (disown e)) := by
  rw [unique?, find_withoutRefused nonempty other, Xml.only?_map, unique?]

theorem mem_refusedName_iff {α : Type} {own : String} {read : Element → Except ReadError α}
    {name : String} : name ∈ refusedName e own read ↔ name = own ∧ ¬ IsReadable e own read := by
  rw [refusedName]
  cases result : identifier true e own read with
  | ok o => simp [(identifier_strict_ok.1 result).1]
  | error cause =>
    have unreadable : ¬ IsReadable e own read := by
      intro readable
      rw [identifier_strict_ok.2 ⟨readable, rfl⟩] at result
      cases result
    simp [unreadable]

theorem mem_refusedNames_iff {name : String} : name ∈ refusedNames e ↔
    name = "client" ∧ ¬ IsReadable e "client" Consumer.ofElement ∨
      name = "service" ∧ ¬ IsReadable e "service" Service.ofElement ∨
      name = "securityServer" ∧ ¬ IsReadable e "securityServer" SecurityServer.ofElement := by
  rw [refusedNames, List.mem_append, List.mem_append, mem_refusedName_iff, mem_refusedName_iff,
    mem_refusedName_iff, or_assoc]

theorem readTexts_withoutRefused (e : Element) : readTexts (withoutRefused e) = readTexts e := by
  have field (name : String)
      (other : name ≠ "client" ∧ name ≠ "service" ∧ name ≠ "securityServer") :
      unique? (withoutRefused e) Protocol.header name =
        (unique? e Protocol.header name).map (Element.mapTags (disown e)) := by
    refine unique?_withoutRefused (by decide) fun refused => ?_
    rcases mem_refusedNames_iff.1 refused.2 with same | same | same
    · exact other.1 same.1
    · exact other.2.1 same.1
    · exact other.2.2 same.1
  have text {name : String} (other : name ≠ "client" ∧ name ≠ "service" ∧ name ≠ "securityServer") :
      textOf? (withoutRefused e) name = textOf? e name := by
    rw [textOf?, textOf?, field name other, Option.map_map]
    exact congrArg (Option.map · _) (funext fun x => x.textContent_mapTags (disown e))
  have token : unique? (withoutRefused e) Protocol.securityToken "securityToken" =
      (unique? e Protocol.securityToken "securityToken").map (Element.mapTags (disown e)) :=
    unique?_withoutRefused (by decide) fun refused => absurd refused.1 (by decide)
  have value (x : Element) (name : String) :
      (x.mapTags (disown e)).tag.attribute? name = x.tag.attribute? name := by
    rw [Tag.attribute?, Element.mapTags, disown_attributes, Tag.attribute?]
  have valueIn (x : Element) (uri name : String) :
      (x.mapTags (disown e)).tag.attributeIn? uri name = x.tag.attributeIn? uri name := by
    rw [Tag.attributeIn?, Element.mapTags, disown_attributes, Tag.attributeIn?]
  rw [readTexts, readTexts, text (by decide), text (by decide), text (by decide), text (by decide),
    field "requestHash" (by decide), token]
  simp only [Option.map_map, Option.bind_map, Function.comp_def, Element.textContent_mapTags, value,
    valueIn]

section
variable {α : Type} {name : String} {read : Element → Except ReadError α}
  (listed : name ∈ refusedNames e ↔ ¬ IsReadable e name read)
  (stable : ∀ x, read (x.mapTags (disown e)) = read x)
include listed stable

theorem isReadable_withoutRefused : IsReadable (withoutRefused e) name read := by
  intro found has
  by_cases refused : name ∈ refusedNames e
  · rw [Has, find_refused refused] at has
    cases has
  · rw [has_iff, unique?_withoutRefused (by decide) fun both => refused both.2] at has
    obtain ⟨x, here, rfl⟩ := Option.map_eq_some_iff.1 has
    rw [stable]
    exact not_not.1 (mt listed.2 refused) x (has_iff.2 here)

theorem readable?_withoutRefused :
    readable? (withoutRefused e) name read = readable? e name read := by
  by_cases refused : name ∈ refusedNames e
  · have gone : readable? (withoutRefused e) name read = none := by
      rw [readable?, unique?, find_refused refused]
      rfl
    rw [gone, eq_comm, Option.eq_none_iff_forall_ne_some]
    intro a given
    obtain ⟨found, has, reads⟩ := readable?_eq_some_iff.1 given
    refine listed.1 refused fun x has' => ?_
    obtain rfl : found = x := List.singleton_inj.1 (has.symm.trans has')
    exact ⟨a, reads⟩
  · rw [readable?, unique?_withoutRefused (by decide) fun both => refused both.2, Option.bind_map,
      readable?]
    exact congrArg _ (funext fun x => congrArg Except.toOption (stable x))

end

/-- Lenient reading is strict reading of the header without the identifiers that cannot be read. -/
theorem read_withoutRefused (e : Element) : read (withoutRefused e) = .ok (readLenient e) := by
  have names := disown_name e
  have attributes := disown_attributes e
  have client : "client" ∈ refusedNames e ↔ ¬ IsReadable e "client" Consumer.ofElement := by
    simp [mem_refusedNames_iff]
  have service : "service" ∈ refusedNames e ↔ ¬ IsReadable e "service" Service.ofElement := by
    simp [mem_refusedNames_iff]
  have server : "securityServer" ∈ refusedNames e ↔
      ¬ IsReadable e "securityServer" SecurityServer.ofElement := by
    simp [mem_refusedNames_iff]
  have consumers := Consumer.ofElement_mapTags names attributes
  have services := Service.ofElement_mapTags names attributes
  have servers := SecurityServer.ofElement_mapTags names
  rw [read_ok_iff]
  refine ⟨⟨isReadable_withoutRefused client consumers, isReadable_withoutRefused service services,
    isReadable_withoutRefused server servers⟩, ?_⟩
  rw [readLenient_eq, readLenient_eq, readTexts_withoutRefused,
    readable?_withoutRefused client consumers, readable?_withoutRefused service services,
    readable?_withoutRefused server servers]

end Header

end XRoad
