import XRoad.Proofs.Xml.Retagged

/-!
# Rewriting namespaces

What one rewriting of a subtree makes of what another one left. With a prefix the last one counts,
whatever came before; without one, only the elements that have no namespace are changed. None touches
anything but the namespaces of tags. Main statement: `Element.rewriting_laws`.
-/

namespace XRoad.Xml

/-! ### Changing all tags, one change after another -/

theorem Node.mapTags_mapTags (f g : Tag → Tag) (n : Node) :
    (n.mapTags f).mapTags g = n.mapTags (g ∘ f) := by
  induction n using Node.induction with
  | text s => rw [mapTags, mapTags, mapTags]
  | element t cs ih =>
    rw [mapTags, mapTags, mapTags, mapTagsAll_eq, mapTagsAll_eq, mapTagsAll_eq, List.map_map]
    exact congrArg _ (List.map_congr_left ih)

theorem Node.mapTags_congr {f g : Tag → Tag} {n : Node}
    (same : ∀ x ∈ n.elements, f x.tag = g x.tag) : n.mapTags f = n.mapTags g := by
  induction n using Node.induction with
  | text s => rw [mapTags, mapTags]
  | element t cs ih =>
    rw [elements, List.forall_mem_cons, elementsAll_eq, List.forall_mem_flatMap] at same
    rw [mapTags, mapTags, mapTagsAll_eq, mapTagsAll_eq, same.1]
    exact congrArg _ (List.map_congr_left fun c m => ih c m (same.2 c m))

theorem Node.mapTags_id (n : Node) : n.mapTags id = n := by
  induction n using Node.induction with
  | text s => rw [mapTags]
  | element t cs ih =>
    rw [mapTags, mapTagsAll_eq, List.map_congr_left ih, List.map_id']
    rfl

namespace Element

theorem mapTags_mapTags (f g : Tag → Tag) (e : Element) :
    (e.mapTags f).mapTags g = e.mapTags (g ∘ f) := by
  apply node_injective
  rw [node_mapTags, node_mapTags, node_mapTags, Node.mapTags_mapTags]

theorem mapTags_congr {f g : Tag → Tag} {e : Element}
    (same : ∀ x ∈ e.node.elements, f x.tag = g x.tag) : e.mapTags f = e.mapTags g := by
  apply node_injective
  rw [node_mapTags, node_mapTags, Node.mapTags_congr same]

theorem mapTags_id (e : Element) : e.mapTags id = e := by
  apply node_injective
  rw [node_mapTags, Node.mapTags_id]

end Element

/-! ### Single tags -/

namespace Tag

/-- Puts a tag in a namespace; without a prefix, only if it has none. -/
def settle (nsUri : String) : Option String → Tag → Tag
  | some p => qualify nsUri p
  | none => adopt nsUri

variable (u : String) (q : Option String) (t : Tag)

theorem qualify_settle (u' p' : String) : (t.settle u q).qualify u' p' = t.qualify u' p' := by
  cases q with
  | some p => rfl
  | none =>
    rw [settle, adopt]
    split <;> rfl

theorem settle_settle : (t.settle u q).settle u q = t.settle u q := by
  cases q with
  | some p => rfl
  | none =>
    have placed : (t.adopt u).nsUri.isNone = false := by
      rw [adopt]
      split
      · rfl
      · next has => exact Bool.eq_false_iff.2 has
    rw [settle, adopt, placed]
    rfl

theorem adopt_strip : t.strip.adopt u = t.strip.qualify u "" :=
  rfl

theorem fill_strip : t.strip.fill u q = t.strip.qualify u (q.getD "") := by
  have bare : t.strip.uri = "" := rfl
  rw [fill, if_pos bare]
  cases q <;> rfl

theorem fill_eq_adopt {t : Tag} (usable : t.nsUri ≠ some "") : t.fill u none = t.adopt u := by
  have bare : t.uri = "" ↔ t.nsUri.isNone := by
    rw [uri_eq_empty_iff, or_iff_left usable, Option.isNone_iff_eq_none]
  rw [fill, adopt]
  exact if_congr bare rfl rfl

def KeepsNamespace (t t' : Tag) : Prop :=
  t.nsUri.isSome → t'.nsPrefix = t.nsPrefix ∧ t'.nsUri = t.nsUri

theorem keepsNamespace_adopt : t.KeepsNamespace (t.adopt u) := by
  intro has
  have placed : ¬ t.nsUri.isNone := by simpa [Option.isSome_iff_ne_none] using has
  rw [adopt, if_neg placed]
  exact ⟨rfl, rfl⟩

def KeepsContent (t t' : Tag) : Prop :=
  t'.name = t.name ∧ t'.attributes = t.attributes

/-- A tag keeps its local name, its attributes and what it declares. -/
def KeepsAll (t t' : Tag) : Prop :=
  t.KeepsContent t' ∧ t'.declarations = t.declarations

theorem keepsAll_settle : t.KeepsAll (t.settle u q) := by
  cases q with
  | some p => exact ⟨⟨rfl, rfl⟩, rfl⟩
  | none =>
    rw [settle, adopt]
    split <;> exact ⟨⟨rfl, rfl⟩, rfl⟩

theorem keepsAll_fill : t.KeepsAll (t.fill u q) := by
  rw [fill]
  split <;> exact ⟨⟨rfl, rfl⟩, rfl⟩

end Tag

/-! ### Whole trees -/

mutual

def Node.count : Node → Nat
  | .text _ => 1
  | .element _ children => 1 + countAll children

def Node.countAll : List Node → Nat
  | [] => 0
  | n :: rest => count n + countAll rest

end

theorem Node.count_mapTags (f : Tag → Tag) (n : Node) : (n.mapTags f).count = n.count := by
  induction n using Node.induction with
  | text s => rw [mapTags]
  | element t cs ih =>
    rw [mapTags, count, count]
    induction cs with
    | nil => rw [mapTagsAll]
    | cons c cs ihs =>
      have rest := ihs fun d m => ih d (List.mem_cons_of_mem _ m)
      rw [mapTagsAll, countAll, countAll, ih c List.mem_cons_self]
      omega

/-- The same tree but for its tags, which are related one by one, and so with the same texts and leaf
values. -/
structure Element.Restyled (R : Tag → Tag → Prop) (e e' : Element) : Prop where
  retagged : e.Retagged R e'
  count : e'.node.count = e.node.count
  textContent : e'.textContent = e.textContent
  table : e'.table = e.table
  upperTable : e'.upperTable = e.upperTable
  groups : e'.groups = e.groups

namespace Element

variable (u : String) (q : Option String) (e : Element)

theorem restyled_mapTags {R : Tag → Tag → Prop} {f : Tag → Tag} (related : ∀ t, R t (f t))
    (names : ∀ t, (f t).name = t.name) : e.Restyled R (e.mapTags f) where
  retagged := e.retagged_mapTags related
  count := by rw [node_mapTags, Node.count_mapTags]
  textContent := e.textContent_mapTags f
  table := e.table_mapTags names
  upperTable := by rw [upperTable, upperTable, e.leaves_mapTags names]
  groups := by rw [groups, groups, e.leaves_mapTags names]

theorem applyNamespace_eq : e.applyNamespace u q = e.mapTags (Tag.settle u q) := by
  cases q <;> rfl

theorem fillNamespace_eq :
    e.fillNamespace u q = e.mapTags (if u = "" then id else Tag.fill u q) := by
  rw [fillNamespace]
  split
  · rw [mapTags_id]
  · rfl

theorem fillNamespace_of_ne {u : String} (usable : u ≠ "") :
    e.fillNamespace u q = e.mapTags (Tag.fill u q) :=
  if_neg usable

theorem restyled_fillNamespace : e.Restyled Tag.KeepsAll (e.fillNamespace u q) := by
  have keeps (t : Tag) : t.KeepsAll ((if u = "" then id else Tag.fill u q) t) := by
    split
    · exact ⟨⟨rfl, rfl⟩, rfl⟩
    · exact t.keepsAll_fill u q
  rw [fillNamespace_eq]
  exact e.restyled_mapTags keeps fun t => (keeps t).1.1

/-- Applying a namespace with a prefix puts the whole tree there and undoes what was applied before,
and applying one twice is applying it once. On a stripped tree, applying and filling agree. Without a
prefix, what has a namespace is left alone. No rewriting changes a name, an attribute, a text or their
order, and only stripping takes declarations away. -/
theorem rewriting_laws :
    (∀ p, e.Retagged (Tag.MovesTo { nsPrefix := p, nsUri := u }) (e.applyNamespace u (some p))) ∧
      (∀ u' p', (e.applyNamespace u q).applyNamespace u' (some p') = e.applyNamespace u' (some p')) ∧
      (e.applyNamespace u q).applyNamespace u q = e.applyNamespace u q ∧
      e.stripNamespace.applyNamespace u none = e.stripNamespace.applyNamespace u (some "") ∧
      (u ≠ "" → e.stripNamespace.fillNamespace u q =
        e.stripNamespace.applyNamespace u (some (q.getD ""))) ∧
      (u ≠ "" → (∀ x ∈ e.node.elements, x.tag.nsUri ≠ some "") →
        e.fillNamespace u none = e.applyNamespace u none ∧
          e.Retagged Tag.KeepsNamespace (e.fillNamespace u none) ∧
          e.Retagged Tag.KeepsNamespace (e.applyNamespace u none)) ∧
      e.Restyled Tag.KeepsAll (e.applyNamespace u q) ∧
      e.Restyled Tag.KeepsAll (e.fillNamespace u q) ∧
      e.Restyled Tag.KeepsContent e.stripNamespace := by
  refine ⟨fun p => ?_, fun u' p' => ?_, ?_, ?_, fun usable => ?_, fun usable clean => ?_, ?_, ?_, ?_⟩
  · exact Binding.retagged_qualify { nsPrefix := p, nsUri := u } e
  · rw [applyNamespace_eq, applyNamespace_eq, mapTags_mapTags, applyNamespace_eq]
    exact mapTags_congr fun x _ => x.tag.qualify_settle u q u' p'
  · rw [applyNamespace_eq, applyNamespace_eq, mapTags_mapTags]
    exact mapTags_congr fun x _ => x.tag.settle_settle u q
  · rw [stripNamespace, applyNamespace_eq, applyNamespace_eq, mapTags_mapTags, mapTags_mapTags]
    exact mapTags_congr fun x _ => x.tag.adopt_strip u
  · rw [stripNamespace, fillNamespace_of_ne _ _ usable, applyNamespace_eq, mapTags_mapTags,
      mapTags_mapTags]
    exact mapTags_congr fun x _ => x.tag.fill_strip u q
  · have same : e.fillNamespace u none = e.applyNamespace u none := by
      rw [fillNamespace_of_ne _ _ usable, applyNamespace_eq]
      exact mapTags_congr fun x m => Tag.fill_eq_adopt u (clean x m)
    have kept : e.Retagged Tag.KeepsNamespace (e.applyNamespace u none) := by
      rw [applyNamespace_eq]
      exact e.retagged_mapTags fun t => t.keepsNamespace_adopt u
    exact ⟨same, same ▸ kept, kept⟩
  · rw [applyNamespace_eq]
    exact e.restyled_mapTags (fun t => t.keepsAll_settle u q) fun t => (t.keepsAll_settle u q).1.1
  · exact e.restyled_fillNamespace u q
  · exact e.restyled_mapTags (fun _ => ⟨rfl, rfl⟩) fun _ => rfl

/-- An element without a namespace below one that has one, with a text beside it. -/
theorem rewriting_laws_nested :
    let inner := (Element.within "c" "x" "urn:x").push [(Element.withText "d" "1").node, .text "2"]
    let e := (Element.named "a").pushChild { inner with tag := inner.tag.declare "x" "urn:x" }
    "urn:n" ≠ "" ∧ (∀ x ∈ e.node.elements, x.tag.nsUri ≠ some "") ∧
      e.fillNamespace "urn:n" none = e.applyNamespace "urn:n" none ∧
      e.Retagged Tag.KeepsNamespace (e.fillNamespace "urn:n" none) ∧
      e.stripNamespace.fillNamespace "urn:n" (some "p") =
        e.stripNamespace.applyNamespace "urn:n" (some "p") := by
  intro inner e
  have usable : "urn:n" ≠ "" := by decide
  have clean : ∀ x ∈ e.node.elements, x.tag.nsUri ≠ some "" := by decide
  obtain ⟨-, -, -, -, stripped, unprefixed, -⟩ := rewriting_laws "urn:n" (some "p") e
  obtain ⟨same, kept, -⟩ := unprefixed usable clean
  exact ⟨usable, clean, same, kept, stripped usable⟩

end Element

end XRoad.Xml
