import XRoad.Proofs.Xml.Rewriting

/-!
# Moved children

Children that are moved from one element to another stand there behind those that it had, each once
and in order. What they take over is the namespace of their new parent, and this only where they
have none of their own. Main statement: `Element.moveChildren_moves`.
-/

namespace XRoad.Xml

namespace Tag

/-- The second tag is what becomes of the first one, at any depth, when it is moved under a target:
with `qualify`, a tag whose namespace is absent or empty takes that of the target, unless this is
absent or empty too. -/
def MovesUnder (target : Tag) (qualify : Bool) (t t' : Tag) : Prop :=
  if (qualify ∧ target.uri ≠ "") ∧ (t.nsUri = none ∨ t.nsUri = some "") then
    t' = { t with
      nsPrefix := if target.nsPrefix = some "" then none else target.nsPrefix
      nsUri := target.nsUri }
  else t' = t

/-- What moving a node under a target does with each tag in it. -/
def moveUnder (target : Tag) (qualify : Bool) : Tag → Tag :=
  if qualify ∧ target.uri ≠ "" then fill target.uri target.nsPrefix else id

variable {target : Tag} {qualify : Bool}

theorem nsUri_eq_of_uri (usable : target.uri ≠ "") : target.nsUri = some target.uri := by
  rw [QName.uri] at usable ⊢
  cases uri : target.nsUri with
  | none => exact absurd (by rw [uri, Option.getD_none]) usable
  | some u => rfl

theorem movesUnder_moveUnder (t : Tag) : target.MovesUnder qualify t (target.moveUnder qualify t) := by
  rw [MovesUnder, moveUnder]
  by_cases settles : qualify ∧ target.uri ≠ ""
  · have uri := nsUri_eq_of_uri settles.2
    rw [if_pos settles, fill, nonEmpty?_eq, ← uri]
    simp only [settles, ne_eq, not_false_eq_true, and_self, true_and, uri_eq_empty_iff]
    split <;> rfl
  · rw [if_neg settles, if_neg fun moves => settles moves.1, id]

theorem moveUnder_of_not (still : ¬(qualify ∧ target.uri ≠ "")) : target.moveUnder qualify = id :=
  if_neg still

end Tag

theorem Node.fillFrom_eq (target : Tag) (n : Node) :
    n.fillFrom target = n.mapTags (target.moveUnder true) := by
  by_cases usable : target.uri = ""
  · rw [Tag.moveUnder_of_not fun settles => settles.2 usable, mapTags_id, fillFrom]
    rcases Tag.uri_eq_empty_iff target |>.1 usable with absent | empty
    · rw [absent]
    · rw [empty]
      exact if_pos rfl
  · rw [fillFrom, Tag.nsUri_eq_of_uri usable, Tag.moveUnder, if_pos ⟨rfl, usable⟩]
    exact if_neg usable

namespace Element

variable (source target : Element) (qualify : Bool)

theorem moveChildren_eq :
    moveChildren source target qualify =
      ({ source with children := [] },
        target.push (source.children.map (Node.mapTags (target.tag.moveUnder qualify)))) := by
  cases qualify with
  | true => rw [moveChildren, if_pos rfl, funext (Node.fillFrom_eq target.tag)]
  | false =>
    have still : target.tag.moveUnder false = id :=
      Tag.moveUnder_of_not fun settles => Bool.false_ne_true settles.1
    rw [moveChildren, if_neg Bool.false_ne_true, still, funext Node.mapTags_id, List.map_id']

/-- Moving children takes all of them from their parent and puts them behind those of the target, in
order and changed in nothing but the namespaces of elements that have none. Without `qualify`, and
under a target without a namespace, they are not changed at all. -/
theorem moveChildren_moves :
    (moveChildren source target qualify).1 = { source with children := [] } ∧
      ∃ moved,
        (moveChildren source target qualify).2 =
          { target with children := target.children ++ moved } ∧
        List.Forall₂ (Node.Retagged (target.tag.MovesUnder qualify)) source.children moved ∧
        (qualify = false ∨ target.tag.nsUri = none ∨ target.tag.nsUri = some "" →
          moved = source.children) := by
  rw [moveChildren_eq]
  refine ⟨rfl, _, rfl, ?_, fun still => ?_⟩
  · rw [List.forall₂_map_right_iff]
    exact List.forall₂_same.2 fun n _ => n.retagged_mapTags Tag.movesUnder_moveUnder
  · have same : target.tag.moveUnder qualify = id := by
      apply Tag.moveUnder_of_not
      rintro ⟨qualified, usable⟩
      rcases still with rfl | bare
      · cases qualified
      · exact usable ((Tag.uri_eq_empty_iff target.tag).2 bare)
    rw [same, funext Node.mapTags_id, List.map_id']

/-- An element without a namespace below one that has one, moved under a target with a namespace and
under one whose namespace is empty. -/
theorem moveChildren_moves_nested :
    let inner := (Element.within "b" "x" "urn:x").push [(Element.withText "c" "1").node]
    let source := (Element.named "from").push [.text "2", inner.node]
    let target := (Element.within "to" "p" "urn:p").push [.text "3"]
    let bare := Element.within "to" "p" ""
    (∃ moved, (moveChildren source target true).2 = target.push moved ∧
      List.Forall₂ (Node.Retagged (target.tag.MovesUnder true)) source.children moved) ∧
      bare.tag.nsUri = some "" ∧
      (moveChildren source bare true).2 = { bare with children := source.children } := by
  intro inner source target bare
  obtain ⟨-, moved, there, related, -⟩ := moveChildren_moves source target true
  obtain ⟨-, same, here, -, kept⟩ := moveChildren_moves source bare true
  refine ⟨⟨moved, there, related⟩, rfl, ?_⟩
  rw [here, kept (.inr (.inr rfl))]
  rfl

end Element

end XRoad.Xml
