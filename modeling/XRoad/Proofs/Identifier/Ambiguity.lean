import XRoad.Proofs.Identifier.Notation

/-!
# Identifiers that their text determines

The text of an identifier without points in its codes is read as that identifier, but for two kinds
of services: the code of one is taken for a version, the version of the other for a code. Main
statement: `identifier_reread`.
-/

namespace XRoad

/-- Without a point, at which it would be split. -/
def Code.IsPointFree (c : Code) : Prop :=
  '.' ∉ c.text.toList

instance (c : Code) : Decidable c.IsPointFree :=
  inferInstanceAs (Decidable (¬ _))

theorem pointParts_joinParts {codes : List Code} (nonempty : codes ≠ [])
    (free : ∀ c ∈ codes, c.IsPointFree) : codes.map (·.text) = pointParts (joinParts codes) := by
  have split : IsSplit (joinParts codes) (codes.map (·.text)) := {
    ne_nil := mt List.map_eq_nil_iff.1 nonempty
    noPoint := by
      intro p m
      obtain ⟨c, member, rfl⟩ := List.mem_map.1 m
      exact free c member
    joined := rfl }
  exact split.eq_pointParts

theorem Consumer.ofText?_text {c : Consumer} (free : ∀ p ∈ c.parts, p.IsPointFree) :
    ofText? c.text = some c :=
  ofText?_eq_some_iff.2 (pointParts_joinParts (List.cons_ne_nil _ _) free)

theorem SecurityServer.ofText?_text {s : SecurityServer} (free : ∀ p ∈ s.parts, p.IsPointFree) :
    ofText? s.text = some s :=
  ofText?_eq_some_iff.2 (pointParts_joinParts (List.cons_ne_nil _ _) free)

namespace Service

/-- Written like another service, which is the one that is read: its code looks like the version that
it lacks beside a subsystem, or it has no subsystem and a version that does not look like one. -/
def IsAmbiguous (s : Service) : Prop :=
  (s.subsystem.isSome ∧ s.version = none ∧ IsVersionText s.serviceCode.text) ∨
    (s.subsystem = none ∧ ∃ v, s.version = some v ∧ ¬ IsVersionText v.text)

/-- The other service with the same five parts. -/
def regrouped (s : Service) : Service :=
  match s.subsystem, s.version with
  | some u, none => { s with subsystem := none, serviceCode := u, version := some s.serviceCode }
  | none, some v => { s with subsystem := some s.serviceCode, serviceCode := v, version := none }
  | _, _ => s

theorem parts_regrouped (s : Service) : s.regrouped.parts = s.parts := by
  obtain ⟨i, owner, subsystem, service, version⟩ := s
  cases subsystem <;> cases version <;>
    simp [regrouped, parts, memberClass, memberCode]

theorem not_isAmbiguous_regrouped {s : Service} (ambiguous : s.IsAmbiguous) :
    ¬ s.regrouped.IsAmbiguous := by
  obtain ⟨i, owner, subsystem, service, version⟩ := s
  rcases ambiguous with ⟨nested, none_given, version⟩ | ⟨none_given, v, given, noVersion⟩
  · obtain ⟨u, rfl⟩ := Option.isSome_iff_exists.1 nested
    obtain rfl := none_given
    rintro (⟨nested', -⟩ | ⟨-, v, given, noVersion⟩)
    · cases nested'
    · exact noVersion (Option.some.inj given ▸ version)
  · obtain rfl := none_given
    obtain rfl := given
    rintro (⟨-, -, version⟩ | ⟨none_given, -⟩)
    · exact noVersion version
    · cases none_given

/-- The last part is the version or, without one, the code of the service. -/
theorem endsInVersion_parts (s : Service) :
    EndsInVersion (s.parts.map (·.text)) ↔ IsVersionText (s.version.getD s.serviceCode).text := by
  have last : (s.parts.map (·.text)).getLast? = some (s.version.getD s.serviceCode).text := by
    rw [List.getLast?_map, parts]
    cases s.version with
    | none => rw [Option.toList_none, List.append_nil, List.getLast?_concat]; rfl
    | some v => rw [Option.toList_some, List.getLast?_concat]; rfl
  rw [EndsInVersion, last]
  constructor
  · rintro ⟨v, same, version⟩
    exact Option.some.inj same ▸ version
  · intro version
    exact ⟨_, rfl, version⟩

variable {s : Service}

theorem ofText?_text_iff (isOwned : s.owner.isSome) (free : ∀ p ∈ s.parts, p.IsPointFree) :
    ofText? s.text = some s ↔ ¬ s.IsAmbiguous := by
  have pieces : s.parts.map (·.text) = pointParts s.text :=
    pointParts_joinParts (List.cons_ne_nil _ _) free
  rw [ofText?_eq_some_iff, ← pieces, endsInVersion_parts, length_parts isOwned, IsAmbiguous]
  obtain ⟨i, owner, subsystem, service, version⟩ := s
  cases subsystem <;> cases version <;> simp [isOwned]

/-- An ambiguous service is read as the other one with its parts. -/
theorem ofText?_text_of_isAmbiguous (isOwned : s.owner.isSome)
    (free : ∀ p ∈ s.parts, p.IsPointFree) (ambiguous : s.IsAmbiguous) :
    ofText? s.text = some s.regrouped := by
  have written : s.regrouped.text = s.text := by rw [text, parts_regrouped, text]
  have regroupedOwned : s.regrouped.owner.isSome := by
    rw [regrouped]
    split <;> exact isOwned
  rw [← written, ofText?_text_iff regroupedOwned (by rwa [parts_regrouped])]
  exact not_isAmbiguous_regrouped ambiguous

end Service

/-- Without points in their codes, consumers and security servers are read from their texts, and so
is a service of a member if and only if it is not ambiguous; else another service is read. -/
theorem identifier_reread :
    (∀ c : Consumer, (∀ p ∈ c.parts, p.IsPointFree) → Consumer.ofText? c.text = some c) ∧
      (∀ s : SecurityServer, (∀ p ∈ s.parts, p.IsPointFree) →
        SecurityServer.ofText? s.text = some s) ∧
      ∀ s : Service, s.objectType = .service → (∀ p ∈ s.parts, p.IsPointFree) →
        (Service.ofText? s.text).isSome ∧
          (Service.ofText? s.text = some s ↔ ¬ s.IsAmbiguous) ∧
          (s.IsAmbiguous → Service.ofText? s.text = some s.regrouped) := by
  refine ⟨fun c => Consumer.ofText?_text, fun s => SecurityServer.ofText?_text,
    fun s regular free => ?_⟩
  have isOwned : s.owner.isSome := by
    by_contra central
    rw [Service.objectType, if_neg central] at regular
    cases regular
  have kept := Service.ofText?_text_iff isOwned free
  have other := Service.ofText?_text_of_isAmbiguous isOwned free
  refine ⟨?_, kept, other⟩
  by_cases ambiguous : s.IsAmbiguous
  · rw [other ambiguous]
    rfl
  · rw [kept.2 ambiguous]
    rfl

/-- The services with the code `2024-01` in the subsystem `get`, and with the version `beta`. -/
theorem identifier_reread_regrouped :
    let part (text : String) (ne_empty : text ≠ "" := by decide) : Code := ⟨text, ne_empty⟩
    let consumer : Consumer := ⟨⟨part "EE", part "GOV", part "1"⟩, some (part "v1")⟩
    let server : SecurityServer := ⟨⟨part "EE", part "GOV", part "1"⟩, part "-"⟩
    let owner := some ⟨part "GOV", part "1"⟩
    let dated : Service := ⟨part "EE", owner, some (part "get"), part "2024-01", none⟩
    let full : Service := ⟨part "EE", owner, some (part "get"), part "2024-01", some (part "beta")⟩
    Consumer.ofText? "EE.GOV.1.v1" = some consumer ∧
      SecurityServer.ofText? "EE.GOV.1.-" = some server ∧
      Service.ofText? dated.text =
        some ⟨part "EE", owner, none, part "get", some (part "2024-01")⟩ ∧
      Service.ofText? "EE.GOV.1.get.2024-01.beta" = some full := by
  intro part consumer server owner dated full
  obtain ⟨consumers, servers, services⟩ := identifier_reread
  have version : IsVersionText "2024-01" := isVersion_iff.1 (by decide)
  have ambiguous : dated.IsAmbiguous := .inl ⟨rfl, rfl, version⟩
  have notAmbiguous : ¬ full.IsAmbiguous := by
    rintro (⟨-, none_given, -⟩ | ⟨none_given, -⟩) <;> cases none_given
  exact ⟨consumers consumer (by decide), servers server (by decide),
    (services dated rfl (by decide)).2.2 ambiguous,
    (services full rfl (by decide)).2.1.2 notAmbiguous⟩

end XRoad
