import Mathlib.Data.Prod.Lex
import XRoad.Proofs.Response.Outcome
import XRoad.Proofs.Table
import XRoad.Proofs.Xml.Address
import XRoad.Response.MetaService

/-!
# Versions of packages

A security server reports its measurements in sets that stand inside one another. However they do,
each metric that tells the version of a package counts once, for the set that it is a child of: sets
come in document order, the metrics of a set in theirs. Main statement: `versionsOf_read`.
-/

namespace XRoad

open Xml (Element)

/-! ### Metrics and where they stand -/

/-- A set of measurements that lists packages. -/
structure IsPackageSet (set : Element) : Prop where
  named : set.tag.isNamed (some Protocol.monitoring.nsUri) "metricSet"
  listing : childText? set "name" = some "Packages"

/-- A metric that tells the version of a package of the network's own software. -/
structure IsVersionOf (metric : Element) (name version : String) : Prop where
  named : metric.tag.name = "stringMetric"
  package : childText? metric "name" = some name
  own : "xroad-".toList <+: name.toList
  value : (childText? metric "value").getD "" = version

/-- The child element number `n` of the set at an address in the body tells a version. -/
def TellsVersion (body : Element) (address : List Nat) (n : Nat) (name version : String) : Prop :=
  ∃ set metric, address ≠ [] ∧ body.atAddress? address = some set ∧ IsPackageSet set ∧
    set.childElements[n]? = some metric ∧ IsVersionOf metric name version

theorem packageVersion?_eq_some_iff {metric : Element} {name version : String} :
    packageVersion? metric = some (name, version) ↔
      childText? metric "name" = some name ∧ "xroad-".toList <+: name.toList ∧
        (childText? metric "value").getD "" = version := by
  unfold packageVersion?
  rw [Option.map_eq_some_iff]
  simp only [Option.filter_eq_some_iff, List.isPrefixOf_iff_prefix, Prod.mk.injEq, and_assoc]
  constructor
  · rintro ⟨found, package, own, rfl, value⟩
    exact ⟨package, own, value⟩
  · rintro ⟨package, own, value⟩
    exact ⟨name, package, own, rfl, value⟩

def metricVersion? (c : Element) : Option (String × String) :=
  if c.tag.name == "stringMetric" then packageVersion? c else none

theorem metricVersion?_eq_some_iff {c : Element} {name version : String} :
    metricVersion? c = some (name, version) ↔ IsVersionOf c name version := by
  unfold metricVersion?
  split
  · next named =>
    rw [packageVersion?_eq_some_iff]
    exact ⟨fun ⟨package, own, value⟩ => ⟨beq_iff_eq.1 named, package, own, value⟩,
      fun ⟨_, package, own, value⟩ => ⟨package, own, value⟩⟩
  · next other => exact iff_of_false nofun fun tells => other (beq_iff_eq.2 tells.named)

/-! ### All versions with their places -/

/-- The versions that a set tells, each under the address of the set and the number of its metric. -/
def versionsAt (s : List Nat × Element) : List ((List Nat ×ₗ Nat) × String × String) :=
  if childText? s.2 "name" = some "Packages" then
    s.2.childElements.zipIdx.filterMap fun c => (metricVersion? c.1).map (toLex (s.1, c.2), ·)
  else []

/-- The versions that all sets in a body tell. -/
def versionPlaces (body : Element) : List ((List Nat ×ₗ Nat) × String × String) :=
  (body.addressed.filter (·.2.tag.isNamed (some Protocol.monitoring.nsUri) "metricSet")).flatMap
    versionsAt

theorem map_versionsAt (s : List Nat × Element) :
    (versionsAt s).map (·.2) = packageVersions s.2 := by
  unfold versionsAt packageVersions
  split
  · rw [List.map_filterMap, List.filterMap_filter]
    conv_rhs => rw [← List.zipIdx_map_fst 0 s.2.childElements, List.filterMap_map]
    refine List.filterMap_congr fun c _ => ?_
    rw [Option.map_map]
    exact Option.map_id'
  · rfl

theorem map_versionPlaces (body : Element) :
    (versionPlaces body).map (·.2) = (metricSetsOf body).flatMap packageVersions := by
  unfold versionPlaces metricSetsOf Element.find
  rw [← body.map_addressed, List.filter_map, List.flatMap_map, List.map_flatMap]
  exact List.flatMap_congr fun s _ => map_versionsAt s

theorem mem_versionsAt_iff {s : List Nat × Element} {address : List Nat} {n : Nat}
    {name version : String} :
    (toLex (address, n), name, version) ∈ versionsAt s ↔
      address = s.1 ∧ childText? s.2 "name" = some "Packages" ∧
        ∃ metric, s.2.childElements[n]? = some metric ∧ IsVersionOf metric name version := by
  unfold versionsAt
  split
  · next listing =>
    rw [List.mem_filterMap]
    simp only [Option.map_eq_some_iff, Prod.mk.injEq, EmbeddingLike.apply_eq_iff_eq]
    constructor
    · rintro ⟨⟨metric, i⟩, m, told, tells, ⟨rfl, rfl⟩, rfl⟩
      exact ⟨rfl, listing, metric, List.mem_zipIdx_iff_getElem?.1 m,
        metricVersion?_eq_some_iff.1 tells⟩
    · rintro ⟨rfl, -, metric, here, tells⟩
      exact ⟨(metric, n), List.mem_zipIdx_iff_getElem?.2 here, _,
        metricVersion?_eq_some_iff.2 tells, ⟨rfl, rfl⟩, rfl⟩
  · next other => exact iff_of_false (List.not_mem_nil) fun ⟨_, listing, _⟩ => other listing

theorem mem_versionPlaces_iff {body : Element} {address : List Nat} {n : Nat}
    {name version : String} :
    (toLex (address, n), name, version) ∈ versionPlaces body ↔
      TellsVersion body address n name version := by
  unfold versionPlaces TellsVersion
  rw [List.mem_flatMap]
  constructor
  · rintro ⟨⟨address', set⟩, m, told⟩
    obtain ⟨listed, named⟩ := List.mem_filter.1 m
    obtain ⟨rfl, listing, metric, here, tells⟩ := mem_versionsAt_iff.1 told
    obtain ⟨below, reached⟩ := Element.mem_addressed_iff.1 listed
    exact ⟨set, metric, below, reached, ⟨named, listing⟩, here, tells⟩
  · rintro ⟨set, metric, below, reached, ⟨named, listing⟩, here, tells⟩
    refine ⟨(address, set), List.mem_filter.2 ⟨Element.mem_addressed_iff.2 ⟨below, reached⟩, named⟩, ?_⟩
    exact mem_versionsAt_iff.2 ⟨rfl, listing, metric, here, tells⟩

/-- Versions are told set by set in document order, and in a set metric by metric. -/
theorem sorted_versionPlaces (body : Element) :
    (versionPlaces body).Pairwise fun a b => a.1 < b.1 := by
  have within {s : List Nat × Element} {a : (List Nat ×ₗ Nat) × String × String}
      (m : a ∈ versionsAt s) : (ofLex a.1).1 = s.1 := (mem_versionsAt_iff.1 m).1
  refine List.pairwise_flatMap.2 ⟨fun s _ => ?_, ?_⟩
  · unfold versionsAt
    split
    · have numbers : (s.2.childElements.zipIdx.map Prod.snd).Pairwise (· < ·) := by
        rw [List.zipIdx_map_snd]
        exact List.pairwise_lt_range' 1
      refine (List.pairwise_map.1 numbers).filterMap _ fun c d before a ha b hb => ?_
      obtain ⟨v, -, rfl⟩ := Option.map_eq_some_iff.1 ha
      obtain ⟨w, -, rfl⟩ := Option.map_eq_some_iff.1 hb
      exact Prod.Lex.toLex_lt_toLex.2 (.inr ⟨rfl, before⟩)
    · exact .nil
  · refine (body.sorted_addressed.filter _).imp fun {s t} before a ma b mb => ?_
    refine Prod.Lex.lt_iff.2 (.inl ?_)
    rw [within ma, within mb]
    exact before

/-! ### What an answer tells -/

theorem responseData_of_metrics {expected : Option String} {wrapped : Bool} {m : Soap.Message}
    {r : Response Unit (List Element)} (reads : metrics.read expected wrapped m = .ok r)
    (answered : r.responseData.isSome) : r.responseData = some (metricSetsOf m.body) := by
  cases found : ResponseReader.answer? (ResponseReader.headerOf m).service expected m with
  | none =>
    rw [ResponseReader.read_of_no_answer found] at reads
    rw [← Except.ok.inj reads] at answered
    cases answered
  | some rpc =>
    rw [ResponseReader.read_of_answered found] at reads
    obtain ⟨requestData, -, reads⟩ := bind_ok reads
    obtain ⟨outcome, content, reads⟩ := bind_ok reads
    rw [← Except.ok.inj reads] at answered ⊢
    unfold ResponseReader.outcomeOf at content
    split at content
    · rw [← Except.ok.inj content] at answered
      cases answered
    · rw [ResponseReader.readOutcome_of_metaService rfl] at content
      rw [← Except.ok.inj content]
      rfl

/-- The packages of an answer are those that a metric of a package set tells, in the order of the
first such metric of each, and the version of a package is the one that the last of its metrics
tells. -/
theorem versionsOf_read {expected : Option String} {wrapped : Bool} {m : Soap.Message}
    {r : Response Unit (List Element)} (reads : metrics.read expected wrapped m = .ok r)
    (answered : r.responseData.isSome) :
    (∀ k, k ∈ (versionsOf r).keys ↔ ∃ set n v, TellsVersion m.body set n k v) ∧
      ((versionsOf r).keys.Pairwise fun k k' =>
        ∃ set n v, TellsVersion m.body set n k v ∧
          ∀ set' n' v', TellsVersion m.body set' n' k' v' → toLex (set, n) < toLex (set', n')) ∧
      ∀ k v, (versionsOf r).get? k = some v ↔
        ∃ set n, TellsVersion m.body set n k v ∧
          ∀ set' n' v', TellsVersion m.body set' n' k v' → ¬ toLex (set, n) < toLex (set', n') := by
  have table : versionsOf r = Table.ofList ((versionPlaces m.body).map (·.2)) := by
    rw [versionsOf, responseData_of_metrics reads answered, map_versionPlaces]
    rfl
  have sorted := sorted_versionPlaces m.body
  rw [table]
  refine ⟨fun k => ?_, ?_, fun k v => ?_⟩
  · rw [Table.mem_keys_ofList]
    constructor
    · rintro ⟨v, m⟩
      obtain ⟨⟨place, pair⟩, m, rfl⟩ := List.mem_map.1 m
      exact ⟨_, _, v, mem_versionPlaces_iff.1 m⟩
    · rintro ⟨set, n, v, tells⟩
      exact ⟨v, List.mem_map.2 ⟨_, mem_versionPlaces_iff.2 tells, rfl⟩⟩
  · refine (Table.pairwise_keys_of_sorted sorted).imp fun {k k'} ⟨place, v, here, first⟩ => ?_
    exact ⟨_, _, v, mem_versionPlaces_iff.1 here, fun set' n' v' tells =>
      first _ v' (mem_versionPlaces_iff.2 tells)⟩
  · rw [Table.get?_of_sorted sorted]
    constructor
    · rintro ⟨place, here, last⟩
      exact ⟨_, _, mem_versionPlaces_iff.1 here, fun set' n' v' tells =>
        last _ v' (mem_versionPlaces_iff.2 tells)⟩
    · rintro ⟨set, n, tells, last⟩
      exact ⟨_, mem_versionPlaces_iff.2 tells, fun place' v' here =>
        last _ _ v' (mem_versionPlaces_iff.1 here)⟩

/-- A set inside a set comes after it, although its metrics stand before those of the outer one. -/
theorem versionsOf_read_nested :
    let code (s : String) (h : s ≠ "") : Code := ⟨s, h⟩
    let service : Service :=
      { xRoadInstance := code "EE" (by decide), owner := none, serviceCode := code "get" (by decide) }
    let text (name content : String) := (Protocol.monitoring.textElement name content).node
    let metric (name version : String) :=
      ((Protocol.monitoring.element "stringMetric").push
        [text "name" name, text "value" version]).node
    let inner := (Protocol.monitoring.element "metricSet").push
      [text "name" "Packages", metric "xroad-proxy" "2", metric "openjdk" "17"]
    let outer := (Protocol.monitoring.element "metricSet").push
      [text "name" "Packages", inner.node, metric "xroad-monitor" "3", metric "xroad-proxy" "1"]
    let rpc := (Protocol.monitoring.element "getResponse").pushChild outer
    let m := (Soap.Message.empty.pushHeader [service.element.node]).pushBody [rpc.node]
    ∃ r, metrics.read none false m = .ok r ∧ r.responseData.isSome ∧
      (versionsOf r).keys = ["xroad-monitor", "xroad-proxy"] ∧
      ∃ set n, TellsVersion m.body set n "xroad-proxy" "2" ∧
        ∀ set' n' v', TellsVersion m.body set' n' "xroad-proxy" v' →
          ¬ toLex (set, n) < toLex (set', n') := by
  intro code service text metric inner outer rpc m
  have told : (metrics.read none false m).map
      (fun r => (r.responseData.isSome, (versionsOf r).entries)) =
        .ok (true, [("xroad-monitor", "3"), ("xroad-proxy", "2")]) := by decide
  cases reads : metrics.read none false m with
  | error cause =>
    rw [reads] at told
    cases told
  | ok r =>
    rw [reads] at told
    obtain ⟨answered, entries⟩ := Prod.mk.inj (Except.ok.inj told)
    refine ⟨r, rfl, answered, congrArg (List.map Prod.fst) entries, ?_⟩
    have value : (versionsOf r).get? "xroad-proxy" = some "2" := by
      rw [Table.get?, entries]
      rfl
    exact ((versionsOf_read reads answered).2.2 "xroad-proxy" "2").1 value

end XRoad
