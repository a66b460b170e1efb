import XRoad.Proofs.Config.Path

/-!
# Settings of a file over the defaults

A file is laid over the defaults after its keys are made lower case. Where a path leads then is
decided by where it leads in the file: a value that is no mapping stands as it is and hides what is
below it in the defaults, a key that the file lacks is as it is in the defaults, and mappings have
the keys of both. Main statement: `get_merged`.
-/

namespace XRoad.Config

open Yaml (Value Entries)
open Yaml.Entries (IsDistinct)

variable {es fs : Entries} {base v w : Value} {path : List String}

/-! ### Lowered keys -/

/-- The value under a chain of keys in lower case, where the keys themselves stand in any letter
case. Of keys that are equal then the last one counts. -/
def lastAt? : List String → Value → Option Value
  | [], v => some v
  | key :: rest, .mapping es =>
    (es.reverse.find? fun e => lowerKey e.1 = .text key).bind fun e => lastAt? rest e.2
  | _ :: _, _ => none

theorem get?_lowered (s : String) :
    Entries.get? ((lowerEntries es).foldl (fun done e => Entries.set done e.1 e.2) []) (.text s) =
      (es.reverse.find? fun e => lowerKey e.1 = .text s).map fun e => lowerKeys e.2 := by
  rw [Entries.get?_foldl_set, lowerEntries_eq_map, ← List.map_reverse, List.find?_map, Option.map_map]
  exact Option.or_none

theorem storedAt?_lowerKeys (keys : List String) (v : Value) :
    storedAt? keys (lowerKeys v) = (lastAt? keys v).map lowerKeys := by
  induction keys generalizing v with
  | nil => rfl
  | cons key rest ih =>
    cases v with
    | mapping es =>
      rw [lowerKeys, storedAt?, get?_lowered, lastAt?]
      cases es.reverse.find? fun e => lowerKey e.1 = .text key with
      | none => rfl
      | some e => exact ih e.2
    | _ => rfl

/-! ### Merged entries -/

theorem keys_mergeEntries (keys : ∀ e ∈ es, ∃ s, e.1 = .text s) (distinct : IsDistinct fs) :
    (mergeEntries es fs).map Prod.fst =
      es.map Prod.fst ++ (fs.map Prod.fst).filter (· ∉ es.map Prod.fst) := by
  induction es generalizing fs with
  | nil =>
    rw [mergeEntries_nil distinct]
    simp
  | cons e es ih =>
    obtain ⟨k, b⟩ := e
    obtain ⟨⟨s, rfl⟩, texts⟩ := List.forall_mem_cons.1 keys
    have others := ih texts (@Entries.isDistinct_erase fs (.text s) distinct)
    rw [Entries.map_fst_erase, List.filter_filter] at others
    rw [mergeEntries_cons distinct, List.map_cons, others, List.map_cons, List.cons_append]
    congr 2
    apply List.filter_congr
    intro k _
    rw [Bool.eq_iff_iff]
    simp [and_comm]

/-! ### Looking up -/

/-- The answer of a store over another one on a path, by the answers that both give alone. -/
inductive IsLaidOver : (below above answer : Except LookupError Value) → Prop
  | both (b v : Value) : IsLaidOver (.ok b) (.ok v) (.ok (merge b v))
  | above (error : LookupError) (answer : Except LookupError Value) :
      IsLaidOver (.error error) answer answer
  | blocked (below : Except LookupError Value) (walked : List String) :
      IsLaidOver below (.error (.notMapping walked)) (.error (.notMapping walked))
  | below (answer : Except LookupError Value) (walked : List String) :
      IsLaidOver answer (.error (.missing walked)) answer

theorem isLaidOver_lookupFrom (template : IsTemplate base) (lowered : IsLowered v)
    (walked path : List String) :
    IsLaidOver (lookupFrom walked path base) (lookupFrom walked path v)
      (lookupFrom walked path (merge base v)) := by
  induction path generalizing base v walked with
  | nil => exact .both base v
  | cons key rest ih =>
    by_cases both : IsMapping base ∧ IsMapping v
    -- What is laid over hides all that is below it, so the merge is this value alone.
    case neg =>
      rw [merge_of_replaced both]
      by_cases mapping : IsMapping v
      · rw [lookupFrom_cons_of_not fun below => both ⟨below, mapping⟩]
        exact .above _ _
      · rw [lookupFrom_cons_of_not mapping]
        exact .blocked _ _
    case pos =>
      obtain ⟨⟨es, rfl⟩, ⟨fs, rfl⟩⟩ := both.imp isMapping_iff.1 isMapping_iff.1
      rw [merge, lookupFrom, lookupFrom, lookupFrom, storedKey,
        get?_mergeEntries (keys_of_isTemplate template).1 (isDistinct_of_isLowered lowered)]
      cases inner : Entries.get? es (.text (Text.lower key)) with
      | none => exact .above _ _
      | some b =>
        have m := Entries.mem_of_get?_text inner
        -- Below a key of both, the value in one is laid over the value in the other.
        cases found : Entries.get? fs (.text (Text.lower key)) with
        | none => exact .below _ _
        | some w =>
          exact ih (isTemplate_of_mem template m) (isLowered_of_get? lowered found) (walked ++ [key])

namespace IsLaidOver

variable {below answer : Except LookupError Value} {walked : List String}

theorem of_not (laid : IsLaidOver below (.ok w) answer) (other : ¬IsMapping w) : answer = .ok w := by
  cases laid with
  | both b => rw [merge_of_replaced fun both => other both.2]
  | above error => rfl

theorem of_missing (laid : IsLaidOver below (.error (.missing walked)) answer) :
    answer.toOption = below.toOption := by
  cases laid with
  | above error => rfl
  | below => rfl

theorem of_notMapping (laid : IsLaidOver below (.error (.notMapping walked)) answer) :
    answer = .error (.notMapping walked) := by
  cases laid with
  | above error => rfl
  | blocked => rfl

theorem of_mapping (laid : IsLaidOver below (.ok (.mapping es)) answer) (distinct : IsDistinct es)
    (template : ∀ b, below = .ok b → IsTemplate b) :
    ∃ all, answer = .ok (.mapping all) ∧
      (∀ ds, below = .ok (.mapping ds) →
        all.map Prod.fst = ds.map Prod.fst ++ (es.map Prod.fst).filter (· ∉ ds.map Prod.fst)) ∧
      ((∀ ds, below ≠ .ok (.mapping ds)) → all = es) := by
  cases laid with
  | both b =>
    by_cases mapping : IsMapping b
    · obtain ⟨ds, rfl⟩ := isMapping_iff.1 mapping
      refine ⟨mergeEntries ds es, rfl, ?_, fun none => absurd rfl (none ds)⟩
      rintro ds' same
      obtain rfl := Value.mapping.inj (Except.ok.inj same)
      exact keys_mergeEntries (keys_of_isTemplate (template _ rfl)).1 distinct
    · rw [merge_of_replaced fun both => mapping both.1]
      refine ⟨es, rfl, fun ds same => ?_, fun _ => rfl⟩
      exact absurd (isMapping_iff.2 ⟨ds, Except.ok.inj same⟩) mapping
  | above error => exact ⟨es, rfl, nofun, fun _ => rfl⟩

end IsLaidOver

theorem toOption_get (c : Config) (path : List String) :
    (c.get path).toOption = (lookup path c.data).toOption := by
  rw [get]
  cases lookup path c.data <;> rfl

/-- Where paths lead in the configuration of a file: to what the file has there, if that is no
mapping; to what the defaults have, if the file lacks a key on the way; nowhere, if the file has
something else on the way than a mapping; and to a mapping with the keys of both, if the file has a
mapping there. -/
theorem get_merged {file : List UInt8} {document : Value} (directory : String)
    (read : Yaml.parse file = .ok document) :
    ∃ c, load directory (some file) [] = .ok c ∧
      (∀ keys, storedAt? keys (lowerKeys document) = (lastAt? keys document).map lowerKeys) ∧
      ∀ path,
        (∀ v, lookup path (lowerKeys document) = .ok v → ¬IsMapping v → c.get path = .ok v) ∧
        (IsCutOff path (lowerKeys document) →
          (c.get path).toOption = (lookup path defaults).toOption) ∧
        (IsBlocked path (lowerKeys document) →
          ∃ walked, c.get path = .error (.lookup (.notMapping walked))) ∧
        ∀ es, lookup path (lowerKeys document) = .ok (.mapping es) →
          ∃ all, c.get path = .ok (.mapping all) ∧
            (∀ ds, lookup path defaults = .ok (.mapping ds) →
              all.map Prod.fst = ds.map Prod.fst ++ (es.map Prod.fst).filter (· ∉ ds.map Prod.fst)) ∧
            ((∀ ds, lookup path defaults ≠ .ok (.mapping ds)) → all = es) := by
  have lowered := isLowered_lowerKeys document
  let c : Config := ⟨directory, merge defaults (lowerKeys document)⟩
  have loaded : load directory (some file) [] = .ok c := by
    have whole : (some file).mapM Yaml.parse = .ok (some document) := by
      rw [Option.mapM_some, read]
      rfl
    rw [load_of_read whole, merged_some]
    rfl
  refine ⟨c, loaded, fun keys => storedAt?_lowerKeys keys document, fun path => ?_⟩
  have laid : IsLaidOver (lookup path defaults) (lookup path (lowerKeys document)) (lookup path c.data) :=
    isLaidOver_lookupFrom isTemplate_defaults lowered [] path
  refine ⟨?_, ?_, ?_, ?_⟩
  · intro v found other
    rw [found] at laid
    rw [get, laid.of_not other]
  · intro cutOff
    obtain ⟨walked, missing⟩ := lookup_of_isCutOff cutOff
    rw [missing] at laid
    rw [toOption_get, laid.of_missing]
  · intro blocked
    obtain ⟨walked, stopped⟩ := lookup_of_isBlocked blocked
    rw [stopped] at laid
    exact ⟨walked, by rw [get, laid.of_notMapping]⟩
  · intro es found
    have distinct : IsDistinct es :=
      isDistinct_of_isLowered (of_lookup (fun outer => isLowered_of_get? outer) lowered found)
    have template : ∀ b, lookup path defaults = .ok b → IsTemplate b := fun b =>
      of_lookup (fun outer found => isTemplate_of_mem outer (Entries.mem_of_get?_text found))
        isTemplate_defaults
    rw [found] at laid
    obtain ⟨all, laid, keys⟩ := laid.of_mapping distinct template
    exact ⟨all, by rw [get, laid], keys⟩

/-- A file that has a key twice, a setting of the defaults, a new one, and a mapping in the place of a
text. -/
theorem get_merged_collision :
    let file := Text.bytes
      "LOGGER: {Min_Level: 3}\nlogger: {x: 1}\nCODEC: {Extra: 1, Processing_Wrappers: true}\nclient: {a: 1}"
    ∃ document c, Yaml.parse file = .ok document ∧ load "d" (some file) [] = .ok c ∧
      c.get ["codec", "processing_wrappers"] = .ok (.bool true) ∧
      (c.get ["logger", "min_level"]).toOption = some (.text "INFO") ∧
      (∃ walked, c.get ["codec", "extra", "x"] = .error (.lookup (.notMapping walked))) ∧
      (∃ all, c.get ["codec"] = .ok (.mapping all) ∧
        all.map Prod.fst =
          [.text "processing_wrappers", .text "add_namespace_to_request", .text "extra"]) ∧
      c.get ["client"] = .ok (.mapping [(.text "a", .number (.integer 1))]) := by
  intro file
  let one : Value := .number (.integer 1)
  let document : Value := .mapping [
    (.text "LOGGER", .mapping [(.text "Min_Level", .number (.integer 3))]),
    (.text "logger", .mapping [(.text "x", one)]),
    (.text "CODEC", .mapping [(.text "Extra", one), (.text "Processing_Wrappers", .bool true)]),
    (.text "client", .mapping [(.text "a", one)])]
  have lowered : lowerKeys document = .mapping [
      (.text "logger", .mapping [(.text "x", one)]),
      (.text "codec", .mapping [(.text "extra", one), (.text "processing_wrappers", .bool true)]),
      (.text "client", .mapping [(.text "a", one)])] := by
    decide +kernel
  have read : Yaml.parse file = .ok document := by decide +kernel
  obtain ⟨c, loaded, -, laid⟩ := get_merged "d" read
  rw [lowered] at laid
  refine ⟨document, c, read, loaded, ?_, ?_, ?_, ?_, ?_⟩
  · exact (laid ["codec", "processing_wrappers"]).1 _ (by decide +kernel) id
  · refine ((laid ["logger", "min_level"]).2.1 ?_).trans (by decide +kernel)
    exact ⟨["logger"], "min_level", [], _, rfl, by decide +kernel, [(.text "x", one)], rfl, by decide +kernel⟩
  · refine (laid ["codec", "extra", "x"]).2.2.1 ?_
    exact ⟨["codec", "extra"], "x", [], one, rfl, by decide +kernel, id⟩
  · obtain ⟨all, found, keys, -⟩ := (laid ["codec"]).2.2.2
      [(.text "extra", one), (.text "processing_wrappers", .bool true)] (by decide +kernel)
    have usual : lookup ["codec"] defaults = .ok (.mapping [
        (.text "processing_wrappers", .bool false), (.text "add_namespace_to_request", .bool true)]) := by
      decide +kernel
    exact ⟨all, found, (keys _ usual).trans (by decide +kernel)⟩
  · obtain ⟨all, found, -, own⟩ := (laid ["client"]).2.2.2 [(.text "a", one)] (by decide +kernel)
    have text : lookup ["client"] defaults = .ok (.text "") := by decide +kernel
    rw [found, own fun ds mapping => by rw [text] at mapping; cases mapping]

end XRoad.Config
