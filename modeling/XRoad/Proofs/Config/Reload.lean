import XRoad.Proofs.Config.Merge
import XRoad.Proofs.Config.Run

/-!
# Saving and loading

Settings may change by variables and by calls; what they come to is written into the file and laid
over the defaults when it is loaded again. While all values that are set are scalars, every
configuration is an extension of the defaults in lower case, which loading does not change. Main
statement: `Config.reload_saved`.
-/

namespace XRoad

open Yaml (Value Entries)

namespace Config

variable {c : Config} {d base : Value}

/-- Both give the same value, or both fail in the same way. -/
def Agree {ε : Type} : Except ε Value → Except ε Value → Prop
  | .ok v, .ok w => v.same w
  | .error e, .error f => e = f
  | _, _ => False

/-! ### What scalars leave -/

theorem isTemplate_defaults : IsTemplate defaults := by
  have codec : IsTemplate (.mapping [(.text "processing_wrappers", .bool false),
      (.text "add_namespace_to_request", .bool true)]) := by
    apply isTemplate_of_list
      [("processing_wrappers", .bool false), ("add_namespace_to_request", .bool true)]
    · decide
    · decide +kernel
    · simp [IsTemplate.bool]
  have logger : IsTemplate (.mapping [(.text "min_level", .text "INFO")]) := by
    apply isTemplate_of_list [("min_level", .text "INFO")]
    · decide
    · decide +kernel
    · simp [IsTemplate.text]
  have services : IsTemplate (.mapping []) :=
    .mapping .nil (List.forall_mem_nil _) (List.forall_mem_nil _)
  apply isTemplate_of_list [("client", .text ""), ("security_server", .text ""),
    ("user_id", .text ""), ("protocol_version", .text "4.0"), ("codec", _), ("logger", _),
    ("services", _)]
  · decide
  · decide +kernel
  · simp [IsTemplate.text, codec, logger, services]

theorem merged_some (document : Value) : merged (some document) = merge defaults (lowerKeys document) :=
  lowerKeys_eq_self
    (isLowered_merge (isLowered_of_isTemplate isTemplate_defaults) (isLowered_lowerKeys document))

theorem merged_none : merged none = defaults :=
  lowerKeys_eq_self (isLowered_of_isTemplate isTemplate_defaults)

/-- A store that a reload leaves as it is. -/
structure IsSettled (d : Value) : Prop where
  extending : Extends defaults d
  lowered : IsLowered d

theorem isSettled_merged (document : Option Value) : IsSettled (merged document) := by
  cases document with
  | none =>
    rw [merged_none]
    exact ⟨extends_refl isTemplate_defaults, isLowered_of_isTemplate isTemplate_defaults⟩
  | some document =>
    rw [merged_some]
    have lowered := isLowered_lowerKeys document
    exact ⟨extends_merge isTemplate_defaults lowered,
      isLowered_merge (isLowered_of_isTemplate isTemplate_defaults) lowered⟩

theorem isSettled_write {w : Write} (scalar : w.2.IsScalar) (settled : IsSettled d) :
    IsSettled (write d w) := by
  rw [write]
  cases made : set? w.2 w.1 d with
  | none => exact settled
  | some after =>
    obtain ⟨path, v⟩ := w
    have lowered : IsLowered v ∧ ¬IsMapping v := by
      cases v with
      | null => exact ⟨.null, id⟩
      | bool b => exact ⟨.bool b, id⟩
      | number n => exact ⟨.number n, id⟩
      | text s => exact ⟨.text s, id⟩
      | _ => exact scalar.elim
    exact ⟨extends_set? isTemplate_defaults lowered.2 settled.extending made,
      isLowered_set? lowered.1 settled.lowered made⟩

theorem isSettled_foldl_write {writes : List Write} (scalar : ∀ w ∈ writes, w.2.IsScalar)
    (settled : IsSettled d) : IsSettled (writes.foldl write d) := by
  induction writes generalizing d with
  | nil => exact settled
  | cons w writes ih =>
    rw [List.forall_mem_cons] at scalar
    exact ih scalar.2 (isSettled_write scalar.1 settled)

/-! ### Looking up -/

theorem agree_refl {ε : Type} (result : Except ε Value) : Agree result result := by
  cases result with
  | ok v => exact v.same_refl
  | error e => exact rfl

/-- Each step of a path leads from a store over the template to what the store alone leads to, over
what the template has there. -/
theorem lookupFrom_merge (template : IsTemplate base) (extending : Extends base d)
    (lowered : IsLowered d) (walked path : List String) :
    Agree (lookupFrom walked path (merge base d)) (lookupFrom walked path d) := by
  induction path generalizing walked base d with
  | nil => exact same_merge template extending lowered
  | cons key rest ih =>
    cases extending with
    | replaced other =>
      rw [merge_of_replaced other]
      exact agree_refl _
    | @mapping es fs present values =>
      rw [merge, lookupFrom, lookupFrom, storedKey,
        get?_mergeEntries (keys_of_isTemplate template).1 (isDistinct_of_isLowered lowered)]
      cases inner : Entries.get? es (.text (Text.lower key)) with
      -- Beyond the template both stores hold the same value, and the paths go on together.
      | none =>
        cases Entries.get? fs (.text (Text.lower key)) with
        | none => exact rfl
        | some v => exact agree_refl _
      | some b =>
        have m := Entries.mem_of_get?_text inner
        obtain ⟨v, found⟩ := Option.ne_none_iff_exists'.1 (present _ m)
        rw [found]
        exact ih (isTemplate_of_mem template m) (values _ m v found)
          (isLowered_of_get? lowered found) (walked ++ [key])

theorem get_agree {c c' : Config} (path : List String)
    (agree : Agree (lookup path c.data) (lookup path c'.data)) : Agree (c.get path) (c'.get path) := by
  rw [get, get]
  cases left : lookup path c.data <;> cases right : lookup path c'.data <;> rw [left, right] at agree
  · exact congrArg Error.lookup agree
  · exact agree
  · exact agree
  · exact agree

/-- The configuration that a file gives is the one that was saved in it, up to the order of keys: its
settings are the same at every path, and missing at the same paths. -/
theorem reload_saved {directory : String} {file : Option (List UInt8)}
    {environment later : List (String × String)} {calls : List Write} {saved : List UInt8}
    (loaded : load directory file environment = .ok c)
    (overrides : ∀ w ∈ variableWrites environment, w.2.IsScalar)
    (values : ∀ call ∈ calls, call.2.IsScalar)
    (written : Yaml.parse saved = .ok (c.run calls).data) (quiet : variableWrites later = []) :
    ∃ reloaded, load directory (some saved) later = .ok reloaded ∧
      reloaded.data.same (c.run calls).data ∧
      ∀ path, Agree (reloaded.get path) ((c.run calls).get path) := by
  obtain ⟨document, -, data⟩ := data_of_load loaded
  have settled : IsSettled (c.run calls).data := by
    rw [data_run, data]
    exact isSettled_foldl_write values (isSettled_foldl_write overrides (isSettled_merged document))
  obtain ⟨extending, lowered⟩ := settled
  have laid : merged (some (c.run calls).data) = merge defaults (c.run calls).data := by
    rw [merged_some, lowerKeys_eq_self lowered]
  refine ⟨⟨directory, merge defaults (c.run calls).data⟩, ?_, ?_, fun path => ?_⟩
  · have read : (some saved).mapM Yaml.parse = .ok (some (c.run calls).data) := by
      rw [Option.mapM_some, written]
      rfl
    rw [load_of_read read, quiet, List.foldl_nil, laid]
  · exact same_merge isTemplate_defaults extending lowered
  · exact get_agree path (lookupFrom_merge isTemplate_defaults extending lowered [] path)

/-- A variable takes the place of a mapping of the defaults, so a variable and a call that go into it
fail. -/
theorem reload_saved_replaced :
    let file := Text.bytes "LOGGER: {Min_Level: 3, ~: 1}"
    let environment := [("XRDCODEC_CONFIG__Codec", "1"), ("XRDCODEC_CONFIG__CODEC__X", "2")]
    let later := [("XRDCODEC_CONFIG", "d")]
    let calls : List Write := [(["codec", "x"], .bool true), (["Services", "A"], .null)]
    ∃ c text, load "d" (some file) environment = .ok c ∧
      (∀ w ∈ variableWrites environment, w.2.IsScalar) ∧ (∀ call ∈ calls, call.2.IsScalar) ∧
      (c.run calls).content? = some text ∧ Yaml.parse (Text.bytes text) = .ok (c.run calls).data ∧
      variableWrites later = [] ∧
      ∃ reloaded, load "d" (some (Text.bytes text)) later = .ok reloaded ∧
        reloaded.data.same (c.run calls).data ∧
        ∀ path, Agree (reloaded.get path) ((c.run calls).get path) := by
  intro file environment later calls
  let c : Config := ⟨"d", .mapping [
    (.text "client", .text ""), (.text "security_server", .text ""), (.text "user_id", .text ""),
    (.text "protocol_version", .text "4.0"), (.text "codec", .number (.integer 1)),
    (.text "logger", .mapping [(.text "min_level", .number (.integer 3)), (.null, .number (.integer 1))]),
    (.text "services", .mapping [])]⟩
  let text := "---\nclient: \"\"\nsecurity_server: \"\"\nuser_id: \"\"\nprotocol_version: \"4.0\"\n" ++
    "codec: 1\nlogger:\n  min_level: 3\n  null: 1\nservices:\n  a: null\n"
  have loaded : load "d" (some file) environment = .ok c := by decide +kernel
  have overrides : ∀ w ∈ variableWrites environment, w.2.IsScalar := by
    have writes : variableWrites environment =
        [(["Codec"], .number (.integer 1)), (["CODEC", "X"], .number (.integer 2))] := by
      decide +kernel
    simp [writes, Value.IsScalar]
  have values : ∀ call ∈ calls, call.2.IsScalar := by simp [calls, Value.IsScalar]
  have written : Yaml.parse (Text.bytes text) = .ok (c.run calls).data := by decide +kernel
  have quiet : variableWrites later = [] := by decide +kernel
  exact ⟨c, text, loaded, overrides, values, by decide +kernel, written, quiet,
    reload_saved loaded overrides values written quiet⟩

end Config

end XRoad
