import XRoad.Proofs.Config.Reload

/-!
# Keys in any letter case

A key is found in any letter case if it is stored in lower case. Documents are lowered when they are
laid over the defaults, and so is the path at which a value is set; the keys of the value itself are
stored as they are. Main statement: `Config.hasLowerKeys_states_iff`.
-/

namespace XRoad.Config

open Yaml (Value Entries)
open Yaml.Entries (IsDistinct)

/-- The text keys of all mappings stand in lower case, under tags and within other keys too. -/
inductive HasLowerKeys : Value → Prop
  | null : HasLowerKeys .null
  | bool (b : Bool) : HasLowerKeys (.bool b)
  | number (n : Yaml.Number) : HasLowerKeys (.number n)
  | text (s : String) : HasLowerKeys (.text s)
  | sequence {vs : List Value} (items : ∀ v ∈ vs, HasLowerKeys v) : HasLowerKeys (.sequence vs)
  | mapping {es : Entries} (lower : ∀ e ∈ es, IsLowerKey e.1) (keys : ∀ e ∈ es, HasLowerKeys e.1)
      (values : ∀ e ∈ es, HasLowerKeys e.2) : HasLowerKeys (.mapping es)
  | tagged (tag : String) {v : Value} (value : HasLowerKeys v) : HasLowerKeys (.tagged tag v)

/-- No tags, and no collections as keys. -/
inductive IsPlain : Value → Prop
  | null : IsPlain .null
  | bool (b : Bool) : IsPlain (.bool b)
  | number (n : Yaml.Number) : IsPlain (.number n)
  | text (s : String) : IsPlain (.text s)
  | sequence {vs : List Value} (items : ∀ v ∈ vs, IsPlain v) : IsPlain (.sequence vs)
  | mapping {es : Entries} (keys : ∀ e ∈ es, e.1.IsScalar) (values : ∀ e ∈ es, IsPlain e.2) :
      IsPlain (.mapping es)

/-- A key that is found in any letter case, and holds no other. -/
def IsKeyInLowerCase (k : Value) : Prop :=
  IsLowerKey k ∧ HasLowerKeys k

/-- The value under a chain of keys, letter for letter. -/
def storedAt? : List String → Value → Option Value
  | [], v => some v
  | key :: rest, .mapping es => (Entries.get? es (.text key)).bind (storedAt? rest)
  | _ :: _, _ => none

/-- The values of those writes that are possible. -/
def stored (d : Value) : List Write → List Value
  | [] => []
  | w :: writes =>
    match set? w.2 w.1 d with
    | some after => w.2 :: stored after writes
    | none => stored d writes

variable {es fs : Entries} {base v d : Value}

theorem hasLowerKeys_mapping_iff :
    HasLowerKeys (.mapping es) ↔ ∀ e ∈ es, IsKeyInLowerCase e.1 ∧ HasLowerKeys e.2 := by
  constructor
  · intro all
    cases all with
    | mapping lower keys values => exact fun e m => ⟨⟨lower e m, keys e m⟩, values e m⟩
  · intro all
    exact .mapping (fun e m => (all e m).1.1) (fun e m => (all e m).1.2) fun e m => (all e m).2

theorem isKeyInLowerCase_lowerKey {k : Value} (scalar : k.IsScalar) : IsKeyInLowerCase (lowerKey k) := by
  refine ⟨isLowerKey_lowerKey k, ?_⟩
  cases k with
  | null => exact .null
  | bool b => exact .bool b
  | number n => exact .number n
  | text s => exact .text (Text.lower s)
  | _ => exact scalar.elim

theorem isKeyInLowerCase_storedKey (key : String) : IsKeyInLowerCase (storedKey key) :=
  ⟨isLowerKey_storedKey key, .text (Text.lower key)⟩

/-! ### Writes -/

theorem hasLowerKeys_set?_iff {path : List String} {after : Value} (lower : HasLowerKeys d)
    (made : set? v path d = some after) : HasLowerKeys after ↔ HasLowerKeys v := by
  induction path generalizing d after with
  | nil => rw [Option.some.inj made]
  | cons key rest ih =>
    obtain ⟨es, inner, rfl, further, rfl⟩ := set?_cons made
    have all := hasLowerKeys_mapping_iff.1 lower
    -- A new mapping has no keys at all, so the path may go on in it.
    have before : HasLowerKeys ((Entries.get? es (storedKey key)).getD (.mapping [])) := by
      cases found : Entries.get? es (storedKey key) with
      | none => exact hasLowerKeys_mapping_iff.2 (List.forall_mem_nil _)
      | some v => exact (all _ (Entries.mem_of_get?_text found)).2
    rw [← ih before further, hasLowerKeys_mapping_iff]
    constructor
    · intro after
      have found : Entries.get? (Entries.set es (storedKey key) inner) (storedKey key) = some inner :=
        Entries.get?_alter_self
      exact (after _ (Entries.mem_of_get?_text found)).2
    · exact Entries.forall_set all (isKeyInLowerCase_storedKey key)

theorem hasLowerKeys_scanl_iff (writes : List Write) :
    (∀ s ∈ writes.scanl write d, HasLowerKeys s) ↔
      HasLowerKeys d ∧ ∀ v ∈ stored d writes, HasLowerKeys v := by
  induction writes generalizing d with
  | nil => simp [stored]
  | cons w writes ih =>
    rw [List.scanl_cons, List.forall_mem_cons, ih]
    refine and_congr_right fun lower => ?_
    rw [write, stored]
    cases made : set? w.2 w.1 d with
    | none => exact and_iff_right lower
    | some after =>
      rw [List.forall_mem_cons, Option.getD_some, hasLowerKeys_set?_iff lower made]

/-! ### Documents -/

theorem hasLowerKeys_lowerKeys (plain : IsPlain v) : HasLowerKeys (lowerKeys v) := by
  induction plain with
  | null => exact .null
  | bool b => exact .bool b
  | number n => exact .number n
  | text s => exact .text s
  | sequence _ ih =>
    rw [lowerKeys, lowerItems_eq_map]
    exact .sequence (List.forall_mem_map.2 ih)
  | mapping keys _ ih =>
    rw [lowerKeys, lowerEntries_eq_map, hasLowerKeys_mapping_iff]
    refine Entries.forall_foldl_set (List.forall_mem_nil _) (List.forall_mem_map.2 fun e m => ?_)
    exact ⟨isKeyInLowerCase_lowerKey (keys e m), ih e m⟩

theorem hasLowerKeys_of_isTemplate (template : IsTemplate base) : HasLowerKeys base := by
  induction template with
  | bool b => exact .bool b
  | text s => exact .text s
  | mapping _ keys _ ih =>
    refine hasLowerKeys_mapping_iff.2 fun e m => ⟨?_, ih e m⟩
    obtain ⟨s, key, lower⟩ := keys e m
    rw [key]
    exact ⟨isLowerKey_text_iff.2 lower, .text s⟩

theorem hasLowerKeys_mergeEntries_iff (keys : ∀ e ∈ es, ∃ s, e.1 = .text s ∧ Text.lower s = s)
    (templates : ∀ e ∈ es, IsTemplate e.2)
    (values : ∀ e ∈ es, ∀ {v}, IsLowered v → (HasLowerKeys (merge e.2 v) ↔ HasLowerKeys v))
    (lowered : IsLowered (.mapping fs)) :
    HasLowerKeys (.mapping (mergeEntries es fs)) ↔ HasLowerKeys (.mapping fs) := by
  induction es generalizing fs with
  | nil =>
    rw [mergeEntries_nil (isDistinct_of_isLowered lowered)]
  | cons e es ih =>
    obtain ⟨k, b⟩ := e
    rw [List.forall_mem_cons] at keys templates values
    obtain ⟨s, rfl, lower⟩ := keys.1
    have distinct := isDistinct_of_isLowered lowered
    have rest : IsLowered (.mapping (Entries.erase fs (.text s))) :=
      isLowered_mapping_iff.2 ⟨Entries.isDistinct_erase distinct, fun e m =>
        (isLowered_mapping_iff.1 lowered).2 e (Entries.mem_of_mem_erase m)⟩
    have key : IsKeyInLowerCase (.text s) := ⟨isLowerKey_text_iff.2 lower, .text s⟩
    rw [mergeEntries_cons distinct, hasLowerKeys_mapping_iff, List.forall_mem_cons,
      ← hasLowerKeys_mapping_iff, ih keys.2 templates.2 values.2 rest, hasLowerKeys_mapping_iff,
      hasLowerKeys_mapping_iff, Entries.forall_iff_erase distinct s]
    refine and_congr_left fun _ => ?_
    cases found : Entries.get? fs (.text s) with
    | none => simp [overlay, key, hasLowerKeys_of_isTemplate templates.1]
    | some v => simp [overlay, key, values.1 (isLowered_of_get? lowered found)]

/-- Laying a lowered store over a template hides no key, and none that is hidden is found. -/
theorem hasLowerKeys_merge_iff (template : IsTemplate base) (lowered : IsLowered v) :
    HasLowerKeys (merge base v) ↔ HasLowerKeys v := by
  induction template generalizing v with
  | bool b => cases v <;> exact Iff.rfl
  | text s => cases v <;> exact Iff.rfl
  | @mapping es distinct keys values ih =>
    cases v with
    | mapping fs => exact hasLowerKeys_mergeEntries_iff keys values (fun e m _ => ih e m) lowered
    | _ => exact Iff.rfl

theorem hasLowerKeys_merged_iff (document : Option Value) :
    HasLowerKeys (merged document) ↔ ∀ v, document = some v → HasLowerKeys (lowerKeys v) := by
  cases document with
  | none =>
    rw [merged_none]
    exact iff_of_true (hasLowerKeys_of_isTemplate isTemplate_defaults) nofun
  | some v =>
    rw [merged_some, hasLowerKeys_merge_iff isTemplate_defaults (isLowered_lowerKeys v)]
    simp

/-! ### Looking up -/

theorem lookupFrom_of_storedAt? {keys path : List String} (lower : HasLowerKeys d)
    (there : storedAt? keys d = some v) (same : path.map Text.lower = keys.map Text.lower)
    (walked : List String) : lookupFrom walked path d = .ok v := by
  induction keys generalizing path d walked with
  | nil =>
    obtain rfl := List.map_eq_nil_iff.1 same
    exact congrArg Except.ok (Option.some.inj there)
  | cons key rest ih =>
    obtain ⟨asked, path, rfl, first, same⟩ := List.map_eq_cons_iff.1 same
    cases d with
    | mapping es =>
      obtain ⟨inner, found, there⟩ := Option.bind_eq_some_iff.1 there
      obtain ⟨⟨here, -⟩, value⟩ := hasLowerKeys_mapping_iff.1 lower _ (Entries.mem_of_get?_text found)
      have stored : storedKey asked = .text key := by
        rw [storedKey, first, isLowerKey_text_iff.1 here]
      rw [lookupFrom, stored, found]
      exact ih value there same (walked ++ [asked])
    | _ => cases there

/-- All keys are in lower case in every state of a configuration exactly if those of the lowered
document are, and those of every value that variables and calls store. Then what is stored under a
chain of keys is found under them in any letter case. -/
theorem hasLowerKeys_states_iff {directory : String} {file : Option (List UInt8)}
    {environment : List (String × String)} {c : Config} (calls : List Write)
    (loaded : load directory file environment = .ok c) :
    ∃ document, file.mapM Yaml.parse = .ok document ∧
      (c.run calls).data = (variableWrites environment ++ calls).foldl write (merged document) ∧
      ((∀ d ∈ (variableWrites environment ++ calls).scanl write (merged document), HasLowerKeys d) ↔
        (∀ v, document = some v → HasLowerKeys (lowerKeys v)) ∧
          ∀ v ∈ stored (merged document) (variableWrites environment ++ calls), HasLowerKeys v) ∧
      (∀ v, document = some v → IsPlain v → HasLowerKeys (lowerKeys v)) ∧
      (HasLowerKeys (c.run calls).data →
        ∀ keys v, storedAt? keys (c.run calls).data = some v →
          ∀ path, path.map Text.lower = keys.map Text.lower → (c.run calls).get path = .ok v) := by
  obtain ⟨document, read, data⟩ := data_of_load loaded
  refine ⟨document, read, ?_, ?_, fun v _ plain => hasLowerKeys_lowerKeys plain, ?_⟩
  · rw [data_run, data, List.foldl_append]
  · rw [hasLowerKeys_scanl_iff, hasLowerKeys_merged_iff]
  · intro lower keys v there path same
    have found : lookup path (c.run calls).data = .ok v :=
      lookupFrom_of_storedAt? lower there same []
    rw [get, found]

theorem hasLowerKeys_states_set :
    let environment := [("XRDCODEC_CONFIG__Services__A", "7")]
    let extra : Value := .mapping [(.text "extra", .text "x")]
    ∃ c, load "d" none environment = .ok c ∧
      HasLowerKeys (c.run [(["Codec"], extra)]).data ∧
      (c.run [(["Codec"], extra)]).get ["CODEC", "Extra"] = .ok (.text "x") ∧
      (c.run [(["Codec"], extra)]).get ["Logger", "MIN_LEVEL"] = .ok (.text "INFO") := by
  intro environment extra
  let c : Config := ⟨"d", (variableWrites environment).foldl write (merged none)⟩
  have loaded : load "d" none environment = .ok c := load_of_read rfl
  obtain ⟨document, read, data, states, -, found⟩ :=
    hasLowerKeys_states_iff [(["Codec"], extra)] loaded
  obtain rfl : none = document := Except.ok.inj read
  have writes : variableWrites environment ++ [(["Codec"], extra)] =
      [(["Services", "A"], .number (.integer 7)), (["Codec"], extra)] := by
    decide +kernel
  have values : stored (merged none) [(["Services", "A"], .number (.integer 7)), (["Codec"], extra)] =
      [.number (.integer 7), extra] := by
    decide +kernel
  have lowerExtra : HasLowerKeys extra := by
    refine hasLowerKeys_mapping_iff.2 (List.forall_mem_singleton.2 ⟨⟨?_, .text "extra"⟩, .text "x"⟩)
    exact isLowerKey_text_iff.2 (by decide +kernel)
  have lower : HasLowerKeys (c.run [(["Codec"], extra)]).data := by
    rw [writes, values] at states
    rw [data, writes]
    apply states.2
    · exact ⟨nofun, List.forall_mem_cons.2
        ⟨.number (.integer 7), List.forall_mem_singleton.2 lowerExtra⟩⟩
    · exact .tail _ (.tail _ (.head _))
  refine ⟨c, loaded, lower, ?_, ?_⟩
  · exact found lower ["codec", "extra"] _ (by decide +kernel) _ (by decide +kernel)
  · exact found lower ["logger", "min_level"] _ (by decide +kernel) _ (by decide +kernel)

/-- A variable stores the keys of its value as they are written, where no path leads to them. -/
theorem keys_not_lowered :
    ∃ c, load "d" none [("XRDCODEC_CONFIG__CODEC", "Processing_Wrappers: true")] = .ok c ∧
      storedAt? ["codec", "Processing_Wrappers"] c.data = some (.bool true) ∧
      c.get ["codec", "Processing_Wrappers"] =
        .error (.lookup (.missing ["codec", "Processing_Wrappers"])) ∧
      ¬HasLowerKeys c.data := by
  let c : Config := ⟨"d", .mapping [
    (.text "client", .text ""), (.text "security_server", .text ""), (.text "user_id", .text ""),
    (.text "protocol_version", .text "4.0"),
    (.text "codec", .mapping [(.text "Processing_Wrappers", .bool true)]),
    (.text "logger", .mapping [(.text "min_level", .text "INFO")]),
    (.text "services", .mapping [])]⟩
  have there : storedAt? ["codec", "Processing_Wrappers"] c.data = some (.bool true) := by
    decide +kernel
  have missing : lookup ["codec", "Processing_Wrappers"] c.data =
      .error (.missing ["codec", "Processing_Wrappers"]) := by
    decide +kernel
  refine ⟨c, by decide +kernel, there, by rw [get, missing], fun lower => ?_⟩
  have found : lookup ["codec", "Processing_Wrappers"] c.data = .ok (.bool true) :=
    lookupFrom_of_storedAt? lower there rfl []
  rw [missing] at found
  cases found

end XRoad.Config
