/-!
# Tables

Keys with values, in the order in which the keys first came. Each key stands once: a key that comes
again keeps its place, whatever becomes of its value.
-/

namespace XRoad

/-- Sets the value of a key where it stands, or after all others. -/
def alterEntries {β : Type} (key : String) (f : Option β → β) : List (String × β) → List (String × β)
  | [] => [(key, f none)]
  | (k, v) :: rest => if k = key then (k, f (some v)) :: rest else (k, v) :: alterEntries key f rest

theorem alterEntries_keys {β : Type} (key : String) (f : Option β → β) (entries : List (String × β)) :
    (alterEntries key f entries).map Prod.fst =
      if key ∈ entries.map Prod.fst then entries.map Prod.fst
      else entries.map Prod.fst ++ [key] := by
  induction entries with
  | nil => rfl
  | cons e rest ih =>
    obtain ⟨k, v⟩ := e
    by_cases h : k = key
    · simp [alterEntries, h]
    · have h' : key ≠ k := fun e => h e.symm
      simp only [alterEntries, h, if_false, List.map_cons, ih, List.mem_cons, h', false_or]
      split <;> rfl

structure Table (β : Type) where
  entries : List (String × β)
  distinct : (entries.map Prod.fst).Nodup

namespace Table

variable {β : Type}

def empty : Table β :=
  ⟨[], List.nodup_nil⟩

instance : Inhabited (Table β) := ⟨empty⟩

instance [DecidableEq β] : DecidableEq (Table β) := fun s t =>
  decidable_of_iff (s.entries = t.entries) ⟨by cases s; cases t; simp, fun h => h ▸ rfl⟩

def keys (t : Table β) : List String :=
  t.entries.map Prod.fst

def get? (t : Table β) (key : String) : Option β :=
  t.entries.lookup key

def alter (t : Table β) (key : String) (f : Option β → β) : Table β where
  entries := alterEntries key f t.entries
  distinct := by
    rw [alterEntries_keys]
    split
    · exact t.distinct
    · next h =>
      refine List.nodup_append.2 ⟨t.distinct, by simp, fun a m b m' => ?_⟩
      rw [List.mem_singleton.1 m']
      exact fun e => h (e ▸ m)

/-- Gives the key this value, a new key after all others. -/
def insert (t : Table β) (key : String) (value : β) : Table β :=
  t.alter key fun _ => value

def ofList (pairs : List (String × β)) : Table β :=
  pairs.foldl (fun t p => t.insert p.1 p.2) empty

def groups (pairs : List (String × β)) : Table (List β) :=
  pairs.foldl (fun t p => t.alter p.1 fun vs => vs.getD [] ++ [p.2]) empty

theorem keys_insert (t : Table β) (key : String) (value : β) :
    (t.insert key value).keys = if key ∈ t.keys then t.keys else t.keys ++ [key] :=
  alterEntries_keys ..

end Table

end XRoad
