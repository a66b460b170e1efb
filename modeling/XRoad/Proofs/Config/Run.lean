import XRoad.Config.Basic
import XRoad.Proofs.Basic
import XRoad.Proofs.Yaml.Value

/-!
# Configurations and what is set in them

A configuration is a document over the defaults, with what the variables set and then what calls set.
Each is one write after the other, of which those that fail change nothing.
-/

namespace XRoad.Config

open Yaml (Value)

deriving instance DecidableEq for Config

abbrev Write : Type := List String × Value

def write (d : Value) (w : Write) : Value :=
  (set? w.2 w.1 d).getD d

def run (c : Config) (calls : List Write) : Config :=
  calls.foldl (fun c call => (c.set call.1 call.2).toOption.getD c) c

def variableWrite? (setting : String × String) : Option Write :=
  (overridePath? setting.1).map fun path => (path, variableValue setting.2)

def variableWrites (environment : List (String × String)) : List Write :=
  environment.filterMap variableWrite?

variable {c : Config}

theorem data_run (calls : List Write) : (c.run calls).data = calls.foldl write c.data := by
  induction calls generalizing c with
  | nil => rfl
  | cons call calls ih =>
    have step : ((c.set call.1 call.2).toOption.getD c).data = write c.data call := by
      rw [set, write]
      cases set? call.2 call.1 c.data <;> rfl
    rw [List.foldl_cons, ← step]
    exact ih

theorem overrideAll_eq_foldl (environment : List (String × String)) (d : Value) :
    overrideAll variableValue environment d = (variableWrites environment).foldl write d := by
  rw [overrideAll, variableWrites, List.foldl_filterMap]
  congr
  funext d setting
  rw [override, variableWrite?]
  cases overridePath? setting.1 <;> rfl

section
variable {directory : String} {file : Option (List UInt8)} {environment : List (String × String)}

theorem load_of_read {document : Option Value} (read : file.mapM Yaml.parse = .ok document) :
    load directory file environment =
      .ok ⟨directory, (variableWrites environment).foldl write (merged document)⟩ := by
  rw [load, read, ok_bind, overrideAll_eq_foldl]

theorem data_of_load (loaded : load directory file environment = .ok c) :
    ∃ document, file.mapM Yaml.parse = .ok document ∧
      c.data = (variableWrites environment).foldl write (merged document) := by
  obtain ⟨document, read, -⟩ := bind_ok loaded
  rw [load_of_read read] at loaded
  obtain rfl := Except.ok.inj loaded
  exact ⟨document, read, rfl⟩

end

end XRoad.Config
