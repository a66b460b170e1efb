/-!
# The directory of a configuration

The place that is asked for, else the one that a variable names, else the usual directory: here, in
the home directory, and if there is none yet, here again.
-/

namespace XRoad.Config

def directoryVariable : String := "XRDCODEC_CONFIG"

def directoryName : String := ".xrdcodec"

def fileName : String := "config.yaml"

/-- A name within a directory. The empty directory is the current one. -/
def within (directory name : String) : String :=
  if directory = "" then name
  else if directory.toList.getLast? = some '/' then directory ++ name
  else directory ++ "/" ++ name

structure Surroundings where
  directoryVariable : Option String := none
  /-- The usual directory is in the current one. -/
  isHere : Bool := false
  home : Option String := none
  /-- The usual directory is in the home directory. -/
  isHome : Bool := false

/-- The directory of a configuration, which need not exist; the empty name asks for none. -/
def Surroundings.directory (s : Surroundings) (asked : String) : String :=
  if asked ≠ "" then asked
  else match s.directoryVariable with
  | some named => named
  | none =>
    match s.home, s.isHere, s.isHome with
    | some home, false, true => within home directoryName
    | _, _, _ => directoryName

end XRoad.Config
