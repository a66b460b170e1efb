import XRoad.CommandLine.Run

/-!
# The program
-/

namespace XRoad.CommandLine

def contents? (name : String) : IO (Option (List UInt8)) := do
  match ← (IO.FS.readBinFile name).toBaseIO with
  | .ok bytes => return some bytes.toList
  | .error _ => return none

def canOpen (name : String) : IO Bool := do
  match ← (IO.FS.Handle.mk name .read).toBaseIO with
  | .ok _ => return true
  | .error _ => return false

def Host.system : Host IO where
  contents := contents?
  isThere := canOpen
  environment := do return environmentOf ((← contents? "/proc/self/environ").getD [])
  randomBytes := do return (← IO.getRandomBytes 16).toList

end XRoad.CommandLine

open XRoad.CommandLine

def main (args : List String) : IO UInt32 := do
  let outcome ← Host.system.run args
  match outcome with
  | .shown text => IO.print text
  | .failed cause => IO.eprintln ("Error: " ++ cause.message)
  | .refused reason => IO.eprintln ("error: " ++ reason)
  return .ofNat outcome.status
