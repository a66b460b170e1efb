import XRoad.Identifier.Service
import XRoad.Text.Digit

/-!
# Identifiers in point notation

Three or four parts name a consumer, four a security server, four to six a service. The last of
five parts of a service is its version when it looks like one, else the code of the service.
-/

namespace XRoad

def splitPoints : List Char → List (List Char)
  | [] => [[]]
  | c :: rest =>
    if c = '.' then [] :: splitPoints rest
    else match splitPoints rest with
      | piece :: pieces => (c :: piece) :: pieces
      | [] => [[c]]

def pointParts (text : String) : List String :=
  (splitPoints text.toList).map String.ofList

def isVersionChar (c : Char) : Bool :=
  Text.isDigit c || c == '_' || c == '-'

/-- Digits, low lines and hyphens, after a letter V perhaps. -/
def isVersion (text : String) : Bool :=
  let number := match text.toList with
    | 'v' :: rest => rest
    | 'V' :: rest => rest
    | cs => cs
  !number.isEmpty && number.all isVersionChar

def Consumer.ofText? (text : String) : Option Consumer :=
  match pointParts text with
  | [i, cls, code] => (Consumer.member i cls code).toOption
  | [i, cls, code, subsystem] => (Consumer.ofSubsystem i cls code subsystem).toOption
  | _ => none

def SecurityServer.ofText? (text : String) : Option SecurityServer :=
  match pointParts text with
  | [i, cls, code, server] => (SecurityServer.build i cls code server).toOption
  | _ => none

def Service.ofText? (text : String) : Option Service :=
  match pointParts text with
  | [i, cls, code, service] => (Service.owned i cls code service).toOption
  | [i, cls, code, a, b] =>
    if isVersion b then (do (← Service.owned i cls code a).withVersion b).toOption
    else (do (← Service.owned i cls code b).withSubsystem a).toOption
  | [i, cls, code, subsystem, service, version] =>
    (do
      let s ← Service.owned i cls code service
      let s ← s.withSubsystem subsystem
      s.withVersion version).toOption
  | _ => none

end XRoad
