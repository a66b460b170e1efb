import XRoad.Error
import XRoad.Table
import XRoad.Xml.Tree

/-!
# Faults

A message may carry a SOAP fault, or an error of the service itself. Either is an answer like any
other: it is not an error of reading or writing.
-/

namespace XRoad

inductive FaultKind where
  | standard
  /-- An error that the service reports in its answer. -/
  | nonTechnical
  deriving DecidableEq

def FaultKind.name : FaultKind → String
  | .standard => "STANDARD_SOAP_ERROR"
  | .nonTechnical => "NON_TECHNICAL_ERROR"

inductive FaultDetail where
  | text (content : String)
  | table (entries : Table String)
  | node (element : Xml.Element)
  deriving DecidableEq

structure Fault where
  kind : FaultKind
  code : Option String
  text : Option String
  actor : Option String := none
  detail : Option FaultDetail := none
  deriving DecidableEq

namespace Fault

def standard (code text actor : Option String) (detail : Option FaultDetail) : Fault :=
  { kind := .standard, code, text, actor, detail }

def nonTechnical (code text : Option String) : Fault :=
  { kind := .nonTechnical, code, text }

def internal : Fault :=
  .standard (some "SOAP-ENV:Server") (some "Internal server error.") (some "") (some (.text ""))

/-- The fault that tells a consumer what is wrong with its request. A namespace that is not the
expected one is not named. -/
def ofReadError (e : ReadError) : Fault :=
  let text := match e with
    | .wrongNamespace _ => "Wrong namespace URI."
    | other => other.message
  .standard (some "SOAP-ENV:Client") (some text) none none

def isStandard (f : Fault) : Bool :=
  f.kind == .standard

end Fault

end XRoad
