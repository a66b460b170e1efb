import XRoad.Identifier.Basic
import XRoad.Xml.Error

/-!
# Messages that cannot be read or written
-/

namespace XRoad

inductive ReadError where
  | xml (cause : Xml.Error)
  | missingHeader
  | missingHeaderElement (name : String)
  | invalidIdentifier (element : String) (cause : IdentifierError)
  | missingRequestBody
  | wrongNamespace (found : String)
  | payload (reason : String)
  deriving DecidableEq

def ReadError.message : ReadError → String
  | .xml cause => cause.message
  | .missingHeader => "SOAP header is missing."
  | .missingHeaderElement name => name ++ " element is missing from SOAP header."
  | .invalidIdentifier element cause =>
    "Invalid identifier in \"" ++ element ++ "\" element: " ++ cause.message
  | .missingRequestBody => "Request body is missing."
  | .wrongNamespace found => "Wrong namespace URI: " ++ found
  | .payload reason => "Unable to deserialize payload: " ++ reason

inductive WriteError where
  | payload (reason : String)
  | missingNamespaceUri
  | missing (what : String)
  deriving DecidableEq

def WriteError.message : WriteError → String
  | .payload reason => "Unable to serialize payload: " ++ reason
  | .missingNamespaceUri => "Producer namespace URI can't be null or empty."
  | .missing what => what ++ " is required to build the SOAP header."

end XRoad
