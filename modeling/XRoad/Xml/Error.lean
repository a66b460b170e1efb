/-!
# Documents that cannot be read
-/

namespace XRoad.Xml

inductive Error where
  /-- Markup that does not end, or an end tag that closes nothing. -/
  | malformed (reason : String)
  | encoding (reason : String)
  | attribute (reason : String)
  | unboundPrefix (nsPrefix : String)
  | unknownEntity (name : String)
  | unexpectedEnd (name : String)
  | unclosed (name : String)
  | noRoot
  | multipleRoots (name : String)
  | missingEnvelope
  | missingBody
  deriving DecidableEq

def Error.message : Error → String
  | .malformed reason => "XML parse error: " ++ reason
  | .encoding reason => "Text decoding error: " ++ reason
  | .attribute reason => "Invalid attribute: " ++ reason
  | .unboundPrefix p => "Unbound namespace prefix: " ++ p
  | .unknownEntity name => "Unknown entity reference: &" ++ name ++ ";"
  | .unexpectedEnd name => "Unexpected closing tag: " ++ name
  | .unclosed name => "Unclosed element: " ++ name
  | .noRoot => "No root element found"
  | .multipleRoots name => "More than one root element: " ++ name
  | .missingEnvelope => "Missing SOAP Envelope"
  | .missingBody => "Missing SOAP Body"

end XRoad.Xml
