import XRoad.Text.Utf8
import XRoad.Text.Blank
import XRoad.Text.Digit
import XRoad.Text.Case
import XRoad.Xml.Path
import XRoad.Xml.Namespace
import XRoad.Xml.Leaves
import XRoad.Xml.Printer
import XRoad.Xml.Reader
import XRoad.Xml.Error
import XRoad.Protocol
import XRoad.Digest.Request
import XRoad.Identifier.Notation
import XRoad.Header.Basic
import XRoad.Request.Printer
import XRoad.Response.Printer
import XRoad.Response.MetaService
import XRoad.Report
import XRoad.Config.Basic
import XRoad.CommandLine.Run
import XRoad.Main
import XRoad.Proofs.Basic
import XRoad.Proofs.Table
import XRoad.Proofs.Text
import XRoad.Proofs.Xml.RoundTrip
import XRoad.Proofs.Xml.Namespace
import XRoad.Proofs.Xml.Stable
import XRoad.Proofs.Xml.Rewriting
import XRoad.Proofs.Xml.LaidOut
import XRoad.Proofs.Identifier.Notation
import XRoad.Proofs.Identifier.Ambiguity
import XRoad.Proofs.Soap.Run
import XRoad.Proofs.Request.RoundTrip
import XRoad.Proofs.Request.Namespace
import XRoad.Proofs.Response.SoapFault
import XRoad.Proofs.Response.ServiceError
import XRoad.Proofs.Response.Answer
import XRoad.Proofs.Response.Echo
import XRoad.Proofs.Response.Header
import XRoad.Proofs.Response.Namespace
import XRoad.Proofs.Response.Versions
import XRoad.Proofs.Response.Methods
import XRoad.Proofs.Header.Layout
import XRoad.Proofs.Identifier.Shape
import XRoad.Proofs.Text.Case
import XRoad.Proofs.Yaml.Entries
import XRoad.Proofs.Config.Lower
import XRoad.Proofs.Config.Merge
import XRoad.Proofs.Config.Reload
import XRoad.Proofs.Config.Keys
import XRoad.Proofs.Xml.Moving
import XRoad.Proofs.Xml.LeafTable
import XRoad.Proofs.Config.Setting
import XRoad.Proofs.Config.Layered
import XRoad.Proofs.Config.Order
import XRoad.Proofs.Xml.Content
