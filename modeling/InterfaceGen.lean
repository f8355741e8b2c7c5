import InterfaceGen.Interface.Reader
import InterfaceGen.Layout.Script
import InterfaceGen.Proofs.Accounting
import InterfaceGen.Proofs.Cancellation
import InterfaceGen.Proofs.Constraints
import InterfaceGen.Proofs.DeclaredName
import InterfaceGen.Proofs.Dropped
import InterfaceGen.Proofs.Explicit
import InterfaceGen.Proofs.FileNames
import InterfaceGen.Proofs.GivenUp
import InterfaceGen.Proofs.GlobalUsings
import InterfaceGen.Proofs.Json.Decoding
import InterfaceGen.Proofs.Json.Revision
import InterfaceGen.Proofs.Json.Text
import InterfaceGen.Proofs.Json.Tolerance
import InterfaceGen.Proofs.Layout.Accessors
import InterfaceGen.Proofs.Layout.Anchors
import InterfaceGen.Proofs.Layout.BlankLines
import InterfaceGen.Proofs.Layout.Carried
import InterfaceGen.Proofs.Layout.Chunks
import InterfaceGen.Proofs.Layout.Content
import InterfaceGen.Proofs.Layout.Defaults
import InterfaceGen.Proofs.Layout.Directives
import InterfaceGen.Proofs.Layout.Growth
import InterfaceGen.Proofs.Layout.Ink
import InterfaceGen.Proofs.Layout.Line
import InterfaceGen.Proofs.Layout.Neatness
import InterfaceGen.Proofs.Layout.Printer
import InterfaceGen.Proofs.Layout.Quoting
import InterfaceGen.Proofs.Layout.Rereading
import InterfaceGen.Proofs.Layout.Switches
import InterfaceGen.Proofs.Layout.Words
import InterfaceGen.Proofs.LineEndings
import InterfaceGen.Proofs.LiteralValue
import InterfaceGen.Proofs.Log
import InterfaceGen.Proofs.Paths
import InterfaceGen.Proofs.ReservedWords
import InterfaceGen.Proofs.Revised
import InterfaceGen.Proofs.RoundTrip
import InterfaceGen.Proofs.Selected
import InterfaceGen.Proofs.Spelling
import InterfaceGen.Proofs.Stamp
import InterfaceGen.Proofs.TextLiteral
import InterfaceGen.Proofs.Transfer
import InterfaceGen.Proofs.Unselected
import InterfaceGen.Proofs.Usings
import InterfaceGen.Report
import InterfaceGen.Session
import InterfaceGen.Settings.Load
import InterfaceGen.Symbol.Schema
