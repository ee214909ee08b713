import ViewModel.Command.Form
import ViewModel.Command.Generate
import ViewModel.Command.Line
import ViewModel.Command.Page
import ViewModel.Command.Program
import ViewModel.Command.Structures
import ViewModel.DataSet.Batch
import ViewModel.DataSet.File
import ViewModel.DataSet.Report
import ViewModel.Files.Action
import ViewModel.Files.FileSystem
import ViewModel.Files.Path
import ViewModel.Literal.Basic
import ViewModel.Literal.DataModule
import ViewModel.Literal.Encoder
import ViewModel.Log
import ViewModel.Log.Session
import ViewModel.Main
import ViewModel.Number.Token
import ViewModel.Number.Written
import ViewModel.Proofs.Command.Generation
import ViewModel.Proofs.DataSet.Batch
import ViewModel.Proofs.DataSet.Convert
import ViewModel.Proofs.DataSet.Independence
import ViewModel.Proofs.Literal.Alternatives
import ViewModel.Proofs.Literal.Closed
import ViewModel.Proofs.Literal.Collected
import ViewModel.Proofs.Literal.Conformance
import ViewModel.Proofs.Literal.Degraded
import ViewModel.Proofs.Literal.Direct
import ViewModel.Proofs.Literal.Faithful
import ViewModel.Proofs.Literal.Indentation
import ViewModel.Proofs.Literal.Integer
import ViewModel.Proofs.Literal.Lookup
import ViewModel.Proofs.Literal.Qualified
import ViewModel.Proofs.Literal.Redefinition
import ViewModel.Proofs.Literal.References
import ViewModel.Proofs.Literal.SameMembers
import ViewModel.Proofs.Literal.Scalar
import ViewModel.Proofs.Literal.Scanned
import ViewModel.Proofs.Literal.Totality
import ViewModel.Proofs.Literal.Unambiguous
import ViewModel.Proofs.Literal.Unread
import ViewModel.Proofs.Literal.Unrelated
import ViewModel.Proofs.Log.Reported
import ViewModel.Proofs.Schema.Builder
import ViewModel.Proofs.Schema.Constraints
import ViewModel.Proofs.Schema.Containment
import ViewModel.Proofs.Schema.Directory
import ViewModel.Proofs.Schema.Reach
import ViewModel.Proofs.Tree.Handler
import ViewModel.Proofs.Tree.Projection
import ViewModel.Proofs.TypesModule.Introduced
import ViewModel.Proofs.TypesModule.MemberNames
import ViewModel.Proofs.TypesModule.Outline
import ViewModel.Proofs.TypesModule.Resolution
import ViewModel.Schema.Declaration
import ViewModel.Schema.Directory
import ViewModel.Schema.Registry
import ViewModel.Schema.Source
import ViewModel.Schema.Validated
import ViewModel.Settings.Assignments
import ViewModel.Settings.Basic
import ViewModel.Terminal.Grid
import ViewModel.Terminal.Markup
import ViewModel.Terminal.Style
import ViewModel.Terminal.Width
import ViewModel.Terminal.Wrap
import ViewModel.Text.Blank
import ViewModel.Text.Digit
import ViewModel.Text.Identifier
import ViewModel.Text.Printable
import ViewModel.Text.Similar
import ViewModel.Text.Upper
import ViewModel.Text.Utf8
import ViewModel.Tree.File
import ViewModel.Tree.Normal
import ViewModel.Tree.Scalar
import ViewModel.Tree.Written
import ViewModel.TypesModule
import ViewModel.TypesModule.File
import ViewModel.Xml.Document
import ViewModel.Xml.Merge
import ViewModel.Xml.Prolog.Doctype
import ViewModel.Xml.Scan
