import Introspect.Catalog.Basic
import Introspect.Catalog.Codec
import Introspect.Catalog.Row
import Introspect.Catalog.Server
import Introspect.Catalog.Snapshot
import Introspect.CodeModel
import Introspect.Command.Arguments
import Introspect.Command.Notice
import Introspect.Command.Run
import Introspect.Document.Basic
import Introspect.Document.Record
import Introspect.Entries
import Introspect.Host.Environment
import Introspect.Host.FileSystem
import Introspect.Json.Reader
import Introspect.Json.Token
import Introspect.Json.Writer
import Introspect.Main
import Introspect.Model.Build
import Introspect.Model.Codec
import Introspect.Model.Enumeration
import Introspect.Model.Table
import Introspect.Name.Casing
import Introspect.Name.Exported
import Introspect.Query.Basic
import Introspect.Query.Codec
import Introspect.Query.Definition
import Introspect.Query.Report
import Introspect.Query.Resolution
import Introspect.Query.Spec
import Introspect.Session
import Introspect.Settings.Basic
import Introspect.Settings.Expansion
import Introspect.Text.Letter
import Introspect.Text.LetterCase
import Introspect.Text.Numeral
import Introspect.Text.Quoted
import Introspect.Toml.Decimal
import Introspect.Toml.Reader
import Introspect.Toml.Scalar
import Introspect.Toml.Table
import Introspect.Toml.Text
import Introspect.Types.ColumnType
import Introspect.Types.Literal
import Introspect.Types.Registry
import Introspect.Types.Scalar
import Introspect.Proofs.Outcome
import Introspect.Proofs.Entries
import Introspect.Proofs.Registry
import Introspect.Proofs.Table
import Introspect.Proofs.Build
import Introspect.Proofs.Resolution
import Introspect.Proofs.CodeModel
import Introspect.Proofs.QueryNames
import Introspect.Proofs.Capture
import Introspect.Proofs.Acceptance
import Introspect.Proofs.Report
import Introspect.Proofs.Enumeration
import Introspect.Proofs.Refusal
import Introspect.Proofs.Reordering
import Introspect.Proofs.Canonical
import Introspect.Proofs.Stability
import Introspect.Proofs.Session
import Introspect.Proofs.Failure
import Introspect.Proofs.Token
import Introspect.Proofs.Reading
import Introspect.Proofs.Edits
import Introspect.Proofs.RoundTrip
import Introspect.Proofs.Acronym
import Introspect.Proofs.Occurrence
import Introspect.Proofs.Casing
import Introspect.Proofs.Spelling
import Introspect.Proofs.LookupName
import Introspect.Proofs.Camel
import Introspect.Proofs.Quoted
import Introspect.Proofs.IndexKey
import Introspect.Proofs.Declared
import Introspect.Proofs.Server
import Introspect.Proofs.Literal
import Introspect.Proofs.Sorted
import Introspect.Proofs.Documents
import Introspect.Proofs.Command
import Introspect.Proofs.SortColumn
import Introspect.Proofs.Widening
import Introspect.Proofs.Recapture
import Introspect.Proofs.Expansion
import Introspect.Proofs.Settings
import Introspect.Proofs.Toml
import Introspect.Proofs.Field
import Introspect.Proofs.Override
import Introspect.Proofs.Warnings
