import SchemaCheck.Catalog
import SchemaCheck.Catalog.Bundle
import SchemaCheck.Catalog.NameMap
import SchemaCheck.CommandLine.Arguments
import SchemaCheck.CommandLine.Command
import SchemaCheck.CommandLine.Run
import SchemaCheck.Document
import SchemaCheck.FileTree
import SchemaCheck.Json.Reader
import SchemaCheck.Json.Scan
import SchemaCheck.Json.Typed
import SchemaCheck.Json.Writer
import SchemaCheck.Main
import SchemaCheck.Number.Reading
import SchemaCheck.Number.Shortest
import SchemaCheck.Pattern.Basic
import SchemaCheck.Pattern.Bracket
import SchemaCheck.Pattern.Escape
import SchemaCheck.Pattern.Flags
import SchemaCheck.Pattern.Node
import SchemaCheck.Pattern.Property
import SchemaCheck.Pattern.Reader
import SchemaCheck.Proofs.Limits
import SchemaCheck.Report
import SchemaCheck.Rules
import SchemaCheck.Settings
import SchemaCheck.Spec.Reading
import SchemaCheck.Spec.Writing
import SchemaCheck.Text.Age
import SchemaCheck.Text.CaseFolding
import SchemaCheck.Text.Category
import SchemaCheck.Text.Lines
import SchemaCheck.Text.Property
import SchemaCheck.Text.Script
import SchemaCheck.Text.Segment
import SchemaCheck.Validation
import SchemaCheck.Yaml.Cursor
import SchemaCheck.Yaml.Node
import SchemaCheck.Yaml.Reader
import SchemaCheck.Yaml.Scalar
import SchemaCheck.Yaml.Writer
import SchemaCheck.Proofs.Conformance
import SchemaCheck.Proofs.Spec.Keys
import SchemaCheck.Proofs.Spec.Listing
import SchemaCheck.Proofs.Spec.Grammar
import SchemaCheck.Proofs.Spec.Locality
import SchemaCheck.Proofs.Spec.RoundTrip
import SchemaCheck.Proofs.Truth
import SchemaCheck.Proofs.Normalize
import SchemaCheck.Proofs.Observation
import SchemaCheck.Proofs.Embedding
import SchemaCheck.Proofs.Json.Alike
import SchemaCheck.Proofs.Spec.Simulation
import SchemaCheck.Proofs.Spec.Alike
import SchemaCheck.Proofs.Catalog.Bundle
import SchemaCheck.Proofs.Spec.Reread
import SchemaCheck.Proofs.Catalog.Reload
import SchemaCheck.Proofs.Json.Reordered
import SchemaCheck.Proofs.Reordering
import SchemaCheck.Proofs.Relaxation
import SchemaCheck.Proofs.Replacement
import SchemaCheck.Proofs.Spec.Unread
import SchemaCheck.Proofs.Exact
import SchemaCheck.Proofs.Json.KeysApart
import SchemaCheck.Proofs.Unrepeated
import SchemaCheck.Proofs.Rounding
import SchemaCheck.Proofs.Discernment
import SchemaCheck.Proofs.Spec.Same
import SchemaCheck.Proofs.Equality
import SchemaCheck.Proofs.Spec.WellFormed
import SchemaCheck.Proofs.Catalog.Chain
import SchemaCheck.Proofs.CommandLine.Validate
import SchemaCheck.Proofs.Catalog.Directory
import SchemaCheck.Proofs.CommandLine.ByLine
import SchemaCheck.Proofs.Report
import SchemaCheck.Proofs.Catalog.Bundled
import SchemaCheck.Proofs.Catalog.History
import SchemaCheck.Proofs.Path
import SchemaCheck.Proofs.Decoding
import SchemaCheck.Proofs.Announced
import SchemaCheck.Proofs.CommandLine.JsonLines
import SchemaCheck.Proofs.Spec.AllOrNothing
import SchemaCheck.Proofs.Mismatch
