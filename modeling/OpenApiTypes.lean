import OpenApiTypes.Text.Alphabetic
import OpenApiTypes.Text.Blank
import OpenApiTypes.Text.Numeric
import OpenApiTypes.Text.Uppercase
import OpenApiTypes.Text.Lines
import OpenApiTypes.Text.Order
import OpenApiTypes.Text.Literal
import OpenApiTypes.Number
import OpenApiTypes.Json.Reading
import OpenApiTypes.Document
import OpenApiTypes.Document.Decoding
import OpenApiTypes.Identifier
import OpenApiTypes.DocBlock
import OpenApiTypes.Declaration
import OpenApiTypes.Options
import OpenApiTypes.Event
import OpenApiTypes.Compilation
import OpenApiTypes.Document.Format
import OpenApiTypes.Yaml.Scalar
import OpenApiTypes.Yaml.Token.Scan
import OpenApiTypes.Yaml.Node.OfTokens
import OpenApiTypes.Diff.Group
import OpenApiTypes.LogFilter
import OpenApiTypes.Project.Files
import OpenApiTypes.Project.CommandLine
import OpenApiTypes.Main
import OpenApiTypes.Proofs.Outcomes
import OpenApiTypes.Proofs.Meaning.Soundness
import OpenApiTypes.Proofs.Emission.Unambiguous
import OpenApiTypes.Proofs.References.Resolution
import OpenApiTypes.Proofs.Layout.Code
import OpenApiTypes.Proofs.Compilation.EntryOrder
import OpenApiTypes.Proofs.Compilation.Policies
import OpenApiTypes.Proofs.Project.Agreement
import OpenApiTypes.Proofs.Lowering.Decision
import OpenApiTypes.Proofs.Lowering.Height
import OpenApiTypes.Proofs.Lowering.Blank
import OpenApiTypes.Proofs.Compilation.EnumMembers
import OpenApiTypes.Proofs.Compilation.Inline
import OpenApiTypes.Proofs.Layout.ClosedComments
import OpenApiTypes.Proofs.Compilation.InputOrder
import OpenApiTypes.Proofs.Compilation.SharedNames
import OpenApiTypes.Proofs.Compilation.Collection
import OpenApiTypes.Proofs.Meaning.OtherKeys
import OpenApiTypes.Proofs.Identifiers.Names
import OpenApiTypes.Proofs.Compilation.BuiltInNames
import OpenApiTypes.Proofs.Decoding.Ignored
import OpenApiTypes.Proofs.Project.Differences
import OpenApiTypes.Proofs.Project.Reports
import OpenApiTypes.Proofs.Project.Templates
import OpenApiTypes.Proofs.Project.Defaults
import OpenApiTypes.Proofs.Identifiers.Quoting
import OpenApiTypes.Proofs.Identifiers.Segments
import OpenApiTypes.Proofs.Order.Scalars
