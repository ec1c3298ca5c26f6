import BlockSchema.Building
import BlockSchema.CommandLine.Options
import BlockSchema.CommandLine.Rehearsal
import BlockSchema.CommandLine.Request
import BlockSchema.CommandLine.Run
import BlockSchema.CompileError
import BlockSchema.Conversion.Basic
import BlockSchema.Conversion.Expand
import BlockSchema.Conversion.Flatten
import BlockSchema.Directive.Basic
import BlockSchema.Directive.Table
import BlockSchema.Document.Basic
import BlockSchema.Document.Decode
import BlockSchema.Document.Json.Reader
import BlockSchema.Document.Json.Token
import BlockSchema.Document.Json.Writer
import BlockSchema.Document.TextFormat
import BlockSchema.Document.Tree
import BlockSchema.Document.Yaml.Event
import BlockSchema.Document.Yaml.Reader
import BlockSchema.Document.Yaml.Resolution
import BlockSchema.Document.Yaml.Scalar
import BlockSchema.Document.Yaml.Text
import BlockSchema.Document.Yaml.Token
import BlockSchema.Entries
import BlockSchema.Files.Access
import BlockSchema.Files.Pattern
import BlockSchema.Files.Search
import BlockSchema.Files.Tree
import BlockSchema.Filter.Basic
import BlockSchema.Filter.Reader
import BlockSchema.Filter.Run
import BlockSchema.Filter.Token
import BlockSchema.Graph.Node
import BlockSchema.Graph.Outline
import BlockSchema.Graph.Shape
import BlockSchema.Graph.Walk
import BlockSchema.Group.Compile
import BlockSchema.Main
import BlockSchema.Manifest.Basic
import BlockSchema.Manifest.Format
import BlockSchema.Name.Identifier
import BlockSchema.Name.Words
import BlockSchema.Number.Binary64
import BlockSchema.Number.Reading
import BlockSchema.Number.Shortest
import BlockSchema.Output.Layout
import BlockSchema.Page.Basic
import BlockSchema.Page.Markdown
import BlockSchema.Plan.Basic
import BlockSchema.Plan.Format
import BlockSchema.Proofs.Building
import BlockSchema.Proofs.Conversion.Acceptance
import BlockSchema.Proofs.Conversion.Agreement
import BlockSchema.Proofs.Conversion.Blank
import BlockSchema.Proofs.Conversion.Conformance
import BlockSchema.Proofs.Conversion.Derivation
import BlockSchema.Proofs.Conversion.Fields
import BlockSchema.Proofs.Conversion.Memory
import BlockSchema.Proofs.Conversion.Nesting
import BlockSchema.Proofs.Conversion.Order
import BlockSchema.Proofs.Conversion.Reading
import BlockSchema.Proofs.Conversion.Replacement
import BlockSchema.Proofs.Conversion.RoundTrip
import BlockSchema.Proofs.Conversion.Settled
import BlockSchema.Proofs.Conversion.Shapes
import BlockSchema.Proofs.Directive.Collection
import BlockSchema.Proofs.Directive.Exclusion
import BlockSchema.Proofs.Directive.Facts
import BlockSchema.Proofs.Directive.Order
import BlockSchema.Proofs.Directive.Renaming
import BlockSchema.Proofs.Directive.Resolution
import BlockSchema.Proofs.Document.Json.Cutting
import BlockSchema.Proofs.Document.Json.Prefix
import BlockSchema.Proofs.Document.Json.Reading
import BlockSchema.Proofs.Document.Json.Records
import BlockSchema.Proofs.Document.Json.Tokens
import BlockSchema.Proofs.Document.Records
import BlockSchema.Proofs.Document.Written
import BlockSchema.Proofs.Document.Yaml.Extent
import BlockSchema.Proofs.Entries
import BlockSchema.Proofs.Graph.Acceptance
import BlockSchema.Proofs.Graph.Cycles
import BlockSchema.Proofs.Graph.Derivation
import BlockSchema.Proofs.Graph.Exclusion
import BlockSchema.Proofs.Graph.Failures
import BlockSchema.Proofs.Graph.Lockstep
import BlockSchema.Proofs.Graph.Memory
import BlockSchema.Proofs.Graph.Moments
import BlockSchema.Proofs.Graph.Names
import BlockSchema.Proofs.Graph.Nesting
import BlockSchema.Proofs.Graph.Offences
import BlockSchema.Proofs.Graph.Reach
import BlockSchema.Proofs.Graph.Rebuild
import BlockSchema.Proofs.Graph.Reference
import BlockSchema.Proofs.Graph.Renaming
import BlockSchema.Proofs.Graph.Replacement
import BlockSchema.Proofs.Graph.Transparency
import BlockSchema.Proofs.Graph.Walker
import BlockSchema.Proofs.Graph.WellFormed
import BlockSchema.Proofs.Group.Acceptance
import BlockSchema.Proofs.Group.Alignment
import BlockSchema.Proofs.Group.Closure
import BlockSchema.Proofs.Group.Conversions
import BlockSchema.Proofs.Group.Exclusion
import BlockSchema.Proofs.Group.Members
import BlockSchema.Proofs.Group.Narrowing
import BlockSchema.Proofs.Group.Order
import BlockSchema.Proofs.Group.Pages
import BlockSchema.Proofs.Group.Policy
import BlockSchema.Proofs.Group.References
import BlockSchema.Proofs.Group.Registry
import BlockSchema.Proofs.Group.Rules
import BlockSchema.Proofs.Group.Schemas
import BlockSchema.Proofs.Group.Separation
import BlockSchema.Proofs.Group.Session
import BlockSchema.Proofs.Group.Supply
import BlockSchema.Proofs.Group.Values
import BlockSchema.Proofs.Manifest.Document
import BlockSchema.Proofs.Manifest.Loading
import BlockSchema.Proofs.Manifest.References
import BlockSchema.Proofs.Name.Canonical
import BlockSchema.Proofs.Name.Member
import BlockSchema.Proofs.Name.Snake
import BlockSchema.Proofs.Name.Usable
import BlockSchema.Proofs.Output.Confinement
import BlockSchema.Proofs.Output.Paths
import BlockSchema.Proofs.Output.Places
import BlockSchema.Proofs.Page.Links
import BlockSchema.Proofs.Page.Order
import BlockSchema.Proofs.Page.Sections
import BlockSchema.Proofs.Plan.Registration
import BlockSchema.Proofs.Plan.Text
import BlockSchema.Proofs.Results
import BlockSchema.Proofs.Routine.Agreement
import BlockSchema.Proofs.Routine.Expansion
import BlockSchema.Proofs.Routine.Flattening
import BlockSchema.Proofs.Routine.Helpers
import BlockSchema.Proofs.Routine.Holding
import BlockSchema.Proofs.Routine.Linking
import BlockSchema.Proofs.Routine.Meaning
import BlockSchema.Proofs.Routine.Plain
import BlockSchema.Proofs.Routine.Reading
import BlockSchema.Proofs.Schema.Admission
import BlockSchema.Proofs.Schema.Derivation
import BlockSchema.Proofs.Schema.Form
import BlockSchema.Proofs.Schema.Nesting
import BlockSchema.Proofs.Schema.Replacement
import BlockSchema.Proofs.Schema.Text
import BlockSchema.Proofs.Text.FilePath
import BlockSchema.Proofs.Text.Reader
import BlockSchema.Routine.Basic
import BlockSchema.Routine.Source
import BlockSchema.Schema.Basic
import BlockSchema.Schema.Format
import BlockSchema.Text.FilePath
import BlockSchema.Text.Quoted
import BlockSchema.Unicode.Letter
import BlockSchema.Unicode.Lowering
import BlockSchema.Value.Basic
import BlockSchema.Value.Reading
import BlockSchema.Value.Typed
