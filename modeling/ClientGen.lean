import ClientGen.Main
import ClientGen.Reference.Remaining
import ClientGen.Proofs.Files.View
import ClientGen.Proofs.Files.Following
import ClientGen.Proofs.Files.Writing
import ClientGen.Proofs.Generate.WholeFiles
import ClientGen.Proofs.Node.Sameness
import ClientGen.Proofs.Compile.Calls
import ClientGen.Proofs.Registry.Adding
import ClientGen.Proofs.Node.Formed
import ClientGen.Proofs.Compile.Formed
import ClientGen.Proofs.View.Capture
import ClientGen.Proofs.View.Run
import ClientGen.Proofs.View.Calls
import ClientGen.Proofs.View.Retention
import ClientGen.Proofs.Compile.Named
import ClientGen.Proofs.View.References
import ClientGen.Proofs.Fault.Ordinary
import ClientGen.Proofs.Compile.Ordinary
import ClientGen.Proofs.Compile.Offending
import ClientGen.Proofs.Compile.Paths
import ClientGen.Proofs.View.Names
import ClientGen.Proofs.View.Ordinary
import ClientGen.Proofs.Template.Ordinary
import ClientGen.Proofs.Registry.Strictness
import ClientGen.Proofs.View.Strictness
import ClientGen.Proofs.Generate.Strictness
import ClientGen.Proofs.Grouping.Formed
import ClientGen.Proofs.Document.Formed
import ClientGen.Proofs.Generate.Formed
import ClientGen.Proofs.Grouping.Partition
import ClientGen.Proofs.Grouping.Attribution
import ClientGen.Proofs.Naming.Identifier
import ClientGen.Proofs.Files.Inside
import ClientGen.Proofs.Generate.Destinations
import ClientGen.Proofs.Generate.OwnFiles
import ClientGen.Proofs.Compile.Enough
import ClientGen.Proofs.Node.Closed
import ClientGen.Proofs.Registry.Targets
import ClientGen.Proofs.Compile.Foreign
import ClientGen.Proofs.Document.Walk
import ClientGen.Proofs.Document.Inlining
import ClientGen.Proofs.Document.Fields
import ClientGen.Proofs.Generate.Stamping
import ClientGen.Proofs.Generate.Provenance
import ClientGen.Proofs.Generate.Attributed
import ClientGen.Proofs.Grouping.ReturnType
import ClientGen.Proofs.Template.Printing
import ClientGen.Proofs.View.Passages
import ClientGen.Proofs.View.Complete
import ClientGen.Proofs.Generate.Rendering
import ClientGen.Proofs.Text.Layout
import ClientGen.Proofs.Text.Closing
import ClientGen.Proofs.View.Comments
import ClientGen.Proofs.Fault.Ending
import ClientGen.Proofs.Yaml.Scanning
import ClientGen.Proofs.Yaml.Reading
import ClientGen.Proofs.Yaml.Values
import ClientGen.Proofs.Web.Exchange
import ClientGen.Proofs.Source.Loading
import ClientGen.Proofs.Node.Cycles
import ClientGen.Proofs.Compile.Cycles
import ClientGen.Proofs.Node.Keys
import ClientGen.Proofs.Registry.Replaying
import ClientGen.Proofs.Compile.Keyed
import ClientGen.Proofs.Compile.Filling
import ClientGen.Proofs.Generate.Index
import ClientGen.Proofs.Compile.Alike
import ClientGen.Proofs.Reordering.Document
import ClientGen.Proofs.Reordering.Acyclic
import ClientGen.Proofs.Reordering.Reading
import ClientGen.Proofs.Reordering.Schema
import ClientGen.Proofs.Reordering.Operation
import ClientGen.Proofs.Reordering.Grouping
import ClientGen.Proofs.Reordering.View
import ClientGen.Proofs.Text.Runs
import ClientGen.Proofs.Naming.Letters
import ClientGen.Proofs.Naming.Words
import ClientGen.Proofs.Naming.Segments
import ClientGen.Proofs.View.MethodNames
import ClientGen.Proofs.View.Attributes
import ClientGen.Proofs.View.Arguments
import ClientGen.Proofs.View.Placeholders
import ClientGen.Proofs.Text.Literal
import ClientGen.Proofs.Text.Arguments
import ClientGen.Proofs.View.Defaults
import ClientGen.Proofs.View.WireNames
import ClientGen.Proofs.Node.Pairs
import ClientGen.Proofs.View.QueryRecord
import ClientGen.Proofs.Text.Wrapping
import ClientGen.Proofs.Template.Filters
import ClientGen.Proofs.Grouping.MediaType
import ClientGen.Proofs.Naming.Normal
import ClientGen.Proofs.View.Renaming
import ClientGen.Proofs.Reference.Searching
import ClientGen.Proofs.Node.KeySpelling
import ClientGen.Proofs.Yaml.Formed
import ClientGen.Proofs.Source.Keys
import ClientGen.Proofs.Files.ReadingBack
import ClientGen.Proofs.Naming.Slug
import ClientGen.Proofs.Registry.Sequence
import ClientGen.Proofs.View.Alias
import ClientGen.Proofs.Generate.Alias
