import Weave.CommandLine.Basic
import Weave.CommandLine.Help
import Weave.Comment
import Weave.Conversion.Basic
import Weave.Conversion.Error
import Weave.Delivery
import Weave.Document
import Weave.Failure
import Weave.FileSystem
import Weave.Glob.Pattern
import Weave.Glob.Search
import Weave.Ignore.Pattern
import Weave.Ignore.Rule
import Weave.Ignore.Walk
import Weave.Main
import Weave.Output
import Weave.Path
import Weave.Program
import Weave.Proofs.Batches
import Weave.Proofs.BoundedWriting
import Weave.Proofs.BraceCounters
import Weave.Proofs.Calls
import Weave.Proofs.Conservation
import Weave.Proofs.Delimiters
import Weave.Proofs.Displacement
import Weave.Proofs.DocumentNames
import Weave.Proofs.Driving
import Weave.Proofs.Emission
import Weave.Proofs.Fallible
import Weave.Proofs.FencedBlocks
import Weave.Proofs.FileChanges
import Weave.Proofs.InsertedProse
import Weave.Proofs.LayeredSettings
import Weave.Proofs.LineConvention
import Weave.Proofs.LineEndings
import Weave.Proofs.Locality
import Weave.Proofs.Lockstep
import Weave.Proofs.Markers
import Weave.Proofs.NestedTemplates
import Weave.Proofs.Offsets
import Weave.Proofs.OutputPaths
import Weave.Proofs.Pieces
import Weave.Proofs.Placement
import Weave.Proofs.Policies
import Weave.Proofs.Positions
import Weave.Proofs.ProseOnly
import Weave.Proofs.PureCode
import Weave.Proofs.Reading
import Weave.Proofs.RecursiveDescent
import Weave.Proofs.Resumption
import Weave.Proofs.Separation
import Weave.Proofs.SingleRuns
import Weave.Proofs.SlashContext
import Weave.Proofs.StoredDocuments
import Weave.Proofs.Streaming
import Weave.Proofs.Stretches
import Weave.Proofs.TemplateTree
import Weave.Proofs.Tiling
import Weave.Proofs.TopLevel
import Weave.Proofs.TrailingSpace
import Weave.Proofs.ValidSettings
import Weave.Proofs.WrittenProse
import Weave.Scanner
import Weave.Segment.Basic
import Weave.Segment.Segmenter
import Weave.Selection
import Weave.Settings.Basic
import Weave.Settings.Load
import Weave.Settings.Toml
import Weave.Template
import Weave.Text.Basic
import Weave.Text.HiddenTable
import Weave.Text.Identifier
import Weave.Text.IdentifierTable
import Weave.Text.Order
import Weave.Text.Position
import Weave.Text.Quoted
import Weave.Text.Space
import Weave.Text.Utf8
import Weave.Token.Basic
import Weave.Token.Lexeme
import Weave.Token.Progress
import Weave.Toml.Document
import Weave.Toml.Quoted
import Weave.Toml.Scalar
import Weave.Toml.Table
import Weave.Toml.Value
