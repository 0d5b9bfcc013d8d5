import UnitLinker.Binary.ImageFormat
import UnitLinker.Binary.Stored
import UnitLinker.Binary.UnitFormat
import UnitLinker.Binary.Utf8
import UnitLinker.Binary64
import UnitLinker.Command.Arguments
import UnitLinker.Command.Failure
import UnitLinker.Command.Loading
import UnitLinker.Command.Run
import UnitLinker.Command.Snapshot
import UnitLinker.Counting
import UnitLinker.Decimal.Fixed
import UnitLinker.Dependency.Index
import UnitLinker.Dependency.Reach
import UnitLinker.Dependency.Search
import UnitLinker.Diagnostic.Message
import UnitLinker.Diagnostic.Report
import UnitLinker.Diagnostic.Snippet
import UnitLinker.Files.Lemmas
import UnitLinker.Files.Path
import UnitLinker.Files.Tree
import UnitLinker.Image.Basic
import UnitLinker.Image.LinkMap
import UnitLinker.Image.Listing
import UnitLinker.Instruction.Basic
import UnitLinker.Instruction.Listing
import UnitLinker.Instruction.Operand
import UnitLinker.Journal
import UnitLinker.Journal.Filter
import UnitLinker.Link.Error
import UnitLinker.Link.Journal
import UnitLinker.Link.Layout
import UnitLinker.Link.Relocation
import UnitLinker.Link.Scope
import UnitLinker.Link.Space
import UnitLinker.Main
import UnitLinker.ObjectUnit.Basic
import UnitLinker.ObjectUnit.Builder
import UnitLinker.ObjectUnit.Error
import UnitLinker.ObjectUnit.Printer
import UnitLinker.Proofs.Binding
import UnitLinker.Proofs.BuiltUnits
import UnitLinker.Proofs.ControlFlow
import UnitLinker.Proofs.DependencyOrder
import UnitLinker.Proofs.GlobalTable
import UnitLinker.Proofs.Headings
import UnitLinker.Proofs.LinkedUnits
import UnitLinker.Proofs.Placement
import UnitLinker.Proofs.Relocation
import UnitLinker.Proofs.Results
import UnitLinker.Proofs.SearchState
import UnitLinker.Proofs.Tables
import UnitLinker.Proofs.Turns
import UnitLinker.Proofs.UsesGraph
import UnitLinker.Routine
import UnitLinker.Source.Lines
import UnitLinker.Source.Span
import UnitLinker.Table
import UnitLinker.Text.Align
import UnitLinker.Text.Blank
import UnitLinker.Text.CharSet
import UnitLinker.Text.Letter
import UnitLinker.Text.Pattern
import UnitLinker.Text.Pattern.Admission
import UnitLinker.Text.Pattern.Brackets
import UnitLinker.Text.Pattern.Cursor
import UnitLinker.Text.Pattern.Escape
import UnitLinker.Text.Pattern.Expression
import UnitLinker.Text.Pattern.Flaw
import UnitLinker.Text.Pattern.Footprint
import UnitLinker.Text.Pattern.Meaning
import UnitLinker.Text.Pattern.Reader
import UnitLinker.Text.Split
import UnitLinker.Text.Width
import UnitLinker.Types
import UnitLinker.Word
import UnitLinker.Proofs.Initialization
import UnitLinker.Proofs.References
import UnitLinker.Proofs.Refusals
import UnitLinker.Proofs.Acceptance
import UnitLinker.Proofs.Stripping
import UnitLinker.Proofs.BlockMoves
import UnitLinker.Proofs.SuppliedOrder
import UnitLinker.Proofs.Interfaces
import UnitLinker.Proofs.KeptUnits
import UnitLinker.Proofs.Utf8
import UnitLinker.Proofs.Storage
import UnitLinker.Proofs.StoredFormats
import UnitLinker.Proofs.Mirrors
import UnitLinker.Proofs.StoredUnits
import UnitLinker.Proofs.MisplacedSlots
import UnitLinker.Proofs.Edits
import UnitLinker.Proofs.Growth
import UnitLinker.Proofs.UnitTables
import UnitLinker.Proofs.RecursiveSearch
import UnitLinker.Proofs.OrderRefusals
import UnitLinker.Proofs.UnitLoading
import UnitLinker.Proofs.Cycles
import UnitLinker.Proofs.Limits
import UnitLinker.Proofs.FirstErrors
import UnitLinker.Proofs.Naming
import UnitLinker.Proofs.LinkedCode
import UnitLinker.Proofs.Listings
import UnitLinker.Proofs.Annotations
import UnitLinker.Proofs.ConstantText
import UnitLinker.Proofs.InstructionText
import UnitLinker.Proofs.CanonicalForms
import UnitLinker.Proofs.CanonicalUnits
import UnitLinker.Proofs.OpenEnds
import UnitLinker.Proofs.ArraySizes
import UnitLinker.Proofs.FrameNesting
import UnitLinker.Proofs.InstructionLists
import UnitLinker.Proofs.SearchMoments
import UnitLinker.Proofs.GraphLoops
