import Graft.Automaton.Closure
import Graft.Automaton.Conflict
import Graft.Automaton.Followers
import Graft.Automaton.Item
import Graft.Automaton.Merge
import Graft.Automaton.States
import Graft.Automaton.Table
import Graft.Automaton.TokenSet
import Graft.CodePattern
import Graft.CodePattern.Cache
import Graft.CodePattern.Language
import Graft.CommandLine
import Graft.CommandLine.Arguments
import Graft.CommandLine.FileTree
import Graft.CommandLine.Report
import Graft.Component
import Graft.Data
import Graft.Data.Json
import Graft.Diff
import Graft.Edit
import Graft.Grammar.Production
import Graft.Grammar.Rule
import Graft.Grammar.Tsx
import Graft.Grammar.Tsx.Expressions
import Graft.Grammar.Tsx.Functions
import Graft.Grammar.Tsx.Modules
import Graft.Grammar.Tsx.Statements
import Graft.Grammar.Tsx.Tokens
import Graft.Grammar.Tsx.Types
import Graft.Grammar.Vocabulary
import Graft.Hash
import Graft.Import.Existing
import Graft.Import.Placement
import Graft.Import.Resolve
import Graft.Import.Spec
import Graft.Lexicon.Contextual
import Graft.Lexicon.Overlap
import Graft.Lexicon.Position
import Graft.Lexicon.Scanner
import Graft.Main
import Graft.Markup
import Graft.Parse.Component
import Graft.Parse.Parser
import Graft.Parse.Stack
import Graft.Parse.Subtree
import Graft.Parse.Tokenizer
import Graft.Parse.Tree
import Graft.Plan
import Graft.Plan.Decode
import Graft.Proofs.Acceptance
import Graft.Proofs.Batch
import Graft.Proofs.BindingPatterns
import Graft.Proofs.Bindings
import Graft.Proofs.Boundary
import Graft.Proofs.Children
import Graft.Proofs.ConflictReports
import Graft.Proofs.Consistency
import Graft.Proofs.Crlf
import Graft.Proofs.Declarations
import Graft.Proofs.DefaultComponent
import Graft.Proofs.Deletion
import Graft.Proofs.Diagnostics
import Graft.Proofs.EffectPlacement
import Graft.Proofs.Enclosure
import Graft.Proofs.FileRewriting
import Graft.Proofs.Generation
import Graft.Proofs.Grouping
import Graft.Proofs.HookOrder
import Graft.Proofs.ImportEdits
import Graft.Proofs.LineCut
import Graft.Proofs.LineEndings
import Graft.Proofs.Lines
import Graft.Proofs.MergePlaces
import Graft.Proofs.Merging
import Graft.Proofs.Nesting
import Graft.Proofs.Overlaps
import Graft.Proofs.PatternCaching
import Graft.Proofs.Places
import Graft.Proofs.PlanChecks
import Graft.Proofs.Prologue
import Graft.Proofs.Queueing
import Graft.Proofs.Reading
import Graft.Proofs.Reindenting
import Graft.Proofs.Remerging
import Graft.Proofs.Rendering
import Graft.Proofs.Reordering
import Graft.Proofs.Selection
import Graft.Proofs.Shifting
import Graft.Proofs.Sketch
import Graft.Proofs.Slots
import Graft.Proofs.SpanLookup
import Graft.Proofs.Specifiers
import Graft.Proofs.Substituting
import Graft.Proofs.Tags
import Graft.Proofs.Traversal
import Graft.Proofs.TreeRanges
import Graft.Proofs.Walking
import Graft.Proofs.Weave
import Graft.Proofs.WellFormed
import Graft.Proofs.Wrappers
import Graft.Query
import Graft.Query.Component
import Graft.Query.Condition
import Graft.Query.Possible
import Graft.Query.Reader
import Graft.Query.Schema
import Graft.Query.Search
import Graft.Query.Step
import Graft.Session
import Graft.Session.Draft
import Graft.Session.Generate
import Graft.Session.Outcome
import Graft.Session.Request
import Graft.SourceFile
import Graft.Substitution
import Graft.Text.Age
import Graft.Text.Alphanumeric
import Graft.Text.Blank
import Graft.Text.CaseFold
import Graft.Text.Category
import Graft.Text.CharSet
import Graft.Text.Lines
import Graft.Text.Offset
import Graft.Text.Packed
import Graft.Text.Property
import Graft.Text.Quoted
import Graft.Text.Regex
import Graft.Text.Regex.Class
import Graft.Text.Regex.Reader
import Graft.Text.Regex.Size
import Graft.Text.Script
import Graft.Text.Search
import Graft.Text.Segment
import Graft.Text.Similarity
import Graft.Text.Source
import Graft.Text.Uppercase
import Graft.Text.Word
import Graft.Toml
import Graft.Toml.Scalar
import Graft.Toml.Table
import Graft.Tree.Cursor
import Graft.Tree.Document
import Graft.Tree.Node
import Graft.Validation
