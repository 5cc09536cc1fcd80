import AnnotatedMake.CacheRecord
import AnnotatedMake.CommandLine.Invocation
import AnnotatedMake.CommandLine.Item
import AnnotatedMake.CommandLine.Outcome
import AnnotatedMake.CommandLine.Token
import AnnotatedMake.Completion.Candidate
import AnnotatedMake.Completion.Query
import AnnotatedMake.Completion.Session
import AnnotatedMake.Declaration
import AnnotatedMake.Definition
import AnnotatedMake.Diagnostics.Entry
import AnnotatedMake.Diagnostics.Layout
import AnnotatedMake.Diagnostics.Loggers
import AnnotatedMake.Digest
import AnnotatedMake.Directive
import AnnotatedMake.Expansion
import AnnotatedMake.Fault
import AnnotatedMake.Host.FileSystem
import AnnotatedMake.Host.Host
import AnnotatedMake.Host.PlaceMap
import AnnotatedMake.Host.Program
import AnnotatedMake.Host.Resolution
import AnnotatedMake.IndexCache
import AnnotatedMake.Json
import AnnotatedMake.Main
import AnnotatedMake.Number.Binary64
import AnnotatedMake.Number.Literal
import AnnotatedMake.Number.Shortest
import AnnotatedMake.OrderedMap
import AnnotatedMake.Path
import AnnotatedMake.Platform
import AnnotatedMake.Proofs.CacheRecord.Editing
import AnnotatedMake.Proofs.CacheRecord.Lossless
import AnnotatedMake.Proofs.CacheRecord.Merging
import AnnotatedMake.Proofs.CacheRecord.RoundTrip
import AnnotatedMake.Proofs.Candidate
import AnnotatedMake.Proofs.Collection
import AnnotatedMake.Proofs.CommandLine.Bypassing
import AnnotatedMake.Proofs.CommandLine.Carrying
import AnnotatedMake.Proofs.CommandLine.Dumping
import AnnotatedMake.Proofs.CommandLine.Ending
import AnnotatedMake.Proofs.CommandLine.Printing
import AnnotatedMake.Proofs.CommandLine.Refusing
import AnnotatedMake.Proofs.CommandLine.Sparing
import AnnotatedMake.Proofs.Completion.Asking
import AnnotatedMake.Proofs.Completion.Comparing
import AnnotatedMake.Proofs.Completion.Narrowing
import AnnotatedMake.Proofs.Completion.Offering
import AnnotatedMake.Proofs.Declaration.Editing
import AnnotatedMake.Proofs.Declaration.Isolation
import AnnotatedMake.Proofs.Declaration.Meaning
import AnnotatedMake.Proofs.Diagnostics.Sharing
import AnnotatedMake.Proofs.Expansion
import AnnotatedMake.Proofs.Host.Avoiding
import AnnotatedMake.Proofs.Host.Change
import AnnotatedMake.Proofs.Host.Effect
import AnnotatedMake.Proofs.Host.Lasting
import AnnotatedMake.Proofs.Host.Looking
import AnnotatedMake.Proofs.Host.Losing
import AnnotatedMake.Proofs.Host.Making
import AnnotatedMake.Proofs.Host.Naming
import AnnotatedMake.Proofs.Host.Reading
import AnnotatedMake.Proofs.Host.Report
import AnnotatedMake.Proofs.Host.Resolved
import AnnotatedMake.Proofs.Host.Resolving
import AnnotatedMake.Proofs.Host.Rooted
import AnnotatedMake.Proofs.Host.Route
import AnnotatedMake.Proofs.Host.Seeing
import AnnotatedMake.Proofs.Host.Sharing
import AnnotatedMake.Proofs.Host.Temporary
import AnnotatedMake.Proofs.Host.Unlinked
import AnnotatedMake.Proofs.Host.Walk
import AnnotatedMake.Proofs.Host.Writing
import AnnotatedMake.Proofs.IndexCache.Again
import AnnotatedMake.Proofs.IndexCache.Answer
import AnnotatedMake.Proofs.IndexCache.Clearing
import AnnotatedMake.Proofs.IndexCache.Emptying
import AnnotatedMake.Proofs.IndexCache.Giving
import AnnotatedMake.Proofs.IndexCache.Interleaving
import AnnotatedMake.Proofs.IndexCache.Keys
import AnnotatedMake.Proofs.IndexCache.Name
import AnnotatedMake.Proofs.IndexCache.Overtaken
import AnnotatedMake.Proofs.IndexCache.Phases
import AnnotatedMake.Proofs.IndexCache.Pool
import AnnotatedMake.Proofs.IndexCache.Publish
import AnnotatedMake.Proofs.IndexCache.Run
import AnnotatedMake.Proofs.IndexCache.Safety
import AnnotatedMake.Proofs.IndexCache.Serving
import AnnotatedMake.Proofs.IndexCache.Transparency
import AnnotatedMake.Proofs.IndexCache.Wholeness
import AnnotatedMake.Proofs.Path
import AnnotatedMake.Proofs.RuleName
import AnnotatedMake.Proofs.ScopeIndex
import AnnotatedMake.Proofs.ScopeIndex.Consistency
import AnnotatedMake.Proofs.ScopeIndex.Order
import AnnotatedMake.Proofs.Setting.Ending
import AnnotatedMake.Proofs.Setting.Loading
import AnnotatedMake.Proofs.Setting.Typing
import AnnotatedMake.Proofs.Shell.Abbreviating
import AnnotatedMake.Proofs.Shell.Ending
import AnnotatedMake.Proofs.Shell.FishReading
import AnnotatedMake.Proofs.Shell.Installing
import AnnotatedMake.Proofs.Shell.Placing
import AnnotatedMake.Proofs.Shell.Reader
import AnnotatedMake.Proofs.Shell.Reading
import AnnotatedMake.Proofs.Shell.Splicing
import AnnotatedMake.Proofs.Text.Cutting
import AnnotatedMake.Proofs.Text.Utf8
import AnnotatedMake.Proofs.Toml.Fault
import AnnotatedMake.Remark
import AnnotatedMake.RuleName
import AnnotatedMake.ScopeIndex
import AnnotatedMake.Setting.Loading
import AnnotatedMake.Setting.Locations
import AnnotatedMake.Setting.Moment
import AnnotatedMake.Setting.Reading
import AnnotatedMake.Setting.Schema
import AnnotatedMake.Setting.Section
import AnnotatedMake.Setting.Settings
import AnnotatedMake.Setting.Similarity
import AnnotatedMake.Setting.Value
import AnnotatedMake.Shell.Installation
import AnnotatedMake.Shell.Script
import AnnotatedMake.Shell.ScriptFile
import AnnotatedMake.Shell.Word
import AnnotatedMake.Text.Blank
import AnnotatedMake.Text.Boundary
import AnnotatedMake.Text.Digit
import AnnotatedMake.Text.Distinct
import AnnotatedMake.Text.Letter
import AnnotatedMake.Text.Line
import AnnotatedMake.Text.Piece
import AnnotatedMake.Text.Printable
import AnnotatedMake.Text.Quoted
import AnnotatedMake.Text.Utf8
import AnnotatedMake.Toml.Document
import AnnotatedMake.Toml.Scalar
import AnnotatedMake.Toml.Table
import AnnotatedMake.Toml.Text
