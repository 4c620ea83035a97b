import ScriptStats.Text.Case
import ScriptStats.Text.Quoted
import ScriptStats.Text.Utf8
import ScriptStats.Text.Lines
import ScriptStats.Text.Blank
import ScriptStats.Text.Digit
import ScriptStats.Text.Separator
import ScriptStats.Text.WordChar
import ScriptStats.Markup.Normal
import ScriptStats.Script
import ScriptStats.Json.Parser
import ScriptStats.Json.Printer
import ScriptStats.Tree
import ScriptStats.Report.Text
import ScriptStats.Path
import ScriptStats.Files.Memory
import ScriptStats.Analysis.Aggregation
import ScriptStats.Files.Disk
import ScriptStats.Cache
import ScriptStats.Settings.Basic
import ScriptStats.Session.Memory
import ScriptStats.Session.OnDisk
import ScriptStats.Yaml.Token.Name
import ScriptStats.Yaml.Token.Scalar
import ScriptStats.Yaml.Token.Lexer
import ScriptStats.Yaml.Tag
import ScriptStats.Yaml.Graph
import ScriptStats.Yaml.Scalar
import ScriptStats.Yaml.Document
import ScriptStats.Settings.OnDisk
import ScriptStats.CommandLine.Arguments
import ScriptStats.CommandLine.Help
import ScriptStats.CommandLine.Invocation
import ScriptStats.Machine.Basic
import ScriptStats.Machine.OnDisk
import ScriptStats.CommandLine.Run
import ScriptStats.Service.Query
import ScriptStats.Service.Answer
import ScriptStats.Main
import ScriptStats.Proofs.Markup.Tag
import ScriptStats.Proofs.Markup.Element
import ScriptStats.Proofs.Markup.Pair
import ScriptStats.Proofs.Markup.Segment
import ScriptStats.Proofs.Markup.NormalForm
import ScriptStats.Proofs.Markup.Marked
import ScriptStats.Proofs.Markup.Label
import ScriptStats.Proofs.Markup.Pieces
import ScriptStats.Proofs.Markup.Finding
import ScriptStats.Proofs.Markup.Removal
import ScriptStats.Proofs.Markup.Context
import ScriptStats.Proofs.Markup.Positions
import ScriptStats.Proofs.Analysis.Job
import ScriptStats.Proofs.Analysis.Still
import ScriptStats.Proofs.Analysis.Discovery
import ScriptStats.Proofs.Analysis.Frontier
import ScriptStats.Proofs.Analysis.Assembly
import ScriptStats.Proofs.Stats.Merge
import ScriptStats.Proofs.Text.Trimming
import ScriptStats.Proofs.Text.Words
import ScriptStats.Proofs.Script.Lines
import ScriptStats.Proofs.Script.Padding
import ScriptStats.Proofs.Script.Speaker
import ScriptStats.Proofs.Analysis.Recursion
import ScriptStats.Proofs.Analysis.Coverage
import ScriptStats.Proofs.Analysis.Placement
import ScriptStats.Proofs.Analysis.Contract
import ScriptStats.Proofs.Analysis.Truthful
import ScriptStats.Proofs.Analysis.Version
import ScriptStats.Proofs.Program
import ScriptStats.Proofs.Text.Utf8
import ScriptStats.Proofs.Json.Quoting
import ScriptStats.Proofs.Json.Numeral
import ScriptStats.Proofs.Binary64.Shortest
import ScriptStats.Proofs.Json.Fraction
import ScriptStats.Proofs.Json.Layout
import ScriptStats.Proofs.Json.RoundTrip
import ScriptStats.Proofs.Json.Sorted
import ScriptStats.Proofs.Json.Tidy
import ScriptStats.Proofs.Cache.Statistics
import ScriptStats.Proofs.Cache.Sound
import ScriptStats.Proofs.Cache.Reload
import ScriptStats.Proofs.Cache.Stored
import ScriptStats.Proofs.Cache.Loading
import ScriptStats.Proofs.Files.Disk
import ScriptStats.Proofs.Files.Write
import ScriptStats.Proofs.Cache.Kept
import ScriptStats.Proofs.Session.Desk
import ScriptStats.Proofs.Session.Steady
import ScriptStats.Proofs.Session.Recorded
import ScriptStats.Proofs.Session.Simulation
import ScriptStats.Proofs.Session.Records
import ScriptStats.Proofs.Session.Refresh
import ScriptStats.Proofs.Session.Call
import ScriptStats.Proofs.Session.World
import ScriptStats.Proofs.Session.History
import ScriptStats.Proofs.Session.Phase
import ScriptStats.Proofs.Session.Turn
import ScriptStats.Proofs.Session.Journal
import ScriptStats.Proofs.Session.Overlap
import ScriptStats.Proofs.Session.Orderly
import ScriptStats.Proofs.Session.Reentrant
import ScriptStats.Proofs.Session.Nesting
import ScriptStats.Proofs.Session.CacheFile
import ScriptStats.Proofs.Session.Analyses
import ScriptStats.Proofs.Session.AtWork
import ScriptStats.Proofs.Session.Saved
import ScriptStats.Proofs.Session.Ready
import ScriptStats.Proofs.Session.Racing
import ScriptStats.Proofs.Session.Uninterrupted
import ScriptStats.Proofs.Session.Meanwhile
import ScriptStats.Proofs.Session.Adding
import ScriptStats.Proofs.Session.Together
import ScriptStats.Proofs.Session.Asked
import ScriptStats.Proofs.Session.Opened
import ScriptStats.Proofs.Session.Reuse
import ScriptStats.Proofs.Files.Growth
import ScriptStats.Proofs.Files.Real
import ScriptStats.Proofs.Session.Again
import ScriptStats.Proofs.Analysis.Consistent
import ScriptStats.Proofs.Analysis.Levels
import ScriptStats.Proofs.Analysis.Folding
import ScriptStats.Proofs.Cache.Possible
import ScriptStats.Proofs.Machine.Document
import ScriptStats.Proofs.Session.OwnCache
import ScriptStats.Proofs.Session.Recall
import ScriptStats.Proofs.Stats.Grouping
import ScriptStats.Proofs.Report.DisplayOrder
import ScriptStats.Proofs.Report.Preorder
import ScriptStats.Proofs.Report.Relisting
import ScriptStats.Proofs.Settings.Reading
import ScriptStats.Proofs.Settings.OnDisk
import ScriptStats.Proofs.Settings.Root
import ScriptStats.Proofs.Session.Configured
import ScriptStats.Proofs.Session.ScriptFile
