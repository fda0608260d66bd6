import SnippetDetect.CodeCheck
import SnippetDetect.Main
import SnippetDetect.Proofs.Entries
import SnippetDetect.Proofs.Text.LowerCase
import SnippetDetect.Proofs.Number.Rounding
import SnippetDetect.Proofs.Number.Gates
import SnippetDetect.Proofs.Detector
import SnippetDetect.Proofs.Registry
import SnippetDetect.Engine.Session
import SnippetDetect.Proofs.Engine.Invariant
import SnippetDetect.Proofs.Engine.Rollback
import SnippetDetect.Proofs.Engine.Reachable
import SnippetDetect.Proofs.Engine.Refusal
import SnippetDetect.Proofs.Engine.Congruence
import SnippetDetect.Proofs.Engine.CacheTransparency
import SnippetDetect.Proofs.Engine.BulkWrite
import SnippetDetect.Proofs.Engine.Relevance
import SnippetDetect.Proofs.Json.NumberText
import SnippetDetect.Proofs.Json.StringText
import SnippetDetect.Proofs.Json.RoundTrip
import SnippetDetect.Proofs.Engine.Export
import SnippetDetect.Proofs.Engine.Import
import SnippetDetect.Proofs.Registry.Order
import SnippetDetect.Proofs.Engine.Inheritance
import SnippetDetect.Proofs.Engine.ImportOutcome
import SnippetDetect.Proofs.Engine.Range
import SnippetDetect.Proofs.Cache
import SnippetDetect.Proofs.Cache.History
import SnippetDetect.Proofs.Cache.Retention
import SnippetDetect.Engine.Overlap
import SnippetDetect.Proofs.Engine.Overlap
import SnippetDetect.Detector.Lifecycle
import SnippetDetect.Proofs.Detector.Lifecycle
import SnippetDetect.Proofs.Detector.Stretch
import SnippetDetect.Proofs.Detector.Alone
import SnippetDetect.Proofs.Detection
import SnippetDetect.Proofs.Registry.Asking
import SnippetDetect.Proofs.Engine.BlankCode
import SnippetDetect.Proofs.Engine.Protocols
import SnippetDetect.Proofs.Detection.Consensus
import SnippetDetect.Proofs.Engine.Analysis
import SnippetDetect.Proofs.Detector.Loading
import SnippetDetect.Proofs.Detector.Ranking
import SnippetDetect.Proofs.Engine.Validation
import SnippetDetect.Proofs.Language.Format
import SnippetDetect.Proofs.Language.Folders
import SnippetDetect.Proofs.Engine.PushedGate
import SnippetDetect.Proofs.Text.Runs
import SnippetDetect.Proofs.Detector.Words
import SnippetDetect.Proofs.Language.Order
import SnippetDetect.Proofs.Number.Separation
import SnippetDetect.Proofs.Detector.Sources
import SnippetDetect.Proofs.Detector.Judging
import SnippetDetect.Proofs.Regex.Matcher
import SnippetDetect.Proofs.Regex.Reader
import SnippetDetect.Proofs.Detector.Comments
import SnippetDetect.Proofs.Engine.Reset
import SnippetDetect.Proofs.Engine.Default
import SnippetDetect.Proofs.CommandLine.Reading
import SnippetDetect.Proofs.CommandLine.Setting
import SnippetDetect.Proofs.CommandLine.Options
