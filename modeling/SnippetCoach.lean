import SnippetCoach.Feedback.Synthesis
import SnippetCoach.Main
import SnippetCoach.Metrics
import SnippetCoach.Session
import SnippetCoach.Settings
import SnippetCoach.Store.File
import SnippetCoach.Progress.Bar
import SnippetCoach.Progress.Chart
import SnippetCoach.Tag.Given
import SnippetCoach.Number.Layout
import SnippetCoach.Number.Numeral
import SnippetCoach.Json.Reader
import SnippetCoach.Json.Printer
import SnippetCoach.Json.Display
import SnippetCoach.Text.Case
import SnippetCoach.Text.Utf8
import SnippetCoach.Proofs.Number.Nearest
import SnippetCoach.Proofs.Number.Decimal
import SnippetCoach.Proofs.Json.Numeral
import SnippetCoach.Proofs.OrderedMap
import SnippetCoach.Proofs.Json.Quote
import SnippetCoach.Proofs.Outcome
import SnippetCoach.Proofs.Json.Layout
import SnippetCoach.Proofs.Json.RoundTrip
import SnippetCoach.Proofs.Text.Utf8
import SnippetCoach.Proofs.Workspace
import SnippetCoach.Proofs.Store
import SnippetCoach.Proofs.Progress.Record
import SnippetCoach.Proofs.Tracker.Calls
import SnippetCoach.Proofs.Tracker.Reload
import SnippetCoach.Proofs.Tracker.Sound
import SnippetCoach.Proofs.Rule.Findings
import SnippetCoach.Proofs.Feedback.Dispatch
import SnippetCoach.Proofs.Progress.Sound
import SnippetCoach.Proofs.Progress.Counters
import SnippetCoach.Proofs.Tracker.File
import SnippetCoach.Proofs.CommandLine.Demand
import SnippetCoach.Proofs.CommandLine.Runs
import SnippetCoach.Proofs.Text.LineFeed
import SnippetCoach.Proofs.Rule.Assignment
import SnippetCoach.Proofs.Rule.LineFeed
import SnippetCoach.Proofs.Text.Lines
import SnippetCoach.Proofs.Rule.Location
import SnippetCoach.Proofs.Progress.Decode
import SnippetCoach.Proofs.Tracker.History
import SnippetCoach.Proofs.Tracker.Loading
import SnippetCoach.Proofs.Store.Agreement
import SnippetCoach.Proofs.Tracker.Answers
import SnippetCoach.Proofs.Tracker.Refusals
import SnippetCoach.Proofs.Progress.Room
import SnippetCoach.Proofs.Tracker.Unreadable
import SnippetCoach.Proofs.Progress.Limit
import SnippetCoach.Proofs.Tracker.Overlap
import SnippetCoach.Proofs.Store.Separate
import SnippetCoach.Proofs.Tracker.Account
import SnippetCoach.Proofs.Tracker.Neighbours
import SnippetCoach.Proofs.Rule.Battery
import SnippetCoach.Proofs.Issue.Detection
import SnippetCoach.Proofs.Metrics
import SnippetCoach.Proofs.Report
import SnippetCoach.Proofs.Issue.Views
import SnippetCoach.Proofs.Issue.Document
import SnippetCoach.Proofs.Tag
import SnippetCoach.Proofs.Analysis
import SnippetCoach.Proofs.Session
import SnippetCoach.Proofs.Tracker.Analysis
import SnippetCoach.Proofs.CommandLine.Untouched
import SnippetCoach.Proofs.CommandLine.Document
import SnippetCoach.Proofs.Tracker.Gathering
import SnippetCoach.Proofs.Tracker.Together
import SnippetCoach.Proofs.Text.Run
import SnippetCoach.Proofs.Text.Pattern
import SnippetCoach.Proofs.Rule.AssignmentPattern
import SnippetCoach.Proofs.Rule.Matches
import SnippetCoach.Proofs.Rule.Unused
import SnippetCoach.Proofs.Rule.UnusedLine
import SnippetCoach.Proofs.Progress.Batch
import SnippetCoach.Proofs.Tracker.Takeover
import SnippetCoach.Proofs.Tracker.Batch
import SnippetCoach.Proofs.Tracker.Resolving
import SnippetCoach.Proofs.Feedback.Composition
import SnippetCoach.Proofs.Text.Trim
import SnippetCoach.Proofs.Rule.Indentation
import SnippetCoach.Proofs.Rule.Semicolon
import SnippetCoach.Proofs.Tag.Vocabulary
import SnippetCoach.Proofs.Issue.Reading
import SnippetCoach.Proofs.Issue.Normal
import SnippetCoach.Proofs.Issue.Grouping
import SnippetCoach.Proofs.Text.Offset
import SnippetCoach.Proofs.Issue.Listing
import SnippetCoach.Proofs.Number.Range
import SnippetCoach.Proofs.Progress.Bar
import SnippetCoach.Proofs.Tracker.Rendering
