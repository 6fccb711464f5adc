import SnippetLint.Main
import SnippetLint.Json.Reader
import SnippetLint.Proofs.Place
import SnippetLint.Proofs.Sweep
import SnippetLint.Proofs.Search
import SnippetLint.Proofs.WhiteSpace
import SnippetLint.Proofs.Words
import SnippetLint.Proofs.UnclosedTag
import SnippetLint.Proofs.MissingReturn
import SnippetLint.Proofs.StyleSheet
import SnippetLint.Proofs.Walk
import SnippetLint.Proofs.Steps
import SnippetLint.Proofs.Resolve
import SnippetLint.Proofs.Collection
import SnippetLint.Proofs.RunResult
import SnippetLint.Proofs.Layering
import SnippetLint.Proofs.Detection
import SnippetLint.Proofs.Configured
import SnippetLint.Proofs.Examined
import SnippetLint.Proofs.ReportText
import SnippetLint.Proofs.Verdict
import SnippetLint.Proofs.Embedding
import SnippetLint.Proofs.JsonText
import SnippetLint.Proofs.ReportJson
import SnippetLint.Proofs.SafeConfig
import SnippetLint.Proofs.Row
import SnippetLint.Proofs.Listing
import SnippetLint.Proofs.Totals
import SnippetLint.Proofs.Templates
import SnippetLint.Proofs.Spelling
import SnippetLint.Proofs.Colors
import SnippetLint.Proofs.ConfigJson
import SnippetLint.Proofs.Dominant
import SnippetLint.Proofs.Extension
import SnippetLint.Proofs.Growth
import SnippetLint.Proofs.NewFile
import SnippetLint.Proofs.AsciiCase
import SnippetLint.Proofs.Keywords
import SnippetLint.Proofs.Lines
import SnippetLint.Proofs.Problems
import SnippetLint.Proofs.Recognition
import SnippetLint.Proofs.BlankCode
