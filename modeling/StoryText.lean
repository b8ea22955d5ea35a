import StoryText.Main
import StoryText.Json.Reader
import StoryText.Proofs.Result
import StoryText.Proofs.Text.Between
import StoryText.Proofs.Text.Lines
import StoryText.Proofs.Text.Breaks
import StoryText.Proofs.Text.Runs
import StoryText.Proofs.Token.Alphabet
import StoryText.Proofs.Token.Rules
import StoryText.Proofs.Token.Context
import StoryText.Proofs.Token.Stream
import StoryText.Proofs.Token.Lossless
import StoryText.Proofs.Token.Fusion
import StoryText.Proofs.Token.Gaps
import StoryText.Proofs.Token.Concatenation
import StoryText.Proofs.Token.Occurrence
import StoryText.Proofs.Token.Payload
import StoryText.Proofs.Token.Lookahead
import StoryText.Proofs.Token.Lookback
import StoryText.Proofs.Token.Shape
import StoryText.Proofs.Token.Extent
import StoryText.Proofs.Token.Tagged
import StoryText.Proofs.Passage.Header
import StoryText.Proofs.Passage.Grammar
import StoryText.Proofs.Passage.Automaton
import StoryText.Proofs.Passage.Splitter
import StoryText.Proofs.Passage.RoundTrip
import StoryText.Proofs.Passage.Layout
import StoryText.Proofs.Token.Trimming
import StoryText.Proofs.Passage.Joining
import StoryText.Proofs.Passage.Invariants
import StoryText.Proofs.Json.RoundTrip
import StoryText.Proofs.Report.OpenStrings
import StoryText.Proofs.Report.JsonOutput
import StoryText.Proofs.Report.LineEndings
import StoryText.Proofs.Report.Formats
import StoryText.Proofs.Settings.Edits
import StoryText.Proofs.Settings.Overlay
import StoryText.Proofs.Settings.Loading
import StoryText.Proofs.Settings.Precedence
import StoryText.Proofs.Files.Writing
import StoryText.Proofs.CommandLine.Delivery
