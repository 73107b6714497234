import DeviceBench.Main
import DeviceBench.Bench
import DeviceBench.Capture.Log
import DeviceBench.Cli.Program
import DeviceBench.ConfigFile
import DeviceBench.Diff.Hunk
import DeviceBench.Duration
import DeviceBench.Frequency.Table
import DeviceBench.Golden
import DeviceBench.Invocation
import DeviceBench.Json.Reader
import DeviceBench.Listing
import DeviceBench.Loader
import DeviceBench.LogFilter
import DeviceBench.RuleSet
import DeviceBench.Scenario.Abort
import DeviceBench.Scenario.Flow
import DeviceBench.Selector
import DeviceBench.Snoop
import DeviceBench.Proofs.Diff.Patch
import DeviceBench.Proofs.Golden.Mismatch
import DeviceBench.Proofs.Golden.Regeneration
import DeviceBench.Proofs.Listing.Loading
import DeviceBench.Proofs.Rules.Settling
import DeviceBench.Proofs.Scenario.Acceptance
import DeviceBench.Proofs.Scenario.FailFast
import DeviceBench.Proofs.Snoop.Foreground
import DeviceBench.Proofs.Golden.Hidden
import DeviceBench.Proofs.Text.Chunks
import DeviceBench.Proofs.Frequency.Captures
import DeviceBench.Proofs.Frequency.Span
import DeviceBench.Proofs.Frequency.Alignment
import DeviceBench.Proofs.Capture.ReadBack
import DeviceBench.Proofs.Selector.Masks
import DeviceBench.Proofs.Rules.Compatibility
import DeviceBench.Proofs.Capture.Transcript
import DeviceBench.Proofs.World.Entries
import DeviceBench.Proofs.Golden.Conventions
import DeviceBench.Proofs.Golden.Deletion
import DeviceBench.Proofs.Scenario.PatternNames
import DeviceBench.Proofs.Cli.Variable
