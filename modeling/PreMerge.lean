import PreMerge.Command.Rehearsal
import PreMerge.Proofs.CommandLine.Verdict
import PreMerge.Proofs.Rule.Handlers
import PreMerge.Proofs.Rule.Lines
import PreMerge.Proofs.Selection.Extent
import PreMerge.Proofs.Run.Comparison
import PreMerge.Proofs.Run.Transcript
import PreMerge.Proofs.CommandLine.Agreement
import PreMerge.Proofs.Rule.LineEnds
import PreMerge.Proofs.Scan.Bytes
import PreMerge.Proofs.Selection.Pruned
import PreMerge.Proofs.Scan.Obstacles
import PreMerge.Proofs.Selection.Descent
import PreMerge.Proofs.Selection.Limits
import PreMerge.Proofs.Files.Differ
import PreMerge.Proofs.Selection.Onward
import PreMerge.Proofs.Scan.Exemption
import PreMerge.Proofs.Rule.Ends
import PreMerge.Proofs.Rule.Joined
import PreMerge.Proofs.Rule.Scopes
import PreMerge.Proofs.Scan.Echo
import PreMerge.Proofs.Scan.Relocation
import PreMerge.Proofs.Run.CommandStep
import PreMerge.Proofs.CommandLine.Timeout
import PreMerge.Proofs.Console.Appearance
import PreMerge.Proofs.Text.Layout
import PreMerge.Main
import PreMerge.Proofs.CommandLine.OnHost
