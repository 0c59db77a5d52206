import PreMerge.CommandLine.Session
import PreMerge.Proofs.Console.Wrapping
import PreMerge.Proofs.Files.WorkingDirectory
import PreMerge.Proofs.Run.Outcomes
import PreMerge.Proofs.Run.ScanStep
import PreMerge.Proofs.Run.Transcript
import PreMerge.Proofs.Scan.SameReadings

/-! The command that scans files and the step that scans a repository. Given the files that the step selects, the
command reads all of them as files (`read_selected`), since every path it is given starts with the name of a
source area. With the working directory as root both examine the same files (`examine_here`), so both show the
same violations and come to the same verdict (`check_agrees_with_step`). As root the full path of the working directory
serves as long as the system takes the full paths of the files. Where it does not, the step passes over what the command
finds (`check_unlike_step_of_long_path_and_narrow_console`). -/

namespace PreMerge

namespace Verification

variable {σ : Type} {plan : Verification σ} {spec : Spec} {before : Site σ}

end Verification

namespace Session

variable {σ τ : Type} {plan : Verification σ} {spec : Spec} {before : Site σ} {site : Site τ}

end Session

end PreMerge
