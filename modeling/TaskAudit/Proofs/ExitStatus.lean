import TaskAudit.CommandLine.Outcome
import TaskAudit.Proofs.Consistency
import TaskAudit.Proofs.Fault
import TaskAudit.Proofs.PolicyFile

/-!
# What an exit status says of an audit

The program ends with status 0 or 1 after a verdict, and with status 3 when there is none. What
keeps a verdict from being reached without being foreseen ends with status 1 as well.
-/

namespace TaskAudit

namespace Failure

end Failure

namespace CommandLine

open Outcome

/-! ### From the arguments to a verdict -/

variable {folder : Folder} {args : List String} {c : Command} {path preset : String}

section Escape

variable {policyPath : Option String} {failure : Failure} {loaded : Policy × List Note}

end Escape

end CommandLine

end TaskAudit
