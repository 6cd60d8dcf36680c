import Mathlib.Data.List.Infix
import TaskAudit.Policy.File
import TaskAudit.Proofs.Excess
import TaskAudit.Proofs.Folder

/-!
# What loading a policy can end with

A policy file that cannot be loaded is a fault of the configuration, with some exceptions: a path
that leads nowhere, bytes that are no text, values and patterns that are too large or too deep to be
read, and a key of tables with something else under it.
-/

namespace TaskAudit

namespace Toml

/-! ### Documents of one line -/

variable {c : Char} {cs start : List Char} {key : Path} {v : Value} {t : Tables}

end Toml

namespace Policy

/-! ### The table of a policy -/

section Text

variable {path : PathName} {text : String} {failure : Failure}

end Text

/-! ### Policy files -/

section File

variable {folder : Folder} {path : String} {place : PathName} {failure : Failure}

end File

end Policy

end TaskAudit
