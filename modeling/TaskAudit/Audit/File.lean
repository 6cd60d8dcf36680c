import TaskAudit.Audit
import TaskAudit.Folder

/-!
# Audits of files
-/

namespace TaskAudit.Audit

def textOfFile (folder : Folder) (path : PathName) : Except Failure String :=
  match folder.text path with
  | .ok text => .ok text
  | .error .unreadable => .error (.unreadableDocument path.text)
  | .error .nul => .error .nulInPath
  | .error .undecodable => .error .undecodable

def listOfFile (policy : Policy) (folder : Folder) (path : PathName) : Except Failure TaskList := do
  read policy (← textOfFile folder path) (some path.text)

def verdictOfFile (policy : Policy) (preset : String) (folder : Folder) (path : PathName) :
    Except Failure Verdict := do
  verdictByPreset policy preset (← listOfFile policy folder path)

end TaskAudit.Audit
