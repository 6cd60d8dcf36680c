import TaskAudit.Audit.File
import TaskAudit.CommandLine.Command
import TaskAudit.Policy.File
import TaskAudit.Template

/-!
# Outcomes

What the program does for a list of arguments: the status that it ends with, what it prints, and the
file that it writes. It is a function of the arguments and of the folder that it runs in.
-/

namespace TaskAudit

namespace Failure

/-- What the program ends with: 3 when there is nothing to audit or to go by, and else 1. -/
def status : Failure → Nat
  | config _ => 3
  | noTasks => 3
  | unreadableDocument _ => 3
  | _ => 1

end Failure

namespace CommandLine

structure Outcome where
  status : Nat
  output : String
  error : Option String
  notes : List Note
  /-- A path and what is written to it. -/
  written : Option (PathName × String)

namespace Outcome

def done (status : Nat) (output : String) (notes : List Note) : Outcome :=
  { status, output, error := none, notes, written := none }

def failed (failure : Failure) (notes : List Note) : Outcome :=
  { status := failure.status, output := "", error := some failure.message, notes, written := none }

def stopped : Stop → Outcome
  | .misused => done 2 "" []
  | .help => done 0 "usage: tasklint (validate PATH | template | refs PATH) [options]\n" []
  | .version => done 0 "tasklint 0.1.0\n" []

end Outcome

open Outcome

def policyAt (folder : Folder) : Option String → Except Failure (Policy × List Note)
  | none => .ok (.standard, [])
  | some path => (Policy.ofFile folder path).map fun (policy, note) => (policy, [note])

/-- Goes on with the list in a document, or ends with the reason why there is none. -/
def withList (policy : Policy) (folder : Folder) (path : PathName) (notes : List Note)
    (next : TaskList → List Note → Outcome) : Outcome :=
  match Audit.textOfFile folder path with
  | .error failure => failed failure notes
  | .ok text =>
    let notes := notes ++ Document.notes policy text
    match Audit.read policy text (some path.text) with
    | .error failure => failed failure notes
    | .ok l => next l notes

def validate (policy : Policy) (preset : String) (l : TaskList) (notes : List Note) : Outcome :=
  match Preset.ofName preset with
  | .error fault => failed (.config fault) notes
  | .ok p =>
    let notes := notes ++ Audit.notes policy p l
    match Audit.verdict policy p l with
    | .error fault => failed (.check fault) notes
    | .ok v => done (if v.valid then 0 else 1) (v.report ++ "\n") notes

/-- The table and the summary are shown as markup, so that names in them can be at fault. -/
def references (l : TaskList) (notes : List Note) : Outcome :=
  let stats := Usage.stats l
  match Markup.check (Usage.table stats).markup with
  | .error fault => failed (.markup fault) notes
  | .ok () =>
    let table := "\n".intercalate (Usage.table stats).lines ++ "\n"
    match Markup.check [Usage.summary stats] with
    | .error fault => { failed (.markup fault) notes with output := table }
    | .ok () => done 0 (table ++ Usage.summary stats ++ "\n") notes

def template (policy : Policy) (folder : Folder) (category code : String) (useCategoryCode : Bool)
    (output : Option String) (notes : List Note) : Outcome :=
  match Template.render policy category code useCategoryCode with
  | .error fault => failed (.config fault) notes
  | .ok document =>
    match output.map PathName.ofText with
    | none => done 0 (document ++ "\n") notes
    | some path =>
      if path.hasNul then failed .nulInPath notes
      else if folder.canWrite path then
        { done 0 s!"Template for '{category}' written to {path.text}\n" notes with
          written := some (path, document ++ "\n") }
      else failed (.unwritableTemplate path.text) notes

def perform (folder : Folder) (c : Command) : Outcome :=
  match policyAt folder c.policyPath with
  | .error failure => failed failure []
  | .ok (policy, notes) =>
    match c.action with
    | .validate path preset =>
      withList policy folder (PathName.ofText path) notes (validate policy preset)
    | .references path => withList policy folder (PathName.ofText path) notes references
    | .template category code useCategoryCode output =>
      template policy folder category code useCategoryCode output notes

def inputs (folder : Folder) (c : Command) : List PathName :=
  (c.policyPath.bind fun path => (folder.locate (PathName.ofText path)).toOption).toList ++
    match c.action with
    | .validate path _ => [PathName.ofText path]
    | .references path => [PathName.ofText path]
    | .template .. => []

/-- Notes are shown to those who ask for them. -/
def run (folder : Folder) (args : List String) : Outcome :=
  match command args with
  | .error stop => stopped stop
  | .ok c =>
    let outcome := perform folder c
    if c.verbose then outcome else { outcome with notes := [] }

end CommandLine

end TaskAudit
