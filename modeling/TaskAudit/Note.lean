import TaskAudit.Text.Quoted

/-!
# Notes

What an audit tells about its course to someone who asks for details, beside its outcome.
-/

namespace TaskAudit

inductive Note where
  | policyLoaded (path : String) (fields : Nat)
  | definitionReplaced (name : String) (line : Nat)
  | rowSkipped (id : String) (line : Nat)
  | tableRead (heading : String) (tasks : Nat)
  | documentRead (references rows sections tasks : Nat)
  | referencesChecked (undefined : Nat)
  | cycleFound (id : String) (path : List String)
  | taskFailed (id check : String) (skipped : List String)
  | taskChecked (id : String) (errors warnings : Nat)
  | audited (tasks : Int) (errors warnings : Nat)
  deriving DecidableEq, Repr

namespace Note

def source : Note → String
  | policyLoaded .. => "tasklint.config.loader"
  | definitionReplaced .. => "tasklint.parsing.sections"
  | rowSkipped .. => "tasklint.parsing.tables"
  | tableRead .. => "tasklint.parsing.tables"
  | documentRead .. => "tasklint.parsing.markdown"
  | referencesChecked .. => "tasklint.parsing.references"
  | cycleFound .. => "tasklint.validators.dependencies"
  | taskFailed .. => "tasklint.engine.pipeline"
  | taskChecked .. => "tasklint.engine.engine"
  | audited .. => "tasklint.engine.engine"

def message : Note → String
  | policyLoaded path fields => s!"loaded policy from {path} ({fields} keys overridden)"
  | definitionReplaced name line => s!"reference {Text.quoted name} redefined at line {line}"
  | rowSkipped id line => s!"skipping subtask row {id} at line {line}"
  | tableRead heading tasks => s!"table {Text.quoted heading} yielded {tasks} task rows"
  | documentRead references rows sections tasks =>
    s!"parsed {references} references, {rows} table rows, {sections} detailed sections " ++
      s!"into {tasks} tasks"
  | referencesChecked undefined => s!"reference check: {undefined} undefined names"
  | cycleFound id path => s!"dependency cycle through {id}: " ++ " -> ".intercalate path
  | taskFailed id check skipped =>
    s!"{id} failed {check}; skipping " ++
      (if skipped.isEmpty then "nothing" else ", ".intercalate skipped)
  | taskChecked id errors warnings => s!"{id}: {errors} errors, {warnings} warnings"
  | audited tasks errors warnings =>
    s!"validated {tasks} tasks: {errors} errors, {warnings} warnings"

def text (n : Note) : String := n.source ++ " " ++ n.message

end Note

end TaskAudit
