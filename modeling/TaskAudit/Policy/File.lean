import TaskAudit.Failure
import TaskAudit.Folder
import TaskAudit.Note
import TaskAudit.Policy.Shape
import TaskAudit.Value.Json
import TaskAudit.Value.Toml

/-!
# Policy files

Reading a policy from a file: TOML when the path ends in `.toml`, and JSON otherwise. A TOML file of
several programs keeps the policy in a table of its own, `tool.tasklint` before `tasklint`.
-/

namespace TaskAudit.Policy

open Text

def tableName : String := "tasklint"

/-- Whether the table's name is somewhere in a text. -/
def holdsName : List Char → Bool
  | [] => false
  | c :: rest => tableName.toList.isPrefixOf (c :: rest) || holdsName rest

def tableOf (document : List (String × Value)) : Except Failure Value :=
  let otherwise := (Catalog.get? tableName document).getD (.map document)
  match Catalog.get? "tool" document with
  | none => .ok otherwise
  | some (.map tools) => .ok ((Catalog.get? tableName tools).getD otherwise)
  | some (.list tools) =>
    let named := tools.any fun
      | .text s => s = tableName
      | _ => false
    if named then .error (.noTable (.list tools)) else .ok otherwise
  | some (.text s) => if holdsName s.toList then .error (.noTable (.text s)) else .ok otherwise
  | some found => .error (.noTable found)

def valueOfText (path : PathName) (text : String) : Except Failure Value :=
  if path.suffix = ".toml" then
    match Toml.parse text with
    | .ok (.map document) => tableOf document
    | .ok v => .ok v
    | .error fault => .error (.ofValueFault (.malformedToml path.text) fault)
  else
    match Json.parse text with
    | .ok v => .ok v
    | .error fault => .error (.ofValueFault (.malformedJson path.text) fault)

/-- The policy in the text of a file, and the number of fields that it gives. -/
def ofText (path : PathName) (text : String) : Except Failure (Policy × Nat) := do
  match ← valueOfText path text with
  | .map entries =>
    match ofValue (.map entries) with
    | .ok policy => return (policy, entries.length)
    | .failed problems => throw (.config (.rejected problems))
    | .stopped excess => throw (.ofExcess excess)
  | _ => throw (.config (.noMap path.text))

/-- The policy in a file of a folder, with a note that it was read. -/
def ofFile (folder : Folder) (path : String) : Except Failure (Policy × Note) := do
  let place ← (folder.locate (PathName.ofText path)).mapError .ofPathFault
  match folder.text place with
  | .error .unreadable => throw (.config (.unreadableFile place.text))
  | .error .nul => throw .nulInPath
  | .error .undecodable => throw .undecodable
  | .ok text =>
    let (policy, fields) ← ofText place text
    return (policy, .policyLoaded place.text fields)

end TaskAudit.Policy
