import TaskAudit.CommandLine.Outcome

/-!
# The program

Reads the files that a command needs, and shows and writes its outcome.
-/

open TaskAudit

/-- The bytes of a file, if it can be read. -/
def bytesAt (path : PathName) : IO (Option ByteArray) := do
  try return some (← IO.FS.readBinFile path.text) catch _ => return none

/-- The text of a file, empty if it cannot be read. -/
def textAt (path : String) : IO String := do
  return ((← bytesAt (PathName.ofText path)).bind String.fromUTF8?).getD ""

/-- Where a path leads if it is there, and else the path itself; none if its links lead back to
themselves. -/
def destination? (path : PathName) : IO (Option PathName) := do
  try return some (PathName.ofText (← IO.FS.realPath path.text).toString)
  catch
    | .invalidArgument _ 40 _ => return none
    | _ => return some path

/-- Follows names from a place on. -/
def followNames (place : PathName) : List String → IO (Except LinkFault PathName)
  | [] => return .ok place
  | ".." :: more => followNames { place with names := place.names.dropLast } more
  | name :: more => do
    let next := { place with names := place.names ++ [name] }
    match ← destination? next with
    | some place => followNames place more
    | none =>
      -- Later names may lead past the link again.
      let whole := { next with names := next.names ++ more }.plain
      return if (← destination? whole).isSome then .ok whole else .error (.circular whole)

/-- The current folder as a command sees it, with the links that it follows and the files that it
reads. -/
def currentFolder (args : List String) : IO Folder := do
  let place := PathName.ofText (← IO.currentDir).toString
  let own := (← IO.getEnv "HOME").map PathName.ofText
  let accounts ← textAt "/etc/passwd"
  let home? := fun name => if name.isEmpty then own else homeIn accounts name
  let empty : Folder :=
    { place, home?, follow := .ok, read? := fun _ => none, canWrite := fun _ => true }
  match CommandLine.command args with
  | .error _ => return empty
  | .ok c =>
    let given := c.policyPath.bind fun path => (empty.expand (PathName.ofText path)).toOption
    let paths := (given.map empty.absolute).toList
    let links ← paths.mapM fun path => return (path, ← followNames ⟨path.root, []⟩ path.names)
    let follow := fun path => ((links.lookup path).getD (.ok path.plain))
    let folder := { empty with follow }
    let files ← (CommandLine.inputs folder c).mapM fun path => return (path, ← bytesAt path)
    return { folder with read? := fun path => (files.find? (·.1 = path)).bind Prod.snd }

def main (args : List String) : IO UInt32 := do
  let folder ← currentFolder args
  let mut outcome := CommandLine.run folder args
  if let some (path, text) := outcome.written then
    try IO.FS.writeFile path.text text
    catch _ => outcome := CommandLine.run { folder with canWrite := fun _ => false } args
  for note in outcome.notes do
    IO.eprintln note.text
  IO.print outcome.output
  if let some message := outcome.error then
    IO.eprintln s!"error: {message}"
  return outcome.status.toUInt32
