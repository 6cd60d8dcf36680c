import TaskAudit.Text.Blank
import TaskAudit.Text.Scan

/-!
# Labelled fields

A field is a line that starts with a bold label, `**Status**: Planned` or `**Status:** Planned`. A
label without a colon takes its value from the next line.
-/

namespace TaskAudit.Document

open Text

def boldMark : List Char := ['*', '*']

/-- Drops a colon if there is one, and tells whether there was. -/
def dropColon : List Char → Bool × List Char
  | ':' :: rest => (true, rest)
  | cs => (false, cs)

/-- A text without the line feed at its end; a line feed before the end is refused. -/
def oneLine? : List Char → Option (List Char)
  | [] => some []
  | ['\n'] => some []
  | c :: rest => if c = '\n' then none else (oneLine? rest).map (c :: ·)

/-- Whether the label has a colon, and what follows it, if a line starts with the label. -/
def labelled? (label : List Char) (line : List Char) : Option (Bool × List Char) := do
  let (inner, afterLabel) := dropColon (← after? (boldMark ++ label) line)
  let (outer, value) := dropColon (← after? boldMark afterLabel)
  return (inner || outer, ← oneLine? value)

/-- Place of the first line that starts with a label. -/
def labelIndex? (lines : List String) (label : String) : Option Nat :=
  lines.findIdx? fun line => (labelled? label.toList line.toList).isSome

/-- The value of the first field of a label. A label without a colon on the last line has none. -/
def field? (label : String) : List String → Option String
  | [] => none
  | line :: rest =>
    match labelled? label.toList line.toList with
    | none => field? label rest
    | some (true, value) => some (String.ofList (trim value))
    | some (false, _) => rest.head?.map trimmed

/-- A text without the blanks around it, if anything is left. -/
def nonBlank? (s : String) : Option String :=
  if isBlankString s then none else some (trimmed s)

def filledField? (label : String) (lines : List String) : Option String :=
  (field? label lines).bind nonBlank?

end TaskAudit.Document
