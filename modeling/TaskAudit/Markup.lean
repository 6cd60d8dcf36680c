import TaskAudit.Markup.Style

/-!
# Markup

Tags in brackets set the style of the text after them, `[bold red]`, up to a tag that closes them:
`[/bold red]`, or `[/]` for the last one that is open. A backslash before a tag makes it plain text,
and two of them are one backslash.
-/

namespace TaskAudit.Markup

open Text

structure Tag where
  name : String
  /-- What stands after a sign of equality. -/
  parameters : Option String
  deriving DecidableEq, Repr

def Tag.ofChars (cs : List Char) : Tag :=
  match upTo? '=' cs with
  | some (name, rest) => ⟨String.ofList name, some (String.ofList rest.1)⟩
  | none => ⟨String.ofList cs, none⟩

def Tag.text (t : Tag) : String :=
  match t.parameters with
  | some parameters => s!"[{t.name}={parameters}]"
  | none => s!"[{t.name}]"

/-- The characters before a closing bracket, none of them an opening one, and those after it. -/
def closed? : (cs : List Char) → Option (List Char × Shorter cs)
  | [] => none
  | c :: cs =>
    if c = ']' then some ([], .tail)
    else if c = '[' then none
    else (closed? cs).map fun (taken, rest) => (c :: taken, rest.under)

/-- What stands in a tag after its opening bracket: a letter or sign, then anything but an opening
bracket, up to a closing one. -/
def tagBody? : (cs : List Char) → Option (List Char × Shorter cs)
  | [] => none
  | c :: rest =>
    if ('a' ≤ c && c ≤ 'z') || c = '#' || c = '/' || c = '@' then
      (closed? rest).map fun (body, tail) => (c :: body, tail.under)
    else none

/-- The tags of a text with the places of their brackets. The pending backslashes are those just
before the text. -/
def tagsFrom (place pending : Nat) (cs : List Char) : List (Nat × Tag) :=
  match cs with
  | [] => []
  | c :: rest =>
    if c = '\\' then tagsFrom (place + 1) (pending + 1) rest
    else if c = '[' then
      match tagBody? rest with
      | none => tagsFrom (place + 1) 0 rest
      | some (body, ⟨tail, _⟩) =>
        let more := tagsFrom (place + body.length + 2) 0 tail
        if pending % 2 = 0 then (place, .ofChars body) :: more else more
    else tagsFrom (place + 1) 0 rest
termination_by cs.length

def tags (s : String) : List (Nat × Tag) := tagsFrom 0 0 s.toList

/-- Writes tags so that they show as they are: the backslashes before one twice, and one more. The
pending backslashes are those just before the text. -/
private def escapeAfter (pending : Nat) : List Char → List Char
  | [] => List.replicate pending '\\' ++ (if pending = 1 then ['\\'] else [])
  | c :: rest =>
    if c = '\\' then escapeAfter (pending + 1) rest
    else
      let isTag := c = '[' && (tagBody? rest).isSome
      let before := if isTag then 2 * pending + 1 else pending
      List.replicate before '\\' ++ c :: escapeAfter 0 rest

def escape (s : String) : String := String.ofList (escapeAfter 0 s.toList)

/-! ### Styles that are open -/

inductive Fault where
  /-- A tag closes a style that is not open. -/
  | unopened (tag : Tag) (place : Nat)
  /-- A tag closes the last style where none is open. -/
  | nothingOpen (place : Nat)
  | style (fault : Style.Fault)
  deriving DecidableEq, Repr

def Fault.message : Fault → String
  | unopened tag place =>
    s!"closing tag '{tag.text}' at position {place} doesn't match any open tag"
  | nothingOpen place => s!"closing tag '[/]' at position {place} has nothing to close"
  | style fault => fault.message

/-- The styles that are open after a tag, the last one first. -/
def apply (opened : List String) (place : Nat) (tag : Tag) : Except Fault (List String) :=
  match tag.name.toList with
  | '/' :: name =>
    if allBlank name then
      match opened with
      | [] => .error (.nothingOpen place)
      | _ :: others => .ok others
    else do
      let style ← (Style.plainText (trimmed (String.ofList name))).mapError .style
      if opened.contains style then return opened.erase style else throw (.unopened tag place)
  | _ => ((Style.plainText tag.name).mapError .style).map (· :: opened)

/-- The styles that a text leaves open. Every tag that closes a style has one to close. -/
def openAfter (s : String) : Except Fault (List String) :=
  (tags s).foldlM (fun opened (place, tag) => apply opened place tag) []

/-- The style that a tag gives to text: its parameters are further words. A tag that closes a style
or calls a handler gives none. -/
def Tag.style (tag : Tag) : Except Style.Fault String :=
  if tag.name.startsWith "/" || tag.name.startsWith "@" then .ok "none"
  else do
    let name ← Style.plainText tag.name
    match tag.parameters with
    | some parameters => Style.plainText s!"{name} {parameters}"
    | none => return name

/-- Texts can be shown together when the tags of each match, and then each style can be read. -/
def check (texts : List String) : Except Fault Unit := do
  texts.forM fun s => discard (openAfter s)
  texts.forM fun s => (tags s).forM fun (_, tag) => discard (tag.style.mapError .style)

end TaskAudit.Markup
