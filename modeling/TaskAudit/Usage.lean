import TaskAudit.Document.Reference
import TaskAudit.Verdict

/-!
# Use of references

Every reference that a document uses needs a definition; and how often each is used.
-/

namespace TaskAudit.Usage

open Document

/-- The uses of names that are not defined. -/
def undefinedUsages (references : References) (lines : List String) : List Usage :=
  (usages lines).filter fun u => !references.contains u.name

/-- The distinct lines on which a name is used, in order. -/
def linesOf (found : List Usage) (name : String) : List Nat :=
  (found.filter (·.name = name)).foldl
    (fun lines u => if lines.contains u.line then lines else lines ++ [u.line]) []

/-- One issue for each undefined name, at its first use. -/
def missingIssues (references : References) (lines : List String) : List Issue :=
  let found := undefinedUsages references lines
  (firstSeen (found.map (·.name))).map fun name =>
    let lines := (linesOf found name).map Int.ofNat
    .missingReference name (lines.headD 0) lines

def check (references : References) (lines : List String) : Verdict :=
  .ofLists (missingIssues references lines) []

/-- The references that a task list uses are all defined, in it or among the given ones. -/
def checkList (l : TaskList) (against : Option References) : Verdict :=
  check (against.getD l.references) l.scannedLines

/-! ### Statistics -/

structure Stats where
  defined : Nat
  uses : Nat
  /-- How often each defined name is used. -/
  counts : Catalog Nat
  unused : List String
  undefined : List String
  /-- The name used most often, the earliest of several, and how often. -/
  mostUsed : Option (String × Nat)

/-- The names used outside the headings that define names, in order, as often as they are used. -/
def countedNames (lines : List String) : List String :=
  (lines.filter fun line => (definedName? line).isNone).flatMap Document.references

/-- The first entry with the greatest count. -/
def greatest : List (String × Nat) → Option (String × Nat)
  | [] => none
  | entry :: rest =>
    match greatest rest with
    | some best => if entry.2 < best.2 then some best else some entry
    | none => some entry

/-- Names in alphabetical order. -/
def alphabetical (names : List String) : List String := names.mergeSort fun a b => decide (a ≤ b)

def stats (l : TaskList) : Stats :=
  let used := tally (countedNames l.scannedLines)
  let counts := l.references.entries.map fun entry => (entry.1, (used.find? entry.1).getD 0)
  { defined := l.references.size
    uses := used.entries.foldl (fun n entry => n + entry.2) 0
    counts := Catalog.ofPairs counts
    unused := alphabetical ((counts.filter (·.2 = 0)).map (·.1))
    undefined := alphabetical (used.names.filter (!l.references.contains ·))
    mostUsed := greatest used.entries }

/-! ### Table and summary -/

/-- A column and how its cells are set. -/
structure Column where
  header : String
  justify : String

/-- A cell of a table, in a colour if it is to stand out. -/
structure Cell where
  text : String
  colour : Option String := none

def Cell.markup (c : Cell) : String :=
  match c.colour with
  | some colour => s!"[{colour}]{c.text}[/]"
  | none => c.text

structure Table where
  title : String
  columns : List Column
  rows : List (List Cell)

/-- Defined names, those used most first, and then the undefined ones. -/
def table (s : Stats) : Table where
  title := "Reference usage"
  columns := [⟨"Reference", "left"⟩, ⟨"Usages", "right"⟩]
  rows :=
    (s.counts.entries.mergeSort fun a b => b.2 < a.2 || (a.2 = b.2 && decide (a.1 ≤ b.1))).map
      (fun entry => [⟨entry.1, none⟩,
        if entry.2 = 0 then ⟨"unused", some "yellow"⟩ else ⟨toString entry.2, none⟩]) ++
    s.undefined.map fun name => [⟨name, none⟩, ⟨"undefined", some "red"⟩]

def Table.markup (t : Table) : List String :=
  (List.range t.columns.length).flatMap fun i =>
    t.rows.filterMap fun row => (row[i]?).map Cell.markup

/-- The lines of a table without colours, the cells of a row between tabs. -/
def Table.lines (t : Table) : List String :=
  t.title :: "\t".intercalate (t.columns.map (·.header)) ::
    t.rows.map fun row => "\t".intercalate (row.map (·.text))

private def orNone (names : List String) : String :=
  if names.isEmpty then "none" else ", ".intercalate names

def summary (s : Stats) : String :=
  let unused := orNone s.unused
  let undefined := orNone s.undefined
  let first := [s!"  References:  {s.defined} defined, {s.uses} usages",
    s!"  Unused:      {unused}", s!"  Undefined:   {undefined}"]
  "\n".intercalate (first ++ match s.mostUsed with
    | some (name, count) => [s!"  Most used:   {name} ({count})"]
    | none => [])

end TaskAudit.Usage
