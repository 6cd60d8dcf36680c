import TaskAudit.Value

/-!
# Tables of TOML

The tables of a document while it is read. A path of keys names the newest table there is under it,
that of a list of tables being the last one. A table can be declared once, one made by dotted keys
not at all from the next heading on, and nothing is added to a value that was written in brackets.
-/

namespace TaskAudit.Toml

abbrev Path := List String

abbrev Entries := List (String × Value)

/-- Changes the entries of the table at a path, which is made if it is not there. -/
def changeAt (change : Entries → Option Entries) : Path → Entries → Option Entries
  | [], entries => change entries
  | key :: path, entries =>
    match Catalog.get? key entries with
    | none => (changeAt change path []).map fun inner => Catalog.put key (.map inner) entries
    | some (.map inner) =>
      (changeAt change path inner).map fun inner => Catalog.put key (.map inner) entries
    | some (.list items) =>
      match items.getLast? with
      | some (.map inner) => (changeAt change path inner).map fun inner =>
          Catalog.put key (.list (items.dropLast ++ [.map inner])) entries
      | _ => none
    | some _ => none

/-- A new entry; its key must be new. -/
def enter (key : String) (v : Value) (entries : Entries) : Option Entries :=
  if (Catalog.get? key entries).isSome then none else some (Catalog.put key v entries)

/-- One more table in a list of tables, which is made if it is not there. -/
def enterTable (key : String) (entries : Entries) : Option Entries :=
  match Catalog.get? key entries with
  | none => some (Catalog.put key (.list [.map []]) entries)
  | some (.list items) => some (Catalog.put key (.list (items ++ [.map []])) entries)
  | some _ => none

/-- The last key of a path, after the path to its table. -/
def splitLast (path : Path) : Path × String := (path.dropLast, path.getLastD "")

def isInBrackets : Value → Bool
  | .map _ => true
  | .list _ => true
  | _ => false

structure Tables where
  entries : Entries
  /-- The table of the last heading. -/
  heading : Path
  /-- Tables that no heading declares again and no dotted key goes through. -/
  declared : List Path
  /-- Tables that dotted keys went through since the last heading. -/
  dotted : List Path
  /-- Values in brackets. -/
  fixed : List Path

namespace Tables

def empty : Tables := { entries := [], heading := [], declared := [], dotted := [], fixed := [] }

/-- Whether a path is that of a value in brackets or leads into one. -/
def isFixed (t : Tables) (path : Path) : Bool := t.fixed.any (·.isPrefixOf path)

/-- At a heading, the tables of dotted keys count as declared. -/
def settle (t : Tables) : Tables := { t with declared := t.dotted ++ t.declared, dotted := [] }

def declare (t : Tables) (path : Path) : Option Tables :=
  let t := t.settle
  if t.declared.contains path || t.isFixed path then none
  else
    (changeAt some path t.entries).map fun entries =>
      { t with entries, heading := path, declared := path :: t.declared }

/-- A heading in double brackets: what was declared below the path was so for the table before. -/
def append (t : Tables) (path : Path) : Option Tables :=
  let t := t.settle
  if t.isFixed path then none
  else
    let (parent, key) := splitLast path
    (changeAt (enterTable key) parent t.entries).map fun entries =>
      { t with
        entries
        heading := path
        declared := path :: t.declared.filter (!path.isPrefixOf ·)
        fixed := t.fixed.filter (!path.isPrefixOf ·) }

/-- The tables that a dotted key goes through below the heading. -/
def through (heading key : Path) : List Path :=
  (List.range (key.length - 1)).map fun i => heading ++ key.take (i + 1)

def assign (t : Tables) (key : Path) (v : Value) : Option Tables :=
  let passed := through t.heading key
  let (parent, last) := splitLast (t.heading ++ key)
  if passed.any t.declared.contains || t.isFixed parent then none
  else
    (changeAt (enter last v) parent t.entries).map fun entries =>
      { t with
        entries
        dotted := passed ++ t.dotted
        fixed := if isInBrackets v then (t.heading ++ key) :: t.fixed else t.fixed }

/-- A key with its value in a table in braces, which is all there is. -/
def assignInline (t : Tables) (key : Path) (v : Value) : Option Tables :=
  let (parent, last) := splitLast key
  if t.isFixed key then none
  else
    (changeAt (enter last v) parent t.entries).map fun entries =>
      { t with entries, fixed := if isInBrackets v then key :: t.fixed else t.fixed }

end Tables

end TaskAudit.Toml
