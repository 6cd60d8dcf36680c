import TaskAudit.Text.Case
import TaskAudit.Text.Lines
import TaskAudit.Text.Scan

/-!
# Folders

What an audit sees of the files around it: where the links on a path lead, the bytes under a path,
and whether a path can be written to. Paths given by a person are relative to a folder.
-/

namespace TaskAudit

open Text

/-- A path: the slashes that an absolute one starts with, and the names after them. -/
structure PathName where
  root : String
  names : List String
  deriving DecidableEq, Repr, Inhabited

namespace PathName

/-- Empty names and single dots say nothing. -/
def ofText (s : String) : PathName where
  root :=
    match (s.toList.takeWhile (· = '/')).length with
    | 0 => ""
    | 2 => "//"
    | _ => "/"
  names := ((splitOn '/' s.toList).map String.ofList).filter fun name => name != "" && name != "."

def text (p : PathName) : String :=
  if p.root.isEmpty && p.names.isEmpty then "." else p.root ++ "/".intercalate p.names

/-- Whether there is a character in a path that no path has. -/
def hasNul (p : PathName) : Bool := p.names.any fun name => name.contains '\x00'

/-- Whether a path is short enough to be used, in whole and each of its names. -/
def isShort (p : PathName) : Bool :=
  p.text.utf8ByteSize < 4096 && p.names.all fun name => name.utf8ByteSize < 256

def isAbsolute (p : PathName) : Bool := !p.root.isEmpty

/-- The path with each `..` taken together with the name before it. -/
def plain (p : PathName) : PathName where
  root := p.root
  names := p.names.foldl (fun done name =>
    if name = ".." then done.dropLast else done ++ [name]) []

/-- The last dot of a name and what follows it, unless it is the first or last character. -/
def suffixOf (name : List Char) : List Char :=
  let backwards := name.reverse
  let extension := (backwards.takeWhile (· ≠ '.')).reverse
  let stem := (backwards.dropWhile (· ≠ '.')).drop 1
  if extension.isEmpty || stem.isEmpty then [] else '.' :: extension

/-- The suffix of the last name, in small letters. -/
def suffix (p : PathName) : String :=
  lowered (String.ofList (suffixOf (p.names.getLastD "").toList))

end PathName

/-- Why the links on a path lead nowhere. -/
inductive LinkFault where
  /-- One of them leads back to itself, from this path. -/
  | circular (path : PathName)
  /-- Each leads to the next, and there are more of them than are followed. -/
  | tooMany
  deriving DecidableEq, Repr

structure Folder where
  /-- Its absolute path. -/
  place : PathName
  /-- Where the files of a person are; without a name, of the one who asks. -/
  home? : String → Option PathName
  /-- Where an absolute path leads once every link on it is followed. -/
  follow : PathName → Except LinkFault PathName
  /-- The bytes of the file at a path. -/
  read? : PathName → Option ByteArray
  canWrite : PathName → Bool

/-- The place of a person's files in a list of accounts, a line each: the name first and the place
sixth, between colons. -/
def homeIn (accounts name : String) : Option PathName :=
  (lines accounts).findSome? fun line =>
    match (splitOn ':' line.toList).map String.ofList with
    | owner :: _ :: _ :: _ :: _ :: place :: _ =>
      if owner = name then some (PathName.ofText place) else none
    | _ => none

inductive PathFault where
  | homeless
  | nul
  | links (fault : LinkFault)
  deriving DecidableEq, Repr

inductive ReadFault where
  | unreadable
  /-- The path has a character that no path has. -/
  | nul
  /-- The bytes are not UTF-8. -/
  | undecodable
  deriving DecidableEq, Repr

namespace Folder

/-- A path from the root; a relative one starts at the folder. -/
def absolute (f : Folder) (p : PathName) : PathName :=
  if p.isAbsolute then { p with root := "/" }
  else { f.place with names := f.place.names ++ p.names }

def resolve (f : Folder) (p : PathName) : Except LinkFault PathName := f.follow (f.absolute p)

/-- A path that starts with the files of a person, `~` or `~name`, is below their place. -/
def expand (f : Folder) (p : PathName) : Except PathFault PathName :=
  if p.isAbsolute then .ok p
  else
    match p.names.map String.toList, p.names with
    | ('~' :: name) :: _, _ :: more =>
      if name.contains '\x00' then .error .nul
      else
        match f.home? (String.ofList name) with
        | some home => .ok { home with names := home.names ++ more }
        | none => .error .homeless
    | _, _ => .ok p

/-- The place that a path means, the files of persons included. -/
def locate (f : Folder) (p : PathName) : Except PathFault PathName := do
  let p ← f.expand p
  if p.hasNul then throw .nul
  (f.resolve p).mapError .links

/-- The text of a file, its lines ending in line feeds. -/
def text (f : Folder) (p : PathName) : Except ReadFault String :=
  if p.hasNul then .error .nul
  else
    match f.read? p with
    | none => .error .unreadable
    | some bytes =>
      match String.fromUTF8? bytes with
      | none => .error .undecodable
      | some s => .ok (unified s)

/-! ### Folders given by files -/

/-- Files by the names that lead to them from the root. There are no links among them. -/
structure Disk where
  /-- A directory that is there with or without files in it. -/
  place : List String
  files : List (List String × ByteArray)

namespace Disk

/-- The place and what it is in, and all that has files below it. -/
def isDirectory (d : Disk) (names : List String) : Bool :=
  names.isPrefixOf d.place ||
    d.files.any fun file => names.isPrefixOf file.1 && decide (names.length < file.1.length)

def bytes? (d : Disk) (names : List String) : Option ByteArray :=
  (List.find? (fun file => file.1 = names) d.files).map Prod.snd

/-- Follows names from a directory on, `..` leading back. -/
def follow (d : Disk) (place : List String) : List String → Option (List String)
  | [] => some place
  | name :: more =>
    if !d.isDirectory place then none
    else if name = ".." then d.follow place.dropLast more
    else
      let next := place ++ [name]
      if d.isDirectory next || (d.bytes? next).isSome then d.follow next more else none

/-- Where a path leads to, if all names of it but the last are there. -/
def target? (d : Disk) (p : PathName) : Option (List String) :=
  let names := if p.isAbsolute then p.names else d.place ++ p.names
  match names.getLast? with
  | none => some []
  | some ".." => d.follow [] names
  | some last => do
    let parent ← d.follow [] names.dropLast
    if p.isShort && d.isDirectory parent then some (parent ++ [last]) else none

def folder (d : Disk) (home? : String → Option PathName) : Folder where
  place := { root := "/", names := d.place }
  home?
  follow p := .ok p.plain
  read? p := do d.bytes? (← d.target? p)
  canWrite p := ((d.target? p).map fun names => !d.isDirectory names).getD false

end Disk

end Folder

end TaskAudit
