import TaskAudit.Task
import TaskAudit.Text.Blank
import TaskAudit.Text.Scan

/-!
# References

A name between double braces, `\x7b\x7bname\x7d\x7d`, stands for a block of lines. A heading of
level two that holds nothing else defines it, with or without `#` before the braces; its block ends
at the next heading of level two. Defining a name again replaces its block.
-/

namespace TaskAudit.Document

open Text

/-- The name between the braces that a text starts with, and the rest of it. -/
def usage? : (cs : List Char) → Option (List Char × Shorter cs)
  | '{' :: '{' :: rest =>
    match upTo? '}' rest with
    | some (name, ⟨'}' :: tail, h⟩) =>
      some (name, ⟨tail, by simp only [List.length_cons] at *; omega⟩)
    | _ => none
  | _ => none

/-- The names of a kind that are used in a text, from left to right. The braces of one usage are not
those of another. -/
def usedNames (accepts : List Char → Bool) (cs : List Char) : List (List Char) :=
  match cs with
  | [] => []
  | c :: rest =>
    match usage? (c :: rest) with
    | some (name, ⟨tail, _⟩) =>
      if accepts name then name :: usedNames accepts tail else usedNames accepts rest
    | none => usedNames accepts rest
termination_by cs.length
decreasing_by
  · assumption
  · exact Nat.lt_succ_self _
  · exact Nat.lt_succ_self _

def references (line : String) : List String :=
  (usedNames (fun name => !name.isEmpty) line.toList).map String.ofList

/-- The distinct members of a list, in the order of their first occurrence. -/
def firstSeen (names : List String) : List String :=
  names.foldl (fun seen name => if seen.contains name then seen else seen ++ [name]) []

theorem mem_firstSeen {name : String} {names : List String} :
    name ∈ firstSeen names ↔ name ∈ names := by
  have h (seen : List String) :
      name ∈ names.foldl (fun seen n => if seen.contains n then seen else seen ++ [n]) seen ↔
        name ∈ seen ∨ name ∈ names := by
    induction names generalizing seen with
    | nil => simp
    | cons first rest ih =>
      rw [List.foldl_cons, ih]
      split
      · next hseen =>
        have hfirst : first ∈ seen := by simpa using hseen
        grind
      · simp [or_assoc]
  rw [firstSeen, h, or_iff_right List.not_mem_nil]

def referencesIn (lines : List String) : List String := firstSeen (lines.flatMap references)

/-- A use of a reference, on a line counted from one. -/
structure Usage where
  name : String
  line : Nat
  deriving DecidableEq, Repr

def usagesFrom (number : Nat) : List String → List Usage
  | [] => []
  | line :: rest => (references line).map (⟨·, number⟩) ++ usagesFrom (number + 1) rest

/-- Every use of a reference, in document order. -/
def usages (lines : List String) : List Usage := usagesFrom 1 lines

def isLevelTwo (line : String) : Bool := (after? ['#', '#', ' '] line.toList).isSome

def definedName? (line : String) : Option String := do
  let rest ← after? ['#', '#', ' '] line.toList
  let rest := (after? ['#'] rest).getD rest
  let (name, ⟨tail, _⟩) ← usage? rest
  if name.isEmpty || !allBlank tail then none else some (String.ofList name)

structure Definition where
  name : String
  /-- Line of the heading, counted from zero. -/
  line : Nat
  body : List String
  deriving DecidableEq, Repr

def definitionsFrom (number : Nat) : List String → List Definition
  | [] => []
  | line :: rest =>
    match definedName? line with
    | some name =>
      ⟨name, number, rest.takeWhile (!isLevelTwo ·)⟩ :: definitionsFrom (number + 1) rest
    | none => definitionsFrom (number + 1) rest

/-- Every definition, in document order. -/
def definitions (lines : List String) : List Definition := definitionsFrom 0 lines

def referenceBlocks (lines : List String) : References :=
  Catalog.ofPairs ((definitions lines).map fun d => (d.name, d.body))

end TaskAudit.Document
