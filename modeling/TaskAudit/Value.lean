import TaskAudit.Catalog
import TaskAudit.Number.Binary64

/-!
# Dynamic values

The data of configuration files and of settings, before a rule has said what shape it must have.
-/

namespace TaskAudit

/-- The kinds of points in time that a configuration file can write. -/
inductive Moment where
  | offsetDateTime
  | localDateTime
  | localDate
  | localTime
  deriving DecidableEq, Repr

inductive Value where
  | null
  | bool (b : Bool)
  | int (n : Int)
  | float (x : Binary64)
  | text (s : String)
  /-- A text with halves of surrogate pairs in it, which are no characters, by its code points. -/
  | unpaired {codes : List Nat}
  | list (items : List Value)
  | map (entries : List (String × Value))
  | moment (kind : Moment)
  deriving Repr, Inhabited

/-- What was being read when values were too deep inside each other. -/
inductive Value.Nesting where
  | jsonList
  | jsonMap
  | toml
  deriving DecidableEq, Repr

inductive Value.Fault where
  | malformed
  /-- An integer of more digits than are read. -/
  | longInteger (digits : Nat)
  /-- Lists and maps inside each other, more of them than are read. -/
  | deep (format : Value.Nesting)
  deriving DecidableEq, Repr

namespace Value

def maxIntegerDigits : Nat := 4300

/-- What is said of an integer of more digits than that, which are counted only in a text. -/
def longIntegerText (digits : Option Nat) : String :=
  s!"Exceeds the limit ({maxIntegerDigits} digits) for integer string conversion" ++
    (match digits with
      | some n => s!": value has {n} digits"
      | none => "") ++
    "; use sys.set_int_max_str_digits() to increase the limit"

/-- Whether an integer has no more digits than are written. -/
def isWritable (n : Int) : Bool := (toString n.natAbs).length ≤ maxIntegerDigits

/-- How much room there is for values inside each other. -/
def maxDepth : Nat := 985

def Nesting.text (format : Nesting) : String :=
  "maximum recursion depth exceeded" ++ match format with
    | jsonList => " while decoding a JSON array from a unicode string"
    | jsonMap => " while decoding a JSON object from a unicode string"
    | toml => ""

/-- A map of pairs, a later pair of the same name replacing an earlier one in its place. -/
def ofPairs (pairs : List (String × Value)) : Value := map (Catalog.ofPairs pairs).entries

def texts (items : List String) : Value := list (items.map text)

def ofText? : Option String → Value
  | none => null
  | some s => text s

/-- Whether a value switches an option on: all do but nothing, `false`, zero and empty ones. -/
def isTruthy : Value → Bool
  | null => false
  | bool b => b
  | int n => n != 0
  | float x => !x.isZero
  | text s => !s.isEmpty
  | unpaired => true
  | list items => !items.isEmpty
  | map entries => !entries.isEmpty
  | moment _ => true

end Value

end TaskAudit
