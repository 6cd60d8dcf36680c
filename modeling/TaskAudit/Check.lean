import TaskAudit.Note
import TaskAudit.Task
import TaskAudit.Text.Quoted
import TaskAudit.Verdict

/-!
# Checks

A check looks at one task in the scope of its task list, a policy and the check's own settings, and
gives a verdict. The checks of higher rank come first.
-/

namespace TaskAudit

abbrev Settings := List (String × Value)

namespace Settings

def get? (s : Settings) (name : String) : Option Value := Catalog.get? name s

/-- Whether an option is switched on, given whether it is when nothing is said. -/
def isOn (s : Settings) (name : String) (default : Bool := false) : Bool :=
  match s.get? name with
  | some v => v.isTruthy
  | none => default

def merge (s overrides : Settings) : Settings :=
  (Catalog.ofPairs (s ++ overrides)).entries

end Settings

/-- What checks are made against. -/
structure Scope where
  policy : Policy
  list : TaskList
  settings : Settings

namespace Scope

def references (s : Scope) : References := s.list.references

def withSettings (s : Scope) (settings : Settings) : Scope := { s with settings }

end Scope

/-- Why a check can come to no verdict. -/
inductive Fault where
  /-- A complexity is stated by a word that is not one of the four. -/
  | unknownComplexity (word : String)
  /-- A limit given as a text that is no number. -/
  | unreadableLimit (text : String)
  /-- A limit given as something that stands for no number. -/
  | noLimit
  /-- A limit beyond the range of numbers. -/
  | oversizedLimit
  /-- A scaled limit that is not a number. -/
  | undefinedLimit
  | infiniteLimit
  /-- A check of the caller's own gave up. -/
  | raised (message : String)
  deriving DecidableEq, Repr

def Fault.message : Fault → String
  | unknownComplexity word => s!"{Text.quoted word} is not a valid Complexity"
  | unreadableLimit text => s!"could not convert string to float: {Text.quoted text}"
  | noLimit => "float() argument must be a string or a real number"
  | oversizedLimit => "int too large to convert to float"
  | undefinedLimit => "cannot convert float NaN to integer"
  | infiniteLimit => "cannot convert float infinity to integer"
  | raised message => message

structure Check where
  title : String
  rank : Int
  run : Task → Scope → Except Fault Verdict
  /-- What a check tells about its course. -/
  notes : Task → Scope → List Note := fun _ _ => []

namespace Check

/-- The rank of a check that claims none. -/
def defaultRank : Int := 50

def description (c : Check) : String := s!"{c.title}(priority={c.rank})"

end Check

end TaskAudit
