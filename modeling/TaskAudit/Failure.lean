import TaskAudit.Check
import TaskAudit.Folder
import TaskAudit.Markup
import TaskAudit.Shape
import TaskAudit.Text.Quoted

/-!
# Failures

Why a run ends without a verdict, and the text that says so.
-/

namespace TaskAudit

inductive ConfigFault where
  | unknownCheck (name : String) (known : List String)
  | unknownPreset (name : String) (known : List String)
  | unknownCategory (name : String) (known : List String)
  | noCode (category : String)
  | unreadableFile (path : String)
  | malformedJson (path : String)
  | malformedToml (path : String)
  | noMap (path : String)
  | rejected (problems : List Shape.Problem)
  deriving Repr

def ConfigFault.message : ConfigFault → String
  | unknownCheck name known =>
    s!"unknown validator '{name}' (expected one of: " ++ ", ".intercalate known ++ ")"
  | unknownPreset name known =>
    s!"unknown preset '{name}' (expected one of: " ++ ", ".intercalate known ++ ")"
  | unknownCategory name known =>
    s!"unknown category '{name}' (expected one of: " ++ ", ".intercalate known ++ ")"
  | noCode category => s!"no semantic prefix maps to category '{category}'"
  | unreadableFile path => s!"failed reading config file: {path}"
  | malformedJson path => s!"invalid JSON in config file: {path}"
  | malformedToml path => s!"invalid TOML in config file: {path}"
  | noMap path => s!"config file must contain an object: {path}"
  | rejected _ => "invalid config"

/-- An integer of a configuration file that is larger than is read. -/
inductive LongInteger where
  /-- A value of so many digits. -/
  | value (digits : Nat)
  /-- The bound of a repetition in a pattern. -/
  | repetition
  deriving DecidableEq, Repr

def LongInteger.message : LongInteger → String
  | value digits => Value.longIntegerText (some digits)
  | repetition => "the repetition number is too large"

/-- What leads further than it is followed. -/
inductive Descent where
  /-- Values inside each other. -/
  | values (format : Value.Nesting)
  /-- Expressions inside each other in a pattern. -/
  | pattern
  /-- Links from one path to another. -/
  | links (fault : LinkFault)
  deriving DecidableEq, Repr

def Descent.message : Descent → String
  | values format => format.text
  | pattern => "maximum recursion depth exceeded while calling a Python object"
  | links (.circular path) => s!"Symlink loop from {Text.quoted path.text}"
  | links .tooMany => "maximum recursion depth exceeded"

inductive Failure where
  | config (fault : ConfigFault)
  /-- A document without tasks. -/
  | noTasks
  | unreadableDocument (path : String)
  | unwritableTemplate (path : String)
  /-- A file that is not text. -/
  | undecodable
  | longInteger (integer : LongInteger)
  | deep (descent : Descent)
  /-- A configuration file with something else than a table under a key of tables. -/
  | noTable (found : Value)
  /-- A path below the folder of a person without one. -/
  | homeless
  /-- A path with a character that no path has. -/
  | nulInPath
  | markup (fault : Markup.Fault)
  | check (fault : Fault)
  deriving Repr

namespace Failure

def ofValueFault (malformed : ConfigFault) : Value.Fault → Failure
  | .malformed => config malformed
  | .longInteger digits => longInteger (.value digits)
  | .deep format => deep (.values format)

def ofExcess : Shape.Excess → Failure
  | .repetition => longInteger .repetition
  | .depth => deep .pattern

def ofPathFault : PathFault → Failure
  | .homeless => homeless
  | .nul => nulInPath
  | .links fault => deep (.links fault)

private def foundName : Value → String
  | .null => "NoneType"
  | .bool _ => "bool"
  | .int _ => "int"
  | .float _ => "float"
  | .text _ | .unpaired => "str"
  | .list _ => "list"
  | .map _ => "dict"
  | .moment .localDate => "datetime.date"
  | .moment .localTime => "datetime.time"
  | .moment _ => "datetime.datetime"

def message : Failure → String
  | config fault => fault.message
  | noTasks => "No tasks found in the document"
  | unreadableDocument path => s!"failed to read task list: {path}"
  | unwritableTemplate path => s!"failed to write template: {path}"
  | undecodable => "'utf-8' codec can't decode"
  | longInteger integer => integer.message
  | deep descent => descent.message
  | noTable (.text _) => "string indices must be integers, not 'str'"
  | noTable (.list _) => "list indices must be integers or slices, not str"
  | noTable found => s!"argument of type '{foundName found}' is not iterable"
  | homeless => "Could not determine home directory."
  | nulInPath => "embedded null byte"
  | markup fault => fault.message
  | check fault => fault.message

end Failure

end TaskAudit
