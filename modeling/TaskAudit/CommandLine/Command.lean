import TaskAudit.CommandLine.Argument
import TaskAudit.Pipeline

/-!
# Commands

The three commands and how arguments say which one is meant.
-/

namespace TaskAudit

namespace CommandLine

inductive Stop where
  /-- The arguments cannot be understood. -/
  | misused
  | help
  | version
  deriving DecidableEq, Repr

inductive Action where
  | validate (path preset : String)
  | template (category code : String) (useCategoryCode : Bool) (output : Option String)
  | references (path : String)
  deriving DecidableEq, Repr

structure Command where
  action : Action
  policyPath : Option String
  verbose : Bool
  deriving DecidableEq, Repr

/-! ### Options of a command -/

/-- The values of a command's options, as far as they are given. -/
structure Given where
  operand : Option String
  values : List (String × String)
  flags : List String
  /-- Whether there was an argument that the command has no use for. -/
  surplus : Bool
  deriving DecidableEq, Repr

namespace Given

def none : Given := { operand := .none, values := [], flags := [], surplus := false }

/-- The last value of an option. -/
def value? (g : Given) (name : String) : Option String := Catalog.get? name g.values

def has (g : Given) (name : String) : Bool := g.flags.contains name

end Given

/-- An option under the first of its names; asking for help ends the reading. -/
def setFlag (g : Given) (switch : Switch) : Except Stop Given :=
  let name := switch.names.headD ""
  if name = "--help" then .error .help
  else if name = "--version" then .error .version
  else .ok { g with flags := name :: g.flags }

def presetNames : List String := Preset.all.map Prod.fst

def setValue (g : Given) (switch : Switch) (v : String) : Except Stop Given :=
  let name := switch.names.headD ""
  if name = "--preset" ∧ ¬ presetNames.contains v then .error .misused
  else .ok { g with values := (name, v) :: g.values }

/-- Reads words one after the other. Two dashes belong to the operand next to them. -/
def collect (takesOperand : Bool) (besideOperand : Bool) (g : Given) : List Word → Except Stop Given
  | [] => .ok g
  | .operand s :: more =>
    if takesOperand ∧ g.operand = .none then
      collect takesOperand true { g with operand := some s } more
    else collect takesOperand false { g with surplus := true } more
  | .twoDashes :: more =>
    collect takesOperand false
      (if takesOperand ∧ (g.operand = .none ∨ besideOperand) then g
        else { g with surplus := true }) more
  | .options plain .none :: more => do collect takesOperand false (← plain.foldlM setFlag g) more
  | .options plain (some (switch, some v)) :: more => do
    collect takesOperand false (← setValue (← plain.foldlM setFlag g) switch v) more
  | .options plain (some (switch, .none)) :: .operand v :: more => do
    collect takesOperand false (← setValue (← plain.foldlM setFlag g) switch v) more
  | .options _ (some (_, .none)) :: _ => .error .misused
  | .unknown :: more => collect takesOperand false { g with surplus := true } more
  | .refused :: _ => .error .misused

def given (switches : List Switch) (takesOperand : Bool) (args : List String) : Except Stop Given :=
  match words? switches args with
  | .none => .error .misused
  | some words => do
    let g ← collect takesOperand false .none words
    if g.surplus ∨ (takesOperand ∧ g.operand = .none) then .error .misused else .ok g

/-! ### The commands -/

def helpSwitch : Switch := { names := ["--help", "-h"], takesValue := false }

def policySwitch : Switch := { names := ["--config"], takesValue := true }

def verboseSwitch : Switch := { names := ["--verbose", "-v"], takesValue := false }

/-- A policy's path; an empty one stands for none. -/
def policyPath (g : Given) : Option String := (g.value? "--config").filter (!·.isEmpty)

def commandOf (g : Given) (action : Action) : Command :=
  { action, policyPath := policyPath g, verbose := g.has "--verbose" }

def validateSwitches : List Switch :=
  [helpSwitch, policySwitch, { names := ["--preset"], takesValue := true }, verboseSwitch]

def templateSwitches : List Switch :=
  [helpSwitch, { names := ["--category"], takesValue := true },
    { names := ["--prefix"], takesValue := true }, { names := ["--semantic"], takesValue := false },
    { names := ["--output", "-o"], takesValue := true }, policySwitch, verboseSwitch]

def referencesSwitches : List Switch := [helpSwitch, policySwitch, verboseSwitch]

def commandNamed (name : String) (args : List String) : Except Stop Command :=
  if name = "validate" then do
    let g ← given validateSwitches true args
    return commandOf g (.validate (g.operand.getD "") ((g.value? "--preset").getD "default"))
  else if name = "template" then do
    let g ← given templateSwitches false args
    return commandOf g (.template ((g.value? "--category").getD "stateful_worker")
      ((g.value? "--prefix").getD "PRJ") (g.has "--semantic") (g.value? "--output"))
  else if name = "refs" then do
    let g ← given referencesSwitches true args
    return commandOf g (.references (g.operand.getD ""))
  else .error .misused

def programSwitches : List Switch :=
  [helpSwitch, { names := ["--version"], takesValue := false }]

/-- Reads the options before a command's name, and then the command. -/
def commandAfter (g : Given) : List (Word × String) → Except Stop Command
  | [] => .error .misused
  | (.operand name, _) :: more => do
    let command ← commandNamed name (more.map Prod.snd)
    if g.surplus then .error .misused else .ok command
  | (.options plain .none, _) :: more => do commandAfter (← plain.foldlM setFlag g) more
  | (.unknown, _) :: more => commandAfter { g with surplus := true } more
  | _ => .error .misused

def command (args : List String) : Except Stop Command :=
  match words? programSwitches args with
  | .none => .error .misused
  | some words => commandAfter .none (words.zip args)

end CommandLine

end TaskAudit
