import TaskAudit.Check
import TaskAudit.Check.Content
import TaskAudit.Number.Numeral
import TaskAudit.Text.Case

/-!
# Code quality

A task states its code metrics in a section of its own or in a referenced block; the three main ones
are there, and none is beyond its bound. Bounds from above grow with the complexity of the task.
-/

namespace TaskAudit

/-- A word of a metric's name, with an ending that it may have. -/
structure MetricWord where
  stem : String
  ending : String

namespace Metric

def words : Metric → List MetricWord
  | functionsPerModule => [⟨"function", "s"⟩, ⟨"per", ""⟩, ⟨"module", ""⟩]
  | linesPerFunction => [⟨"line", "s"⟩, ⟨"per", ""⟩, ⟨"function", ""⟩]
  | callDepth => [⟨"call", ""⟩, ⟨"depth", ""⟩]
  | cyclomaticComplexity => [⟨"cyclomatic", ""⟩, ⟨"complexity", ""⟩]
  | patternMatchDepth => [⟨"pattern", ""⟩, ⟨"match", "ing"⟩, ⟨"depth", ""⟩]
  | staticAnalysisWarnings => [⟨"static", ""⟩, ⟨"analysis", ""⟩, ⟨"warnings", ""⟩]
  | lintScore => [⟨"lint", ""⟩, ⟨"score", ""⟩]
  | stateComplexity => [⟨"state", ""⟩, ⟨"complexity", ""⟩]
  | contextBoundaries => [⟨"context", ""⟩, ⟨"boundaries", ""⟩]
  | queryComplexity => [⟨"query", ""⟩, ⟨"complexity", ""⟩]

def label : Metric → String
  | functionsPerModule => "Functions per module"
  | linesPerFunction => "Lines per function"
  | callDepth => "Call depth"
  | cyclomaticComplexity => "Cyclomatic complexity"
  | patternMatchDepth => "Pattern match depth"
  | staticAnalysisWarnings => "Static analysis warnings"
  | lintScore => "Lint score"
  | stateComplexity => "State complexity"
  | contextBoundaries => "Context boundaries"
  | queryComplexity => "Query complexity"

def isRequired : Metric → Bool
  | functionsPerModule | linesPerFunction | callDepth => true
  | _ => false

/-- Whether the bound of a metric grows with the complexity of a task. -/
def isScaled : Metric → Bool
  | staticAnalysisWarnings | lintScore => false
  | _ => true

/-- Whether the bound of a metric is its least value. -/
def isLeast : Metric → Bool
  | lintScore => true
  | _ => false

/-- The option that replaces the bound of a metric. -/
def option? : Metric → Option String
  | functionsPerModule => some "max_functions_per_module"
  | linesPerFunction => some "max_lines_per_function"
  | callDepth => some "max_call_depth"
  | _ => none

end Metric

/-- What a bound is multiplied by. -/
def Complexity.factor : Complexity → Binary64
  | .simple => .ofInt 1
  | .medium => .ofRatio false 3 2
  | .complex => .ofInt 2
  | .critical => .ofInt 3

namespace Check.Kpi

open Text Document Content

/-! ### Metrics in a text -/

/-- What follows a word in any case, with its ending if that is there. -/
def dropMetricWord? (w : MetricWord) (cs : List Char) : Option (List Char) :=
  (dropWord? w.stem.toList cs).map fun rest => (dropWord? w.ending.toList rest).getD rest

/-- What follows words with blanks between them. -/
def dropWords? : List MetricWord → List Char → Option (List Char)
  | [], cs => some cs
  | [w], cs => dropMetricWord? w cs
  | w :: more, cs =>
    match dropMetricWord? w cs with
    | some (c :: rest) => if isBlank c then dropWords? more (trimStart rest) else none
    | _ => none

/-- A number in digits, with a fraction if it has one, at the start of a text. -/
def decimal? (cs : List Char) : Option Binary64 :=
  let whole := cs.takeWhile isDigit
  if whole = [] then none
  else
    let fraction :=
      match cs.dropWhile isDigit with
      | '.' :: rest => rest.takeWhile isDigit
      | _ => []
    some (.ofDecimal false (digitsValue (whole ++ fraction)) (-(fraction.length : Int)))

/-- The value of a metric that a text starts with: its name, a colon and a number. -/
def valueHere? (m : Metric) (cs : List Char) : Option Binary64 := do
  let rest ← dropWords? m.words cs
  decimal? (trimStart (← after? [':'] (trimStart rest)))

/-- The first value of a metric in a text. -/
def valueIn? (m : Metric) : List Char → Option Binary64
  | [] => none
  | c :: rest =>
    match valueHere? m (c :: rest) with
    | some x => some x
    | none => valueIn? m rest

/-- Values of metrics, in the order in which they were found. -/
abbrev Values := List (Metric × Binary64)

def Values.get? (values : Values) (m : Metric) : Option Binary64 := values.lookup m

/-- Adds the value of a metric in a line, if it has no value yet. -/
def addValue (line : String) (values : Values) (m : Metric) : Values :=
  match values.get? m, valueIn? m line.toList with
  | none, some x => values ++ [(m, x)]
  | _, _ => values

/-- The first value of each metric in lines. -/
def values (lines : List String) : Values :=
  lines.foldl (fun values line => Metric.all.foldl (addValue line) values) []

/-! ### Complexity -/

/-- The first of some words that a text starts with, as it is written there. -/
def firstWord? (words : List String) (cs : List Char) : Option (List Char) :=
  words.findSome? fun w =>
    (dropWord? w.toList cs).map fun rest => cs.take (cs.length - rest.length)

/-- The complexity that a text starts with: a bold label and one of the four words, in any case. -/
def statedHere? (cs : List Char) : Option (List Char) := do
  let rest ← dropWord? "complexity assessment".toList (← after? boldMark cs)
  let rest ← after? boldMark (dropColon rest).2
  firstWord? ["simple", "medium", "complex", "critical"] (trimStart (dropColon rest).2)

def statedWord? : List Char → Option (List Char)
  | [] => none
  | c :: rest =>
    match statedHere? (c :: rest) with
    | some w => some w
    | none => statedWord? rest

/-- The complexity that a task states, or else that of its category. -/
def complexity (policy : Policy) (t : Task) : Except Fault Complexity :=
  match t.ownLines.findSome? fun line => statedWord? line.toList with
  | some w =>
    let name := lowered (String.ofList w)
    match Complexity.ofName? name with
    | some c => .ok c
    | none => .error (.unknownComplexity name)
  | none =>
    match t.category with
    | some category => .ok (policy.complexityOf category)
    | none => .ok .simple

/-! ### Bounds -/

/-- The nearest number to an integer. -/
def numberOfInt (n : Int) : Except Fault Binary64 :=
  match Binary64.ofInt? n with
  | some x => .ok x
  | none => .error .oversizedLimit

def numberOf : Quantity → Except Fault Binary64
  | .whole n => numberOfInt n
  | .real x => .ok x

def numberOfValue : Value → Except Fault Binary64
  | .bool b => .ok (.ofInt (if b then 1 else 0))
  | .int n => numberOfInt n
  | .float x => .ok x
  | .text s =>
    match Numeral.readFree? s with
    | some x => .ok x
    | none => .error (.unreadableLimit s)
  | _ => .error .noLimit

def half : Binary64 := .ofRatio false 1 2

/-- A bound for tasks of some complexity: the product to the nearest integer, a half going up. -/
def scaledLimit (base : Binary64) (c : Complexity) : Except Fault Int :=
  match (base.mul c.factor).add half with
  | .nan => .error .undefinedLimit
  | .infinite _ => .error .infiniteLimit
  | x => .ok (x.floor?.getD 0)

/-- The bound of a metric before it is scaled: an option, or else what the policy says. -/
def baseLimit (scope : Scope) (m : Metric) : Except Fault Binary64 :=
  match m.option?.bind scope.settings.get? with
  | some v => numberOfValue v
  | none => numberOf (scope.policy.limits.bound m)

def valueIssues (scope : Scope) (t : Task) (c : Complexity) (m : Metric) (x : Binary64) :
    Except Fault (List Issue) := do
  let base ← baseLimit scope m
  if m.isLeast then
    return if x.lt base then
      [.invalidKpiValue t.id m.label (.ofNumber x) (.ofNumber base) true none] else []
  else
    let limit ← if m.isScaled then (scaledLimit base c).map Binary64.ofInt else .ok base
    return if limit.lt x then
      [.invalidKpiValue t.id m.label (.ofNumber x) (.ofNumber limit) false (some c.name)] else []

/-! ### Where metrics are stated -/

def sectionName : String := "Code Quality KPIs"

/-- Whether a text holds a word in any case. -/
def holdsWord (word : List Char) : List Char → Bool
  | [] => word = []
  | c :: rest => (dropWord? word (c :: rest)).isSome || holdsWord word rest

def isKpiName (name : String) : Bool := holdsWord "kpi".toList name.toList

def kpiNames (t : Task) : List String := (referencesIn t.ownLines).filter isKpiName

/-- The lines of a referenced block that state metrics: those of its section if it has one. -/
def blockLines (block : List String) : List String := (sectionBlock? sectionName block).getD block

/-- The lines in which a task states its metrics, those of its own section first; none if it has
neither a section nor a reference. -/
def lines? (references : References) (t : Task) : Option (List String) :=
  let inline := sectionBlock? sectionName t.ownLines
  let names := kpiNames t
  if inline.isNone && names.isEmpty then none
  else some (inline.getD [] ++
    (names.filterMap references.find?).flatMap blockLines)

def undefinedNames (references : References) (t : Task) : List String :=
  (kpiNames t).filter (!references.contains ·)

def missingLabels (values : Values) : List String :=
  (Metric.all.filter fun m => m.isRequired && (values.get? m).isNone).map Metric.label

/-- The issues of the values of all metrics, one metric after the other. -/
def allValueIssues (scope : Scope) (t : Task) (c : Complexity) (values : Values) :
    List Metric → Except Fault (List Issue)
  | [] => .ok []
  | m :: more => do
    let issues ← match values.get? m with
      | some x => valueIssues scope t c m x
      | none => .ok []
    return issues ++ (← allValueIssues scope t c values more)

def issues (t : Task) (scope : Scope) : Except Fault (List Issue) :=
  match lines? scope.references t with
  | none => .ok [.missingKpiSection t.id]
  | some lines =>
    let values := values lines
    let undefined := undefinedNames scope.references t
    let missing := missingLabels values
    if !undefined.isEmpty && values.isEmpty then .ok [.missingKpiReference t.id undefined]
    else if !missing.isEmpty then .ok [.missingKpiMetrics t.id missing]
    else do
      allValueIssues scope t (← complexity scope.policy t) values Metric.all

end Check.Kpi

namespace Check

def kpi : Check where
  title := "KpiValidator"
  rank := 30
  run t scope := (Kpi.issues t scope).map Verdict.ofIssues

end Check

end TaskAudit
