import TaskAudit.Catalog
import TaskAudit.Number.Quantity
import TaskAudit.Pattern

/-!
# Policies

The parameters of an audit: which statuses and priorities are in use, what an id and a rating look
like, the bounds on code metrics, and what the number in a task's id says about its category.
-/

namespace TaskAudit

inductive Complexity where
  | simple
  | medium
  | complex
  | critical
  deriving DecidableEq, Repr, Inhabited

namespace Complexity

def all : List Complexity := [simple, medium, complex, critical]

def name : Complexity → String
  | simple => "simple"
  | medium => "medium"
  | complex => "complex"
  | critical => "critical"

def ofName? (name : String) : Option Complexity := all.find? (·.name = name)

/-- Place in the order from simple to critical. -/
def rank : Complexity → Nat
  | simple => 0
  | medium => 1
  | complex => 2
  | critical => 3

end Complexity

structure NumberRange where
  low : Int
  high : Int
  deriving DecidableEq, Repr, Inhabited

def NumberRange.contains (r : NumberRange) (n : Int) : Bool := r.low ≤ n && n ≤ r.high

/-- A measured property of the code that implements a task. -/
inductive Metric where
  | functionsPerModule
  | linesPerFunction
  | callDepth
  | cyclomaticComplexity
  | patternMatchDepth
  | staticAnalysisWarnings
  | lintScore
  | stateComplexity
  | contextBoundaries
  | queryComplexity
  deriving DecidableEq, Repr, Inhabited

def Metric.all : List Metric :=
  [.functionsPerModule, .linesPerFunction, .callDepth, .cyclomaticComplexity, .patternMatchDepth,
    .staticAnalysisWarnings, .lintScore, .stateComplexity, .contextBoundaries, .queryComplexity]

theorem Metric.mem_all (m : Metric) : m ∈ all := by
  cases m <;> decide

/-- The bounds on metrics: the least lint score, and the greatest value of every other metric. -/
structure Limits where
  functionsPerModule : Int
  linesPerFunction : Int
  callDepth : Int
  cyclomaticComplexity : Int
  patternMatchDepth : Int
  staticAnalysisWarnings : Int
  lintScore : Binary64
  stateComplexity : Int
  contextBoundaries : Int
  queryComplexity : Int
  deriving DecidableEq, Repr, Inhabited

def Limits.bound (limits : Limits) : Metric → Quantity
  | .functionsPerModule => .whole limits.functionsPerModule
  | .linesPerFunction => .whole limits.linesPerFunction
  | .callDepth => .whole limits.callDepth
  | .cyclomaticComplexity => .whole limits.cyclomaticComplexity
  | .patternMatchDepth => .whole limits.patternMatchDepth
  | .staticAnalysisWarnings => .whole limits.staticAnalysisWarnings
  | .lintScore => .real limits.lintScore
  | .stateComplexity => .whole limits.stateComplexity
  | .contextBoundaries => .whole limits.contextBoundaries
  | .queryComplexity => .whole limits.queryComplexity

structure Policy where
  statuses : List String
  priorities : List String
  idPattern : Pattern
  ratingPattern : Pattern
  limits : Limits
  categoryRanges : Catalog NumberRange
  categorySections : Catalog (List String)
  enforceCategorySections : Bool
  /-- The complexity of a category's tasks that state none. -/
  categoryComplexity : Catalog Complexity
  /-- The category that the letter code of an id stands for. -/
  codeCategories : Catalog String
  checkCodes : Bool
  deriving DecidableEq, Repr, Inhabited

namespace Policy

/-- The first category whose range holds a number. -/
def categoryOf? (policy : Policy) (number : Int) : Option String :=
  (policy.categoryRanges.entries.find? (·.2.contains number)).map Prod.fst

def sectionsOf (policy : Policy) (category : String) : List String :=
  (policy.categorySections.find? category).getD []

/-- The complexity of a category's tasks, simple unless the policy says otherwise. -/
def complexityOf (policy : Policy) (category : String) : Complexity :=
  (policy.categoryComplexity.find? category).getD .simple

end Policy

end TaskAudit
