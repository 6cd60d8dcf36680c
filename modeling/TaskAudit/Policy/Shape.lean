import TaskAudit.Policy.Standard
import TaskAudit.Shape

/-!
# Policies as data

Reading a policy from a map of the fields that differ from the standard one, and writing one as a
map of all its fields. Overriding fields of a policy is writing it, replacing them, and reading it
again.
-/

namespace TaskAudit.Policy

open Shape Text

def listOfNames : List String → Option String := fun names =>
  if names.isEmpty || names.any isBlankString then
    some "must be a non-empty list of non-blank strings"
  else none

def positive (n : Int) : Option String :=
  if n ≤ 0 then some "must be a positive integer" else none

def notNegative (n : Int) : Option String :=
  if n < 0 then some "must be a non-negative integer" else none

def score (x : Binary64) : Option String :=
  if Binary64.le (.ofInt 0) x && Binary64.le x (.ofInt 10) then none
  else some "must be a number between 0.0 and 10.0"

def ordered (ranges : Catalog NumberRange) : Option String :=
  (ranges.entries.find? fun entry => entry.2.high < entry.2.low).map fun (name, r) =>
    if Value.isWritable r.low && Value.isWritable r.high then
      s!"range for '{name}' must satisfy min <= max, got [{r.low}, {r.high}]"
    else Value.longIntegerText none

/-- The name of a section without the asterisks of a bold label. -/
def bareSection (name : String) : String :=
  String.ofList (trim (trimOf (· = '*') (trim name.toList)))

def range (v : Value) : Reading NumberRange :=
  (pair integer v).map fun (low, high) => ⟨low, high⟩

/-- The keys of a policy's fields, in their order. -/
def keys : List String :=
  ["valid_statuses", "valid_priorities", "id_regex", "rating_regex", "max_functions_per_module",
    "max_lines_per_function", "max_call_depth", "max_cyclomatic_complexity",
    "max_pattern_match_depth",
    "max_static_analysis_warnings", "min_lint_score", "max_state_complexity",
    "max_context_boundaries", "max_query_complexity", "category_ranges", "category_sections",
    "enforce_category_sections", "category_complexity", "semantic_prefixes",
    "enable_semantic_prefixes"]

/-- The fields that a map gives, and those of the standard policy for the others. -/
def fields (entries : List (String × Value)) : Reading Policy :=
  let names (key : String) (d : List String) :=
    field entries key (.ok d) fun v => (list text v).keeping listOfNames
  let ceiling (key : String) (d : Int) :=
    field entries key (.ok d) fun v => (integer v).keeping positive
  let limits := standard.limits
  (fun statuses priorities idPattern ratingPattern functionsPerModule linesPerFunction callDepth
      cyclomaticComplexity patternMatchDepth staticAnalysisWarnings lintScore stateComplexity
      contextBoundaries queryComplexity categoryRanges categorySections enforceCategorySections
      categoryComplexity codeCategories checkCodes =>
    { statuses, priorities, idPattern, ratingPattern, categoryRanges, categorySections,
      enforceCategorySections, categoryComplexity, codeCategories, checkCodes
      limits := {
        functionsPerModule, linesPerFunction, callDepth, cyclomaticComplexity, patternMatchDepth,
        staticAnalysisWarnings, lintScore, stateComplexity, contextBoundaries, queryComplexity } })
    <$> names "valid_statuses" standard.statuses
    <*> names "valid_priorities" standard.priorities
    <*> field entries "id_regex" (.ok standard.idPattern) pattern
    <*> field entries "rating_regex" (.ok standard.ratingPattern) pattern
    <*> ceiling "max_functions_per_module" limits.functionsPerModule
    <*> ceiling "max_lines_per_function" limits.linesPerFunction
    <*> ceiling "max_call_depth" limits.callDepth
    <*> ceiling "max_cyclomatic_complexity" limits.cyclomaticComplexity
    <*> ceiling "max_pattern_match_depth" limits.patternMatchDepth
    <*> field entries "max_static_analysis_warnings" (.ok limits.staticAnalysisWarnings)
      (fun v => (integer v).keeping notNegative)
    <*> field entries "min_lint_score" (.ok limits.lintScore) (fun v => (number v).keeping score)
    <*> ceiling "max_state_complexity" limits.stateComplexity
    <*> ceiling "max_context_boundaries" limits.contextBoundaries
    <*> ceiling "max_query_complexity" limits.queryComplexity
    <*> field entries "category_ranges" (.ok standard.categoryRanges)
      (fun v => (map range v).keeping ordered)
    <*> field entries "category_sections" (.ok standard.categorySections)
      (fun v => (map (list text) v).map (·.map (·.map bareSection)))
    <*> field entries "enforce_category_sections" (.ok standard.enforceCategorySections) bool
    <*> field entries "category_complexity" (.ok standard.categoryComplexity)
      (map (choice Complexity.ofName?))
    <*> field entries "semantic_prefixes" (.ok standard.codeCategories) (map text)
    <*> field entries "enable_semantic_prefixes" (.ok standard.checkCodes) bool

/-- The policy that a map of fields describes; a key of no field is refused. -/
def ofValue : Value → Reading Policy
  | .map entries => (fun policy _ => policy) <$> fields entries <*> closed keys entries
  | _ => .fail .notRecord

/-- All fields of a policy under their keys. -/
def toEntries (p : Policy) : List (String × Value) :=
  let limits := p.limits
  [("valid_statuses", .texts p.statuses),
    ("valid_priorities", .texts p.priorities),
    ("id_regex", .text p.idPattern.source),
    ("rating_regex", .text p.ratingPattern.source),
    ("max_functions_per_module", .int limits.functionsPerModule),
    ("max_lines_per_function", .int limits.linesPerFunction),
    ("max_call_depth", .int limits.callDepth),
    ("max_cyclomatic_complexity", .int limits.cyclomaticComplexity),
    ("max_pattern_match_depth", .int limits.patternMatchDepth),
    ("max_static_analysis_warnings", .int limits.staticAnalysisWarnings),
    ("min_lint_score", .float limits.lintScore),
    ("max_state_complexity", .int limits.stateComplexity),
    ("max_context_boundaries", .int limits.contextBoundaries),
    ("max_query_complexity", .int limits.queryComplexity),
    ("category_ranges", .map (p.categoryRanges.map fun r =>
      Value.list [.int r.low, .int r.high]).entries),
    ("category_sections", .map (p.categorySections.map Value.texts).entries),
    ("enforce_category_sections", .bool p.enforceCategorySections),
    ("category_complexity", .map (p.categoryComplexity.map fun c => Value.text c.name).entries),
    ("semantic_prefixes", .map (p.codeCategories.map Value.text).entries),
    ("enable_semantic_prefixes", .bool p.checkCodes)]

/-- A policy with some fields replaced, the whole of it read anew. -/
def withOverrides (p : Policy) (overrides : List (String × Value)) : Reading Policy :=
  ofValue (.ofPairs (p.toEntries ++ overrides))

/-- The fields of a policy never change in place; a key with an underscore in front is none of
theirs. -/
def set (p : Policy) (key : String) (_ : Value) : Reading Policy :=
  if key.startsWith "_" then .ok p else (Reading.fail .fixed).under (.key key)

end TaskAudit.Policy
