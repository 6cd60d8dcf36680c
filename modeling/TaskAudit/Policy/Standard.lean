import TaskAudit.Pattern.Compile
import TaskAudit.Policy

/-!
# The standard policy

What an audit goes by when nothing else is said.
-/

namespace TaskAudit.Policy

/-- A pattern known to be one; any other text would give the pattern that accepts all. -/
private def known (source : String) : Pattern :=
  (Pattern.compile source).toOption.getD { source, expr := .empty }

def standard : Policy where
  statuses := ["Planned", "In Progress", "Review", "Completed", "Blocked"]
  priorities := ["Critical", "High", "Medium", "Low"]
  idPattern := known "^[A-Z]\x7b2,4\x7d\\d\x7b3,4\x7d(-\\d+|[a-z])?$"
  ratingPattern := known "^([1-5](\\.\\d)?)\\s*(\\(partial\\))?$"
  limits := {
    functionsPerModule := 8
    linesPerFunction := 15
    callDepth := 3
    cyclomaticComplexity := 10
    patternMatchDepth := 4
    staticAnalysisWarnings := 0
    lintScore := Binary64.ofInt 8
    stateComplexity := 5
    contextBoundaries := 3
    queryComplexity := 4 }
  categoryRanges := Catalog.ofPairs [
    ("stateful_worker", ⟨1, 99⟩),
    ("web_layer", ⟨100, 199⟩),
    ("business_logic", ⟨200, 299⟩),
    ("data_layer", ⟨300, 399⟩),
    ("infrastructure", ⟨400, 499⟩),
    ("testing", ⟨500, 599⟩)]
  categorySections := Catalog.ofPairs [
    ("stateful_worker", ["Process Design", "State Management", "Supervision Strategy"]),
    ("web_layer", ["Route Design", "Context Integration", "Template/Component Strategy"]),
    ("business_logic", ["API Design", "Data Access", "Validation Strategy"]),
    ("data_layer", ["Schema Design", "Migration Strategy", "Query Optimization"]),
    ("infrastructure", ["Release Configuration", "Environment Variables", "Deployment Strategy"]),
    ("testing", ["Test Strategy", "Coverage Requirements"])]
  enforceCategorySections := true
  categoryComplexity := Catalog.ofPairs [
    ("stateful_worker", .medium),
    ("web_layer", .simple),
    ("business_logic", .medium),
    ("data_layer", .simple),
    ("infrastructure", .complex),
    ("testing", .complex)]
  codeCategories := Catalog.ofPairs [
    ("OTP", "stateful_worker"), ("GEN", "stateful_worker"), ("SUP", "stateful_worker"),
    ("APP", "stateful_worker"), ("PHX", "web_layer"), ("WEB", "web_layer"), ("LV", "web_layer"),
    ("LVC", "web_layer"), ("CTX", "business_logic"), ("BIZ", "business_logic"),
    ("DOM", "business_logic"), ("DB", "data_layer"), ("ECT", "data_layer"), ("MIG", "data_layer"),
    ("SCH", "data_layer"), ("INF", "infrastructure"), ("DEP", "infrastructure"),
    ("ENV", "infrastructure"), ("REL", "infrastructure"), ("TST", "testing"), ("TES", "testing"),
    ("INT", "testing"), ("E2E", "testing")]
  checkCodes := false

end TaskAudit.Policy
