import TaskAudit.Audit
import TaskAudit.Markup

/-!
# Progress bars

A bar for each phase that was started, with the number of tasks checked so far and a tally of the
issues found in them. Starting a phase again adds a bar, and what follows goes to the new one.
-/

namespace TaskAudit

structure Bar where
  label : String
  total : Option Int
  completed : Int
  detail : String
  deriving DecidableEq, Repr, Inhabited

/-- What a display is told, phases being known by name. -/
inductive Signal where
  | started (phase : String) (total : Option Int)
  | checked (id : String) (issues : Int)
  | finished (phase : String) (issues : Int)
  /-- A phase ended early, for a reason with a name and a text. -/
  | interrupted (phase reason text : String)
  deriving DecidableEq, Repr

/-- What an event of an audit tells a display, given the name of its fault if it has one. -/
def Signal.ofEvent (reason : String) : Event → Signal
  | .started phase total => .started phase.name (total.map Int.ofNat)
  | .checked id issues => .checked id issues
  | .finished phase issues => .finished phase.name issues
  | .interrupted phase fault => .interrupted phase.name reason fault.message

structure Progress where
  /-- All bars, in the order in which they were made. -/
  bars : List Bar
  /-- The bar of each phase. -/
  current : Catalog Nat
  tally : Int
  deriving DecidableEq, Repr

namespace Progress

def empty : Progress := { bars := [], current := ∅, tally := 0 }

def label (phase : String) : String :=
  if phase = "References" then "[cyan]References[/]"
  else if phase = "Tasks" then "[green]Tasks[/]"
  else phase

def issueCount (n : Int) : String := if n = 1 then s!"{n} issue" else s!"{n} issues"

/-! ### Signals -/

/-- Changes the current bar of a phase, if the phase was started. -/
def change (p : Progress) (phase : String) (f : Bar → Bar) : Progress :=
  match p.current.find? phase with
  | none => p
  | some i => { p with bars := p.bars.modify i f }

def start (p : Progress) (phase : String) (total : Option Int) : Progress where
  bars := p.bars ++ [{ label := label phase, total, completed := 0, detail := "" }]
  current := p.current.insert phase p.bars.length
  tally := if phase = Phase.tasks.name then 0 else p.tally

def taskChecked (p : Progress) (id : String) (issues : Int) : Progress :=
  if p.current.contains Phase.tasks.name then
    let tally := p.tally + issues
    let style := if issues = 0 then "dim" else "yellow"
    let detail := s!"[{style}]{id}[/]" ++
      (if tally = 0 then "" else " (" ++ issueCount tally ++ " so far)")
    { p with tally }.change Phase.tasks.name fun bar =>
      { bar with completed := bar.completed + 1, detail }
  else p

def finish (p : Progress) (phase : String) (issues : Int) : Progress :=
  let detail := if issues = 0 then "[green]clean[/]" else "[yellow]" ++ issueCount issues ++ "[/]"
  p.change phase fun bar =>
    match bar.total with
    | none => { bar with total := some 1, completed := 1, detail }
    | some total => { bar with completed := total, detail }

def interrupt (p : Progress) (phase reason text : String) : Progress :=
  let shown := Markup.escape s!"{reason}: {text}"
  p.change phase fun bar =>
    { bar with label := s!"[red]✗ {phase}[/]", detail := s!"[red]{shown}[/]" }

def apply (p : Progress) : Signal → Progress
  | .started phase total => p.start phase total
  | .checked id issues => p.taskChecked id issues
  | .finished phase issues => p.finish phase issues
  | .interrupted phase reason text => p.interrupt phase reason text

end Progress

end TaskAudit
