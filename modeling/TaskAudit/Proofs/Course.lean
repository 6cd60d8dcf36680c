import Mathlib.Algebra.GroupWithZero.Nat
import TaskAudit.Proofs.Audit
import TaskAudit.Proofs.Closure

/-!
# The course of an audit

An audit taken as a machine: it goes from stage to stage, one check at a time, and some of its moves
tell the observer something. What has been told and found by the time it is in a stage is an
invariant of the machine, and in the last stage it is the protocol of the audit.
-/

namespace TaskAudit

theorem Verdict.issueCount_combine (vs : List Verdict) :
    (combine vs).issueCount = (vs.map (·.issueCount)).sum := by
  rw [issueCount, errors_combine, warnings_combine]
  induction vs with
  | nil => rfl
  | cons v vs ih =>
      simp only [List.flatMap_cons, List.length_append, List.map_cons, List.sum_cons, issueCount]
        at ih ⊢
      omega

namespace Pipeline

variable {p : Pipeline} {scope : Scope} {done : List (Task × Verdict)} {rest : List Task}

theorem finished_append (h : ∀ d ∈ done, p.run d.1 scope = .ok d.2) :
    p.finished scope (done.map Prod.fst ++ rest) = done ++ p.finished scope rest := by
  induction done with
  | nil => rfl
  | cons d done ih =>
      obtain ⟨hrun, h⟩ := List.forall_mem_cons.1 h
      rw [List.map_cons, List.cons_append, finished, hrun, List.cons_append, ih h]

theorem runEach_append (h : ∀ d ∈ done, p.run d.1 scope = .ok d.2) :
    p.runEach scope (done.map Prod.fst ++ rest) =
      (p.runEach scope rest).map (done.map Prod.snd ++ ·) := by
  induction done with
  | nil =>
      cases hrest : p.runEach scope rest <;> simp [Except.map, hrest]
  | cons d done ih =>
      obtain ⟨hrun, h⟩ := List.forall_mem_cons.1 h
      rw [List.map_cons, List.cons_append, runEach, hrun, ih h]
      cases p.runEach scope rest <;> rfl

/-- A check raises a fault on a task, after those before it have passed the task. -/
structure Raises (p : Pipeline) (scope : Scope) (t : Task) (fault : Fault) : Prop where
  exists_step : ∃ (before : List Step) (step : Step) (after : List Step) (vs : List Verdict),
    p.steps = before ++ step :: after ∧
    before.map (·.run t scope) = vs.map .ok ∧ (∀ v ∈ vs, v.valid = true) ∧
    step.run t scope = .error fault

theorem Raises.run_eq_error {t : Task} {fault : Fault} (h : p.Raises scope t fault) :
    p.run t scope = .error fault := by
  obtain ⟨before, step, after, vs, hsteps, hruns, hvalid, hstep⟩ := h.exists_step
  have hverdicts : verdicts t scope (step :: after) = .error fault := by
    rw [verdicts, hstep]
    rfl
  rw [run, hsteps, (run_append hruns hvalid).1, hverdicts]
  rfl

end Pipeline

namespace Audit

/-! ### The machine -/

inductive Stage where
  | opening
  | references
  | between
  | tasks (done : List (Task × Verdict)) (rest : List Task)
  /-- A task is looked at: some checks have passed it, and steps are left. -/
  | checks (done : List (Task × Verdict)) (t : Task) (rest : List Task) (passed : List Verdict)
    (steps : List Step)
  | ended (outcome : Except Fault Verdict)

def checkedEvent (d : Task × Verdict) : Event := .checked d.1.id d.2.issueCount

/-- One move of an audit, with what it tells. -/
inductive Moves (policy : Policy) (p : Pipeline) (l : TaskList) : Stage → List Event → Stage → Prop
  | openReferences : Moves policy p l .opening [.started .references none] .references
  | closeReferences : Moves policy p l .references
      [.finished .references (Usage.checkList l none).issueCount] .between
  | openTasks : Moves policy p l .between [.started .tasks (some l.mainTasks.length)]
      (.tasks [] l.mainTasks)
  | openTask (done t rest) :
      Moves policy p l (.tasks done (t :: rest)) [] (.checks done t rest [] p.steps)
  | pass {done t rest passed step steps v} (hrun : step.run t ⟨policy, l, []⟩ = .ok v)
      (hvalid : v.valid = true) : Moves policy p l (.checks done t rest passed (step :: steps)) []
        (.checks done t rest (passed ++ [v]) steps)
  | fail {done t rest passed step steps v} (hrun : step.run t ⟨policy, l, []⟩ = .ok v)
      (hvalid : v.valid = false) : Moves policy p l (.checks done t rest passed (step :: steps))
        [checkedEvent (t, Verdict.combine (passed ++ [v]))]
        (.tasks (done ++ [(t, Verdict.combine (passed ++ [v]))]) rest)
  | closeTask (done t rest passed) : Moves policy p l (.checks done t rest passed [])
      [checkedEvent (t, Verdict.combine passed)]
      (.tasks (done ++ [(t, Verdict.combine passed)]) rest)
  | raise {done t rest passed step steps fault} (hrun : step.run t ⟨policy, l, []⟩ = .error fault) :
      Moves policy p l (.checks done t rest passed (step :: steps)) [.interrupted .tasks fault]
        (.ended (.error fault))
  | closeTasks (done) : Moves policy p l (.tasks done [])
      [.finished .tasks (Verdict.combine (done.map Prod.snd)).issueCount]
      (.ended (.ok ((Verdict.combine [Usage.checkList l none,
        Verdict.combine (done.map Prod.snd)]).withTaskCount l.size)))

/-- What has been told when an audit has come to a stage. -/
inductive Reaches (policy : Policy) (p : Pipeline) (l : TaskList) : List Event → Stage → Prop
  | start : Reaches policy p l [] .opening
  | next {told new stage later} (h : Reaches policy p l told stage)
      (hmove : Moves policy p l stage new later) : Reaches policy p l (told ++ new) later

variable {policy : Policy} {p : Pipeline} {l : TaskList} {told new : List Event}

/-! ### Every audit ends -/

theorem Reaches.exists_tasks {done : List (Task × Verdict)} {t : Task} {rest : List Task}
    {steps : List Step} {passed : List Verdict}
    (h : Reaches policy p l told (.checks done t rest passed steps)) :
    (∃ told v, Reaches policy p l told (.tasks (done ++ [(t, v)]) rest)) ∨
      ∃ told fault, Reaches policy p l told (.ended (.error fault)) := by
  -- A step that is left passes the task, or it is the last for the task or for the audit.
  induction steps generalizing told passed with
  | nil => exact Or.inl ⟨_, _, h.next (.closeTask ..)⟩
  | cons step steps ih =>
      cases hrun : step.run t ⟨policy, l, []⟩ with
      | error fault => exact Or.inr ⟨_, fault, h.next (.raise hrun)⟩
      | ok v =>
          cases hvalid : v.valid with
          | false => exact Or.inl ⟨_, _, h.next (.fail hrun hvalid)⟩
          | true => exact ih (h.next (.pass hrun hvalid))

theorem Reaches.exists_ended {done : List (Task × Verdict)} {rest : List Task}
    (h : Reaches policy p l told (.tasks done rest)) :
    ∃ told outcome, Reaches policy p l told (.ended outcome) := by
  induction rest generalizing told done with
  | nil => exact ⟨_, _, h.next (.closeTasks done)⟩
  | cons t rest ih =>
      rcases (h.next (.openTask done t rest)).exists_tasks with ⟨_, _, h⟩ | ⟨_, fault, h⟩
      · exact ih h
      · exact ⟨_, _, h⟩

theorem exists_reaches_ended (policy : Policy) (p : Pipeline) (l : TaskList) :
    ∃ told outcome, Reaches policy p l told (.ended outcome) :=
  (((Reaches.start.next .openReferences).next .closeReferences).next .openTasks).exists_ended

/-! ### What has been told -/

def openingEvents (l : TaskList) (undefined : Nat) : List Event :=
  [.started .references none, .finished .references undefined,
    .started .tasks (some l.mainTasks.length)]

/-- Some main tasks are done, and others are left. -/
structure Divides (policy : Policy) (p : Pipeline) (l : TaskList) (done : List (Task × Verdict))
    (rest : List Task) : Prop where
  place : l.mainTasks = done.map Prod.fst ++ rest
  runs : ∀ d ∈ done, p.run d.1 ⟨policy, l, []⟩ = .ok d.2

/-- A check raises a fault on the first main task that is not done. -/
structure BreaksAt (policy : Policy) (p : Pipeline) (l : TaskList) (done : List (Task × Verdict))
    (t : Task) (fault : Fault) : Prop where
  divides : ∃ rest, Divides policy p l done (t :: rest)
  raises : p.Raises ⟨policy, l, []⟩ t fault

section Outcome

variable {done : List (Task × Verdict)} {t : Task} {rest : List Task} {v : Verdict} {fault : Fault}

theorem Divides.concat (h : Divides policy p l done (t :: rest))
    (hrun : p.run t ⟨policy, l, []⟩ = .ok v) : Divides policy p l (done ++ [(t, v)]) rest where
  place := by simp [h.place]
  runs := by
    intro d hd
    rcases List.mem_append.1 hd with hd | hd
    · exact h.runs d hd
    · obtain rfl := List.mem_singleton.1 hd
      exact hrun

theorem Divides.runMany_eq_ok (h : Divides policy p l done []) :
    p.runMany l.mainTasks ⟨policy, l, []⟩ = .ok (Verdict.combine (done.map Prod.snd)) := by
  rw [Pipeline.runMany, h.place, Pipeline.runEach_append h.runs]
  simp [Pipeline.runEach, Except.map]

theorem Divides.verdict_eq_ok (h : Divides policy p l done []) :
    verdict policy p l = .ok ((Verdict.combine [Usage.checkList l none,
      Verdict.combine (done.map Prod.snd)]).withTaskCount l.size) := by
  rw [verdict, h.runMany_eq_ok]
  rfl

theorem Divides.events_eq (h : Divides policy p l done []) : events policy p l =
    openingEvents l (Usage.checkList l none).issueCount ++ done.map checkedEvent ++
      [.finished .tasks (Verdict.combine (done.map Prod.snd)).issueCount] := by
  have hfinished : p.finished ⟨policy, l, []⟩ l.mainTasks = done := by
    rw [h.place, Pipeline.finished_append h.runs, Pipeline.finished, List.append_nil]
  simp only [events, h.runMany_eq_ok, hfinished]
  rfl

theorem BreaksAt.runMany_eq_error (h : BreaksAt policy p l done t fault) :
    p.runMany l.mainTasks ⟨policy, l, []⟩ = .error fault := by
  obtain ⟨rest, hdivides⟩ := h.divides
  have hrest : p.runEach ⟨policy, l, []⟩ (t :: rest) = .error fault := by
    rw [Pipeline.runEach, h.raises.run_eq_error]
    rfl
  rw [Pipeline.runMany, hdivides.place, Pipeline.runEach_append hdivides.runs, hrest]
  rfl

theorem BreaksAt.verdict_eq_error (h : BreaksAt policy p l done t fault) :
    verdict policy p l = .error fault := by
  rw [verdict, h.runMany_eq_error]
  rfl

theorem BreaksAt.events_eq (h : BreaksAt policy p l done t fault) : events policy p l =
    openingEvents l (Usage.checkList l none).issueCount ++ done.map checkedEvent ++
      [.interrupted .tasks fault] := by
  obtain ⟨rest, hdivides⟩ := h.divides
  have hfinished : p.finished ⟨policy, l, []⟩ l.mainTasks = done := by
    rw [hdivides.place, Pipeline.finished_append hdivides.runs, Pipeline.finished,
      h.raises.run_eq_error, List.append_nil]
  simp only [events, h.runMany_eq_error, hfinished]
  rfl

end Outcome

/-- The steps that have passed a task, with their verdicts, and those that are left. -/
structure Passed (policy : Policy) (p : Pipeline) (l : TaskList) (t : Task) (passed : List Verdict)
    (steps : List Step) : Prop where
  exists_before : ∃ before, p.steps = before ++ steps ∧
    before.map (·.run t ⟨policy, l, []⟩) = passed.map .ok
  valid : ∀ v ∈ passed, v.valid = true

section Passed

variable {t : Task} {passed : List Verdict} {step : Step} {steps : List Step} {v : Verdict}

theorem passed_nil : Passed policy p l t [] p.steps := ⟨⟨[], rfl, rfl⟩, by simp⟩

theorem Passed.concat (h : Passed policy p l t passed (step :: steps))
    (hrun : step.run t ⟨policy, l, []⟩ = .ok v) (hvalid : v.valid = true) :
    Passed policy p l t (passed ++ [v]) steps := by
  obtain ⟨before, hsteps, hruns⟩ := h.exists_before
  refine ⟨⟨before ++ [step], by simp [hsteps], by simp [hruns, hrun]⟩, fun w hw => ?_⟩
  rcases List.mem_append.1 hw with hw | hw
  · exact h.valid w hw
  · rwa [List.mem_singleton.1 hw]

theorem Passed.verdicts_eq (h : Passed policy p l t passed steps) :
    Pipeline.verdicts t ⟨policy, l, []⟩ p.steps =
      (Pipeline.verdicts t ⟨policy, l, []⟩ steps).map (passed ++ ·) := by
  obtain ⟨before, hsteps, hruns⟩ := h.exists_before
  rw [hsteps]
  exact (Pipeline.run_append hruns h.valid).1

theorem Passed.run_of_nil (h : Passed policy p l t passed []) :
    p.run t ⟨policy, l, []⟩ = .ok (Verdict.combine passed) := by
  rw [Pipeline.run, h.verdicts_eq, Pipeline.verdicts]
  simp [Except.map]

theorem Passed.run_of_fails (h : Passed policy p l t passed (step :: steps))
    (hrun : step.run t ⟨policy, l, []⟩ = .ok v) (hvalid : v.valid = false) :
    p.run t ⟨policy, l, []⟩ = .ok (Verdict.combine (passed ++ [v])) := by
  rw [Pipeline.run, h.verdicts_eq, Pipeline.verdicts_cons_of_not_valid hrun hvalid]
  rfl

theorem Passed.raises {fault : Fault} (h : Passed policy p l t passed (step :: steps))
    (hrun : step.run t ⟨policy, l, []⟩ = .error fault) :
    p.Raises ⟨policy, l, []⟩ t fault := by
  obtain ⟨before, hsteps, hruns⟩ := h.exists_before
  exact ⟨before, step, steps, passed, hsteps, hruns, h.valid, hrun⟩

end Passed

/-- What has been told and found by the time an audit is in a stage. -/
def Invariant (policy : Policy) (p : Pipeline) (l : TaskList) (told : List Event) : Stage → Prop
  | .opening => told = []
  | .references => told = [.started .references none]
  | .between => told =
      [.started .references none, .finished .references (Usage.checkList l none).issueCount]
  | .tasks done rest => Divides policy p l done rest ∧
      told = openingEvents l (Usage.checkList l none).issueCount ++ done.map checkedEvent
  | .checks done t rest passed steps => Divides policy p l done (t :: rest) ∧
      told = openingEvents l (Usage.checkList l none).issueCount ++ done.map checkedEvent ∧
      Passed policy p l t passed steps
  | .ended outcome => told = events policy p l ∧ outcome = verdict policy p l ∧
      ((∃ done, Divides policy p l done []) ∨ ∃ done t fault, BreaksAt policy p l done t fault)

theorem Moves.invariant {stage later : Stage} (hmove : Moves policy p l stage new later)
    (h : Invariant policy p l told stage) : Invariant policy p l (told ++ new) later := by
  cases hmove with
  | openReferences =>
      obtain rfl := h
      rfl
  | closeReferences =>
      obtain rfl := h
      rfl
  | openTasks =>
      obtain rfl := h
      exact ⟨⟨rfl, by simp⟩, rfl⟩
  | openTask done t rest =>
      obtain ⟨hdivides, rfl⟩ := h
      exact ⟨hdivides, List.append_nil _, passed_nil⟩
  | pass hrun hvalid =>
      obtain ⟨hdivides, rfl, hpassed⟩ := h
      exact ⟨hdivides, List.append_nil _, hpassed.concat hrun hvalid⟩
  | fail hrun hvalid =>
      obtain ⟨hdivides, rfl, hpassed⟩ := h
      exact ⟨hdivides.concat (hpassed.run_of_fails hrun hvalid), by simp⟩
  | closeTask done t rest passed =>
      obtain ⟨hdivides, rfl, hpassed⟩ := h
      exact ⟨hdivides.concat hpassed.run_of_nil, by simp⟩
  | raise hrun =>
      obtain ⟨hdivides, rfl, hpassed⟩ := h
      have hbreaks : BreaksAt policy p l _ _ _ := ⟨⟨_, hdivides⟩, hpassed.raises hrun⟩
      exact ⟨hbreaks.events_eq.symm, hbreaks.verdict_eq_error.symm, Or.inr ⟨_, _, _, hbreaks⟩⟩
  | closeTasks done =>
      obtain ⟨hdivides, rfl⟩ := h
      exact ⟨hdivides.events_eq.symm, hdivides.verdict_eq_ok.symm, Or.inl ⟨done, hdivides⟩⟩

theorem Reaches.invariant {stage : Stage} (h : Reaches policy p l told stage) :
    Invariant policy p l told stage := by
  induction h with
  | start => rfl
  | next _ hmove ih => exact hmove.invariant ih

/-- The machine ends with the verdict of the audit, and has then told its events. -/
theorem reaches_ended_iff {outcome : Except Fault Verdict} :
    Reaches policy p l told (.ended outcome) ↔
      told = events policy p l ∧ outcome = verdict policy p l := by
  constructor
  · intro h
    obtain ⟨htold, houtcome, -⟩ := h.invariant
    exact ⟨htold, houtcome⟩
  · rintro ⟨rfl, rfl⟩
    obtain ⟨told, outcome, h⟩ := exists_reaches_ended policy p l
    obtain ⟨rfl, rfl, -⟩ := h.invariant
    exact h

/-! ### The protocol -/

theorem exists_undefined_length_eq_issueCount (l : TaskList) :
    ∃ undefined : List String, undefined.Nodup ∧
      (∀ name, name ∈ undefined ↔ (∃ number, Document.IsUsedOn l.scannedLines name number) ∧
        name ∉ l.references.names) ∧
      (Usage.checkList l none).issueCount = undefined.length := by
  obtain ⟨undefined, hnodup, hmem, -, hreports⟩ :=
    Usage.exists_forall₂_reports l.references l.scannedLines
  exact ⟨undefined, hnodup, hmem, hreports.length_eq.symm⟩

/-- **The protocol of an audit.** The machine ends in one way only. It tells that the references are
looked at and how many names are undefined, and then the number of main tasks. If all of these come
to a verdict, each is told in order with its number of issues, and last the sum of these, which with
the undefined names makes the issues of the verdict. If a check raises a fault on one of them, the
tasks before it are told, then the fault and nothing more, and the audit fails with that fault. One
of the two is always the case. -/
theorem events_protocol (policy : Policy) (p : Pipeline) (l : TaskList) :
    ∃ undefined : List String, undefined.Nodup ∧
      (∀ name, name ∈ undefined ↔ (∃ number, Document.IsUsedOn l.scannedLines name number) ∧
        name ∉ l.references.names) ∧
      (∀ told outcome, Reaches policy p l told (.ended outcome) ↔
        told = events policy p l ∧ outcome = verdict policy p l) ∧
      (∀ done, Divides policy p l done [] →
        events policy p l = openingEvents l undefined.length ++ done.map checkedEvent ++
          [.finished .tasks (done.map (·.2.issueCount)).sum] ∧
        ∃ v, verdict policy p l = .ok v ∧
          v.issueCount = undefined.length + (done.map (·.2.issueCount)).sum) ∧
      (∀ done t fault, BreaksAt policy p l done t fault →
        events policy p l = openingEvents l undefined.length ++ done.map checkedEvent ++
          [.interrupted .tasks fault] ∧
        verdict policy p l = .error fault) ∧
      ((∃ done, Divides policy p l done []) ∨
        ∃ done t fault, BreaksAt policy p l done t fault) := by
  obtain ⟨undefined, hnodup, hmem, hcount⟩ := exists_undefined_length_eq_issueCount l
  refine ⟨undefined, hnodup, hmem, fun _ _ => reaches_ended_iff, fun done hdivides => ?_,
    fun done t fault hbreaks => ?_, ?_⟩
  · have hsum : (Verdict.combine (done.map Prod.snd)).issueCount =
        (done.map (·.2.issueCount)).sum := by
      rw [Verdict.issueCount_combine, List.map_map]
      rfl
    refine ⟨by rw [hdivides.events_eq, hcount, hsum], _, hdivides.verdict_eq_ok, ?_⟩
    calc
      (Verdict.combine [Usage.checkList l none, Verdict.combine (done.map Prod.snd)]).issueCount =
          (Usage.checkList l none).issueCount +
            (Verdict.combine (done.map Prod.snd)).issueCount := by
        rw [Verdict.issueCount_combine]
        rfl
      _ = undefined.length + (done.map (·.2.issueCount)).sum := by rw [hcount, hsum]
  · exact ⟨by rw [hbreaks.events_eq, hcount], hbreaks.verdict_eq_error⟩
  · obtain ⟨told, outcome, h⟩ := exists_reaches_ended policy p l
    exact h.invariant.2.2

/-- A check that gives up on one task and finds fault with every other one. -/
def brittle : Check where
  title := "Brittle"
  rank := 10
  run t _ := if t.id = "AB0002" then .error (.raised "no verdict")
    else .ok (.ofIssues [.missingSubtasks t.id])

def firstTask : Task := { (default : Task) with id := "AB0001", status := Task.plannedStatus }

def secondTask : Task := { (default : Task) with id := "AB0002", status := Task.plannedStatus }

def twoTasks : TaskList :=
  { tasks := [firstTask, secondTask], references := ∅, path := none, totalLines := 1
    lines := ["\x7b\x7bopen\x7d\x7d \x7b\x7bopen\x7d\x7d"] }

def statusThenBrittle : Pipeline := ⟨[⟨Check.status, []⟩, ⟨brittle, []⟩]⟩

theorem events_protocol_twoTasks : ∃ undefined v,
    BreaksAt .standard statusThenBrittle twoTasks [(firstTask, v)] secondTask
      (.raised "no verdict") ∧
    events .standard statusThenBrittle twoTasks =
      openingEvents twoTasks undefined ++ [.checked "AB0001" 1] ++
        [.interrupted .tasks (.raised "no verdict")] ∧
    verdict .standard statusThenBrittle twoTasks = .error (.raised "no verdict") := by
  obtain ⟨v, hv⟩ : ∃ v, statusThenBrittle.run firstTask ⟨.standard, twoTasks, []⟩ = .ok v :=
    ⟨_, rfl⟩
  obtain ⟨w, hw⟩ : ∃ w, Check.status.run secondTask ⟨.standard, twoTasks, []⟩ = .ok w := ⟨_, rfl⟩
  have hbreaks : BreaksAt .standard statusThenBrittle twoTasks [(firstTask, v)] secondTask
      (.raised "no verdict") := by
    refine ⟨⟨[], rfl, by simpa using hv⟩, [⟨Check.status, []⟩], ⟨brittle, []⟩, [], [w], rfl,
      congrArg ([·]) hw, ?_, rfl⟩
    obtain rfl := Except.ok.inj hw
    decide
  obtain ⟨undefined, -, -, -, -, hprotocol, -⟩ := events_protocol .standard statusThenBrittle twoTasks
  obtain ⟨hevents, hverdict⟩ := hprotocol _ _ _ hbreaks
  have hcount : v.issueCount = 1 := by
    obtain rfl := Except.ok.inj hv
    rfl
  rw [List.map_singleton, checkedEvent, hcount] at hevents
  exact ⟨undefined.length, v, hbreaks, hevents, hverdict⟩

end Audit

end TaskAudit
