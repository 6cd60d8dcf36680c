import Mathlib.Algebra.BigOperators.Ring.Finset
import TaskAudit.Progress
import TaskAudit.Proofs.Course

/-!
# Bars that follow audits

A display is told of one audit after another, some of which break off. Whatever it was told before,
its bars show how far the present audit has come: how many of the main tasks are checked, with the
issues found in these alone, and which phases are over.
-/

namespace TaskAudit

/-- The phase that a signal is about. -/
def Signal.phase : Signal → String
  | .started phase _ => phase
  | .checked _ _ => Phase.tasks.name
  | .finished phase _ => phase
  | .interrupted phase _ _ => phase

def Signal.isStart : Signal → Bool
  | .started _ _ => true
  | _ => false

namespace Progress

/-- A display that was told signals. -/
def after (told : List Signal) : Progress := told.foldl apply empty

/-- The current bar of a phase. -/
def bar? (p : Progress) (phase : String) : Option Bar := (p.current.find? phase).bind (p.bars[·]?)

/-- Phases have bars of their own. -/
structure IsSound (p : Progress) : Prop where
  inRange : ∀ phase i, p.current.find? phase = some i → i < p.bars.length
  distinct : ∀ phase phase' i, p.current.find? phase = some i → p.current.find? phase' = some i →
    phase = phase'

section Steps

variable {p : Progress} {s : Signal} {phase other reason text : String} {total : Option ℤ}
  {issues : ℤ} {f : Bar → Bar} {told : List Signal}

theorem after_concat (told : List Signal) (s : Signal) :
    after (told ++ [s]) = (after told).apply s := by
  simp [after]

/-! ### Changes of a bar -/

theorem change_of_none (h : p.current.find? phase = none) : p.change phase f = p := by
  rw [change, h]

theorem current_change : (p.change phase f).current = p.current := by
  rw [change]
  split <;> rfl

theorem tally_change : (p.change phase f).tally = p.tally := by
  rw [change]
  split <;> rfl

theorem length_bars_change : (p.change phase f).bars.length = p.bars.length := by
  rw [change]
  split
  · rfl
  · exact List.length_modify ..

theorem IsSound.bar?_change (h : p.IsSound) : (p.change phase f).bar? other =
    if other = phase then (p.bar? phase).map f else p.bar? other := by
  cases hphase : p.current.find? phase with
  | none =>
      rw [change_of_none hphase]
      split
      · next heq => simp [bar?, heq, hphase]
      · rfl
  | some i =>
      simp only [bar?, current_change, hphase, Option.bind_some]
      split
      · next heq => simp [heq, hphase, change, List.getElem?_modify]
      · next hne =>
        cases hother : p.current.find? other with
        | none => rfl
        | some j =>
            have hij : i ≠ j := fun hij => hne (h.distinct _ _ _ hother (hij ▸ hphase))
            simp [change, hphase, List.getElem?_modify, hij]

theorem IsSound.change (h : p.IsSound) : (p.change phase f).IsSound where
  inRange := by
    rw [current_change, length_bars_change]
    exact h.inRange
  distinct := by
    rw [current_change]
    exact h.distinct

theorem IsSound.withTally (h : p.IsSound) (tally : ℤ) : { p with tally }.IsSound :=
  ⟨h.inRange, h.distinct⟩

/-! ### Signals -/

theorem IsSound.start (h : p.IsSound) : (p.start phase total).IsSound where
  inRange other i hother := by
    rw [Progress.start, Catalog.find?_insert] at hother
    rw [Progress.start, List.length_append, List.length_singleton]
    split at hother
    · obtain rfl := Option.some.inj hother
      exact Nat.lt_succ_self _
    · exact Nat.lt_succ_of_lt (h.inRange other i hother)
  distinct other other' i hother hother' := by
    rw [Progress.start, Catalog.find?_insert] at hother hother'
    -- The new bar stands behind all others.
    split at hother <;> split at hother'
    · next heq heq' => exact heq.trans heq'.symm
    · exact absurd (h.inRange _ _ hother') (Option.some.inj hother ▸ Nat.lt_irrefl _)
    · exact absurd (h.inRange _ _ hother) (Option.some.inj hother' ▸ Nat.lt_irrefl _)
    · exact h.distinct _ _ _ hother hother'

theorem IsSound.bar?_start (h : p.IsSound) : (p.start phase total).bar? other =
    if other = phase then some { label := label phase, total, completed := 0, detail := "" }
    else p.bar? other := by
  rw [bar?, Progress.start, Catalog.find?_insert]
  split
  · simp
  · rw [bar?]
    cases hother : p.current.find? other with
    | none => rfl
    | some i => exact List.getElem?_append_left (h.inRange other i hother)

theorem exists_eq_started (hs : s.isStart = true) : ∃ total, s = .started s.phase total := by
  cases s with
  | started phase total => exact ⟨total, rfl⟩
  | _ => cases hs

/-- A signal that starts nothing changes at most the bar of its phase. -/
theorem exists_apply_eq_change (hs : s.isStart = false) :
    ∃ tally f, p.apply s = { p with tally }.change s.phase f := by
  cases s with
  | started phase total => cases hs
  | checked id issues =>
      cases hstarted : p.current.find? Phase.tasks.name with
      | some i => exact ⟨_, _, if_pos (by simp [Catalog.contains, hstarted])⟩
      | none =>
          have hnot : ¬p.current.contains Phase.tasks.name = true := by
            simp [Catalog.contains, hstarted]
          exact ⟨p.tally, fun bar => bar, (if_neg hnot).trans (change_of_none hstarted).symm⟩
  | finished phase issues => exact ⟨_, _, rfl⟩
  | interrupted phase reason text => exact ⟨_, _, rfl⟩

theorem current_apply (hs : s.isStart = false) : (p.apply s).current = p.current := by
  obtain ⟨tally, f, heq⟩ := exists_apply_eq_change hs (p := p)
  rw [heq, current_change]

/-- A signal about a phase that has no bar changes nothing, unless it starts the phase. -/
theorem apply_eq_self (hs : s.isStart = false) (hphase : p.current.find? s.phase = none) :
    p.apply s = p := by
  cases s with
  | started phase total => cases hs
  | checked id issues =>
      have hnone : p.current.find? Phase.tasks.name = none := hphase
      exact if_neg (by simp [Catalog.contains, hnone])
  | finished phase issues => exact change_of_none hphase
  | interrupted phase reason text => exact change_of_none hphase

theorem find?_current_after (h : ∀ total, Signal.started phase total ∉ told) :
    (after told).current.find? phase = none := by
  induction told using List.reverseRecOn with
  | nil => rfl
  | append_singleton told s ih =>
      simp only [List.mem_append, List.mem_singleton, not_or] at h
      have hnone := ih fun total => (h total).1
      rw [after_concat]
      cases hs : s.isStart with
      | false => rwa [current_apply hs]
      | true =>
          obtain ⟨total, heq⟩ := exists_eq_started hs
          have hne : phase ≠ s.phase := fun hphase => (h total).2 (hphase ▸ heq.symm)
          rw [heq]
          exact (Catalog.find?_insert ..).trans ((if_neg hne).trans hnone)

theorem IsSound.apply (h : p.IsSound) (s : Signal) : (p.apply s).IsSound := by
  cases hs : s.isStart with
  | false =>
      obtain ⟨tally, f, heq⟩ := exists_apply_eq_change hs (p := p)
      exact heq ▸ (h.withTally tally).change
  | true =>
      obtain ⟨total, heq⟩ := exists_eq_started hs
      exact heq ▸ h.start

theorem isSound_after (told : List Signal) : (after told).IsSound := by
  induction told using List.reverseRecOn with
  | nil => exact ⟨fun _ _ h => (nomatch h), fun _ _ _ h => (nomatch h)⟩
  | append_singleton told s ih =>
      rw [after_concat]
      exact ih.apply s

/-- Signals do not touch the bars of other phases. -/
theorem IsSound.bar?_apply_of_ne (h : p.IsSound) (hne : other ≠ s.phase) :
    (p.apply s).bar? other = p.bar? other := by
  cases hs : s.isStart with
  | false =>
      obtain ⟨tally, f, heq⟩ := exists_apply_eq_change hs (p := p)
      rw [heq, (h.withTally tally).bar?_change, if_neg hne]
      rfl
  | true =>
      obtain ⟨total, heq⟩ := exists_eq_started hs
      rw [heq]
      exact h.bar?_start.trans (if_neg hne)

end Steps

/-! ### What a bar shows -/

/-- A phase has a bar, with some total, of which some part is done. -/
def IsAt (p : Progress) (phase : Phase) (total : Option ℤ) (completed : ℤ) : Prop :=
  ∃ bar, p.bar? phase.name = some bar ∧ bar.total = total ∧ bar.completed = completed

/-- A phase has a full bar, which says that it is clean if it has no issues. -/
def IsDone (p : Progress) (phase : Phase) (total issues : ℤ) : Prop :=
  ∃ bar, p.bar? phase.name = some bar ∧ bar.total = some total ∧ bar.completed = total ∧
    (bar.detail = "[green]clean[/]" ↔ issues = 0)

section Bars

variable {p : Progress} {s : Signal} {phase : Phase} {other id reason text : String}
  {total : Option ℤ} {completed issues issues' size : ℤ}

theorem IsSound.isAt_start (h : p.IsSound) : (p.start phase.name total).IsAt phase total 0 :=
  ⟨_, h.bar?_start.trans (if_pos rfl), rfl, rfl⟩

/-- What was found in the references stays while the tasks are looked at. -/
theorem IsDone.apply_of_tasks (hdone : p.IsDone .references size issues) (h : p.IsSound)
    (hs : s.phase = Phase.tasks.name) : (p.apply s).IsDone .references size issues := by
  have hne : Phase.references.name ≠ s.phase := hs ▸ by decide
  rwa [IsDone, h.bar?_apply_of_ne hne]

/-- A phase that is interrupted keeps what is done of it, and so do all others. -/
theorem IsAt.interrupt (hat : p.IsAt phase total completed) (h : p.IsSound) :
    (p.interrupt other reason text).IsAt phase total completed := by
  obtain ⟨bar, hbar, htotal, hcompleted⟩ := hat
  rw [IsAt, Progress.interrupt, h.bar?_change]
  split
  · next heq =>
    rw [← heq, hbar]
    exact ⟨_, rfl, htotal, hcompleted⟩
  · exact ⟨bar, hbar, htotal, hcompleted⟩

theorem detail_eq_clean_iff :
    (if issues = 0 then "[green]clean[/]" else "[yellow]" ++ issueCount issues ++ "[/]") =
      "[green]clean[/]" ↔ issues = 0 := by
  split
  · next hzero => simp [hzero]
  · next hne =>
    refine iff_of_false (fun heq => ?_) hne
    have hchar := congrArg (fun detail : String => detail.toList[1]?) heq
    simp [String.toList_append] at hchar

theorem IsAt.finish (hat : p.IsAt phase total completed) (h : p.IsSound) :
    (p.finish phase.name issues).IsDone phase (total.getD 1) issues := by
  obtain ⟨⟨label, total, completed, detail⟩, hbar, rfl, -⟩ := hat
  rw [IsDone, Progress.finish, h.bar?_change, if_pos rfl, hbar]
  cases total <;> exact ⟨_, rfl, rfl, rfl, detail_eq_clean_iff⟩

/-- A task more is checked, with its issues in the tally. -/
theorem IsAt.taskChecked (hat : p.IsAt .tasks total completed) (h : p.IsSound) (id : String)
    (issues : ℤ) :
    (p.taskChecked id issues).IsAt .tasks total (completed + 1) ∧
      (p.taskChecked id issues).tally = p.tally + issues := by
  obtain ⟨bar, hbar, htotal, rfl⟩ := hat
  have hstarted : p.current.contains Phase.tasks.name = true := by
    obtain ⟨i, hi, -⟩ := Option.bind_eq_some_iff.1 hbar
    simp [Catalog.contains, hi]
  rw [Progress.taskChecked, if_pos hstarted]
  refine ⟨?_, tally_change⟩
  rw [IsAt, (h.withTally _).bar?_change, if_pos rfl]
  exact ⟨_, congrArg _ hbar, htotal, rfl⟩

end Bars

end Progress

namespace Audit

open Progress

/-! ### Bars in the course of an audit -/

/-- The phase that an audit is in. -/
def Stage.phase? : Stage → Option Phase
  | .references => some .references
  | .tasks _ _ | .checks _ _ _ _ _ => some .tasks
  | .opening | .between | .ended _ => none

/-- What a display is told by an audit that has come to a stage, or that is broken off there. -/
inductive Tells (policy : Policy) (p : Pipeline) (l : TaskList) : List Signal → Stage → Prop
  | reached {told stage} (reason : String) (h : Reaches policy p l told stage) :
      Tells policy p l (told.map (.ofEvent reason)) stage
  | broken {told stage phase} (reason : String) (h : Reaches policy p l told stage)
      (hphase : stage.phase? = some phase) (name text : String) :
      Tells policy p l (told.map (.ofEvent reason) ++ [.interrupted phase.name name text]) stage

/-- The numbers of issues of the tasks that were checked. -/
def counts (signals : List Signal) : List ℤ :=
  signals.filterMap fun
    | .checked _ issues => some issues
    | _ => none

/-- The bar of the tasks shows how many of them are checked, and the tally is of their issues. -/
structure ShowsChecked (l : TaskList) (signals : List Signal) (display : Progress) : Prop where
  bar : display.IsAt .tasks (some l.mainTasks.length) (counts signals).length
  tally : display.tally = (counts signals).sum

/-- What a display shows of an audit in a stage that has told it signals. -/
def Shows (l : TaskList) (signals : List Signal) (display : Progress) : Stage → Prop
  | .opening => True
  | .references => display.IsAt .references none 0
  | .between => display.IsDone .references 1 (Usage.checkList l none).issueCount
  | .tasks _ _ | .checks _ _ _ _ _ | .ended (.error _) =>
      display.IsDone .references 1 (Usage.checkList l none).issueCount ∧
        ShowsChecked l signals display
  | .ended (.ok _) => display.IsDone .references 1 (Usage.checkList l none).issueCount ∧
      display.IsDone .tasks l.mainTasks.length (counts signals).sum ∧
      display.tally = (counts signals).sum

variable {policy : Policy} {p : Pipeline} {l : TaskList} {told new : List Event}
  {signals : List Signal} {display : Progress} {stage later : Stage} {reason : String}

theorem counts_append (signals more : List Signal) :
    counts (signals ++ more) = counts signals ++ counts more := List.filterMap_append

theorem counts_concat_eq_self {s : Signal} (h : counts [s] = []) :
    counts (signals ++ [s]) = counts signals := by
  rw [counts_append, h, List.append_nil]

theorem counts_tasks (n : ℕ) (done : List (Task × Verdict)) (reason : String) :
    counts ((openingEvents l n ++ done.map checkedEvent).map (.ofEvent reason)) =
      done.map fun d => (d.2.issueCount : ℤ) := by
  have hopening : counts ((openingEvents l n).map (.ofEvent reason)) = [] := rfl
  rw [List.map_append, counts_append, hopening, List.nil_append, counts, List.map_map,
    List.filterMap_map]
  exact congrFun List.filterMap_eq_map done

theorem sum_issueCount (done : List (Task × Verdict)) :
    (done.map fun d => (d.2.issueCount : ℤ)).sum =
      (Verdict.combine (done.map Prod.snd)).issueCount := by
  rw [Verdict.issueCount_combine, List.map_map, Nat.cast_list_sum, List.map_map]
  rfl

theorem ShowsChecked.concat (h : ShowsChecked l signals display) (hsound : display.IsSound)
    (id : String) (issues : ℤ) :
    ShowsChecked l (signals ++ [.checked id issues]) (display.taskChecked id issues) := by
  obtain ⟨hbar, htally⟩ := h.bar.taskChecked hsound id issues
  have hcounts : counts (signals ++ [.checked id issues]) = counts signals ++ [issues] :=
    counts_append _ _
  constructor
  · rw [hcounts, List.length_append]
    exact hbar
  · rw [htally, h.tally, hcounts, List.sum_append, List.sum_singleton]

theorem ShowsChecked.interrupt (h : ShowsChecked l signals display) (hsound : display.IsSound)
    (phase name text : String) : ShowsChecked l (signals ++ [.interrupted phase name text])
      (display.interrupt phase name text) := by
  have hcounts : counts (signals ++ [.interrupted phase name text]) = counts signals :=
    counts_concat_eq_self rfl
  constructor
  · rw [hcounts]
    exact h.bar.interrupt hsound
  · rw [hcounts, ← h.tally]
    exact tally_change

/-- One move of an audit keeps the bars in step with it. -/
theorem Moves.shows (hmove : Moves policy p l stage new later)
    (hinvariant : Invariant policy p l told stage) (hsound : display.IsSound)
    (h : Shows l (told.map (.ofEvent reason)) display stage) :
    Shows l ((told ++ new).map (.ofEvent reason))
      ((new.map (.ofEvent reason)).foldl Progress.apply display) later := by
  cases hmove <;> simp only [List.append_nil, List.map_append, List.map_cons, List.map_nil,
    List.foldl_cons, List.foldl_nil]
  case openReferences => exact hsound.isAt_start
  case closeReferences => exact IsAt.finish h hsound
  case openTasks =>
    obtain rfl := hinvariant
    exact ⟨h.apply_of_tasks hsound rfl, hsound.isAt_start, rfl⟩
  case openTask => exact h
  case pass => exact h
  case fail =>
    obtain ⟨hdone, hcounts⟩ := h
    exact ⟨hdone.apply_of_tasks hsound rfl, hcounts.concat hsound _ _⟩
  case closeTask =>
    obtain ⟨hdone, hcounts⟩ := h
    exact ⟨hdone.apply_of_tasks hsound rfl, hcounts.concat hsound _ _⟩
  case raise =>
    obtain ⟨hdone, hcounts⟩ := h
    exact ⟨hdone.apply_of_tasks hsound rfl, hcounts.interrupt hsound _ _ _⟩
  case closeTasks done =>
    obtain ⟨hdone, hcounts⟩ := h
    obtain ⟨-, rfl⟩ := hinvariant
    rw [Shows, counts_concat_eq_self rfl]
    refine ⟨hdone.apply_of_tasks hsound rfl, ?_, tally_change.trans hcounts.tally⟩
    rw [counts_tasks, sum_issueCount]
    exact hcounts.bar.finish hsound

theorem Reaches.shows (h : Reaches policy p l told stage) (earlier : List Signal)
    (reason : String) : Shows l (told.map (.ofEvent reason))
      (after (earlier ++ told.map (.ofEvent reason))) stage := by
  induction h with
  | start => trivial
  | next h hmove ih =>
      have hshows := hmove.shows h.invariant (isSound_after _) ih
      rwa [after, ← List.foldl_append, List.append_assoc, ← List.map_append] at hshows

/-- An audit that is broken off leaves the bars where they are. -/
theorem Shows.interrupt (h : Shows l signals display stage) (hsound : display.IsSound)
    {phase : Phase} (hphase : stage.phase? = some phase) (name text : String) :
    Shows l (signals ++ [.interrupted phase.name name text])
      (display.apply (.interrupted phase.name name text)) stage := by
  cases stage with
  | references =>
      obtain rfl := Option.some.inj hphase
      exact IsAt.interrupt h hsound
  | tasks done rest =>
      obtain rfl := Option.some.inj hphase
      exact ⟨h.1.apply_of_tasks hsound rfl, h.2.interrupt hsound _ _ _⟩
  | checks done t rest passed steps =>
      obtain rfl := Option.some.inj hphase
      exact ⟨h.1.apply_of_tasks hsound rfl, h.2.interrupt hsound _ _ _⟩
  | _ => cases hphase

theorem Tells.shows (h : Tells policy p l signals stage) (earlier : List Signal) :
    Shows l signals (after (earlier ++ signals)) stage := by
  cases h with
  | reached reason h => exact h.shows earlier reason
  | broken reason h hphase name text =>
      rw [← List.append_assoc, after_concat]
      exact (h.shows earlier reason).interrupt (isSound_after _) hphase name text

/-- **Bars follow audits.** Whatever a display was told before, at each stage of an audit it shows
the audit's own phases: a bar for the references that is full and says that they are clean just if
no name is undefined, a bar for the tasks with the number of main tasks and of those that are
checked, and a tally of the issues in these. A finished bar is full and says that it is clean just
if there are no issues; one that is interrupted, be it by a check or from outside, stays as far as
it came. What is told of one phase leaves the bars of all others as they are, and it changes nothing
at all if the phase was never started. -/
theorem bars_follow_audits :
    (∀ (earlier : List Signal) (policy : Policy) (p : Pipeline) (l : TaskList)
      (signals : List Signal) (stage : Stage), Tells policy p l signals stage →
      Shows l signals (after (earlier ++ signals)) stage) ∧
    ∀ (told : List Signal) (s : Signal),
      (∀ phase, phase ≠ s.phase → ((after told).apply s).bar? phase = (after told).bar? phase) ∧
      ((∀ total, .started s.phase total ∉ s :: told) → (after told).apply s = after told) := by
  refine ⟨fun earlier _ _ _ _ _ h => h.shows earlier, fun told s =>
    ⟨fun _ => (isSound_after told).bar?_apply_of_ne, fun hnever => ?_⟩⟩
  simp only [List.mem_cons, not_or] at hnever
  refine apply_eq_self ?_ (find?_current_after fun total => (hnever total).2)
  cases hs : s.isStart with
  | false => rfl
  | true =>
      obtain ⟨total, heq⟩ := exists_eq_started hs
      exact absurd heq.symm (hnever total).1

/-- An audit that breaks off on its second task is told twice. -/
theorem bars_follow_audits_twoTasks : ∃ signals,
    Tells .standard statusThenBrittle twoTasks signals
      (.ended (verdict .standard statusThenBrittle twoTasks)) ∧
    (after (signals ++ signals)).IsDone .references 1 1 ∧
    (after (signals ++ signals)).IsAt .tasks (some 2) 1 ∧ (after (signals ++ signals)).tally = 1 ∧
    (∀ total, Signal.started "Tasks" total ∉ [.checked "AB0001" 4, .started "References" none]) ∧
    (after [.started "References" none]).apply (.checked "AB0001" 4) =
      after [.started "References" none] := by
  obtain ⟨hfollow, hother⟩ := bars_follow_audits
  obtain ⟨signals, hsignals⟩ : ∃ signals, signals =
      (events .standard statusThenBrittle twoTasks).map (Signal.ofEvent "RuntimeError") := ⟨_, rfl⟩
  have htells : Tells .standard statusThenBrittle twoTasks signals
      (.ended (verdict .standard statusThenBrittle twoTasks)) :=
    hsignals ▸ .reached _ (reaches_ended_iff.2 ⟨rfl, rfl⟩)
  have hcounts : counts signals = [1] := by
    rw [hsignals]
    rfl
  have hundefined : (Usage.checkList twoTasks none).issueCount = 1 := by decide +kernel
  obtain ⟨hdone, hbar, htally⟩ := hfollow signals _ _ _ _ _ htells
  rw [hcounts] at hbar htally
  rw [hundefined] at hdone
  exact ⟨signals, htells, hdone, hbar, htally, by simp,
    (hother _ _).2 (by simp [Signal.phase, Phase.name])⟩

end Audit

end TaskAudit
