import Mathlib.Data.List.Forall2
import TaskAudit.Proofs.Audit
import TaskAudit.Proofs.Provenance
import TaskAudit.Proofs.Quiet

/-!
# What an audit can fail to judge

An audit fails only where one of its checks fails on one of the main tasks. Of the checks that have
a name only that of code quality can fail, and under the standard policy every bound it looks at is
a number. What remains is a complexity stated in letters that are matched without regard to case and
stay different when they are lowered.
-/

namespace TaskAudit

open Text

/-! ### Checks that can fail -/

/-- Of the named checks only that of code quality can fail. -/
theorem Check.eq_kpi_of_run_eq_error {c : Check} (hc : c ∈ named.map Prod.snd) {t : Task}
    {scope : Scope} {fault : Fault} (h : c.run t scope = .error fault) : c = kpi := by
  simp only [named, List.map_cons, List.map_nil, List.mem_cons, List.not_mem_nil, or_false] at hc
  rcases hc with rfl | rfl | rfl | rfl | rfl | rfl | rfl | rfl
  · exact absurd h (ok_ne_error _)
  · exact absurd h (ok_ne_error _)
  · exact absurd h (ok_ne_error _)
  · exact absurd h (ok_ne_error _)
  · exact absurd h (ok_ne_error _)
  · exact absurd h (ok_ne_error _)
  · exact absurd h (ok_ne_error _)
  · rfl

/-! ### Words in any case -/

namespace Check.Kpi

/-- The letters that count as an `s` or an `i` without regard to case and do not become one when
they are lowered. -/
def strayLetters : List Char := ['ſ', 'ı', 'İ']

theorem exists_of_dropWord? {word cs rest : List Char} (h : dropWord? word cs = some rest) :
    ∃ w, cs = w ++ rest ∧ List.Forall₂ (fun letter c => isLetter letter c = true) word w := by
  induction word generalizing cs with
  | nil => exact ⟨[], by simpa [dropWord?] using h, List.Forall₂.nil⟩
  | cons letter word ih =>
      cases cs with
      | nil => simp [dropWord?] at h
      | cons c cs =>
          rw [dropWord?, Option.ite_none_right_eq_some] at h
          obtain ⟨hc, h⟩ := h
          obtain ⟨w, rfl, hw⟩ := ih h
          exact ⟨c :: w, rfl, List.Forall₂.cons hc hw⟩

-- The Kelvin sign counts as a `k`; none of the words has that letter.
theorem asciiLower_of_isLetter {letter c : Char} (h : isLetter letter c = true)
    (hk : letter ≠ 'k') (hc : c ∉ strayLetters) : asciiLower c = letter := by
  simp only [strayLetters, List.mem_cons, List.not_mem_nil, or_false, not_or] at hc
  simpa [isLetter, hk, hc] using h

theorem isPlain_of_asciiLower {c : Char} (h : isPlain (asciiLower c) = true) :
    isPlain c = true := by
  rw [asciiLower] at h
  split at h
  · next hcapital =>
    rw [Bool.and_eq_true, decide_eq_true_eq, decide_eq_true_eq] at hcapital
    exact isPlain_iff.2 (Or.inl hcapital)
  · exact h

/-- A word without stray letters is what it matches, once it is lowered. -/
theorem lower_eq_of_isLetter {word w : List Char}
    (hword : ∀ letter ∈ word, isPlain letter = true ∧ letter ≠ 'k')
    (hw : List.Forall₂ (fun letter c => isLetter letter c = true) word w)
    (hstray : ∀ c ∈ w, c ∉ strayLetters) : lower w = word := by
  have hlower : w.map asciiLower = word := by
    induction hw with
    | nil => rfl
    | cons hc _ ih =>
        obtain ⟨hletter, hword⟩ := List.forall_mem_cons.1 hword
        obtain ⟨hne, hstray⟩ := List.forall_mem_cons.1 hstray
        rw [List.map_cons, asciiLower_of_isLetter hc hletter.2 hne, ih hword hstray]
  -- The lower case of a text is taken letter by letter only where all of them are plain.
  have hplain : ∀ c ∈ w, isPlain c = true := by
    intro c hc
    apply isPlain_of_asciiLower
    exact (hword _ (hlower ▸ List.mem_map_of_mem hc)).1
  rw [lower_of_isPlain hplain, hlower]

/-! ### The complexity of a task -/

theorem exists_of_firstWord? {words : List String} {cs w : List Char}
    (h : firstWord? words cs = some w) : ∃ word ∈ words,
      List.Forall₂ (fun letter c => isLetter letter c = true) word.toList w := by
  obtain ⟨word, hword, hfound⟩ := List.exists_of_findSome?_eq_some h
  obtain ⟨rest, hdrop, rfl⟩ := Option.map_eq_some_iff.1 hfound
  obtain ⟨w, rfl, hw⟩ := exists_of_dropWord? hdrop
  refine ⟨word, hword, ?_⟩
  rwa [List.length_append, Nat.add_sub_cancel, List.take_left]

theorem exists_complexity_of_statedWord? {cs w : List Char} (h : statedWord? cs = some w) :
    ∃ c : Complexity,
      List.Forall₂ (fun letter d => isLetter letter d = true) c.name.toList w := by
  induction cs with
  | nil => simp [statedWord?] at h
  | cons first rest ih =>
      rw [statedWord?] at h
      cases hhere : statedHere? (first :: rest) with
      | none =>
          rw [hhere] at h
          exact ih h
      | some found =>
          obtain rfl : found = w := by simpa [hhere] using h
          simp only [statedHere?, Option.bind_eq_bind, Option.bind_eq_some_iff] at hhere
          obtain ⟨_, _, _, _, _, _, hwords⟩ := hhere
          obtain ⟨word, hword, hw⟩ := exists_of_firstWord? hwords
          obtain ⟨c, -, rfl⟩ : ∃ c ∈ Complexity.all, c.name = word := List.mem_map.1 hword
          exact ⟨c, hw⟩

theorem isPlain_name (c : Complexity) :
    ∀ letter ∈ c.name.toList, isPlain letter = true ∧ letter ≠ 'k' := by
  have hall : (c.name.toList.all fun letter => isPlain letter && letter ≠ 'k') = true := by
    cases c <;> decide
  simpa using hall

theorem ofName?_name (c : Complexity) : Complexity.ofName? c.name = some c := by
  cases c <;> decide

/-- A line of a task states a complexity in stray letters, by a word that is none of the four. -/
def StatesStray (t : Task) (name : String) : Prop :=
  ∃ line ∈ t.ownLines, ∃ w, statedWord? line.toList = some w ∧ lowered (String.ofList w) = name ∧
    ∃ c ∈ w, c ∈ strayLetters

theorem statesStray_of_complexity_eq_error {policy : Policy} {t : Task} {fault : Fault}
    (h : complexity policy t = .error fault) :
    ∃ name, fault = .unknownComplexity name ∧ StatesStray t name := by
  rw [complexity] at h
  cases hstated : t.ownLines.findSome? fun line => statedWord? line.toList with
  | none =>
      rw [hstated] at h
      cases hcategory : t.category with
      | none => simp [hcategory] at h
      | some category => simp [hcategory] at h
  | some w =>
      simp only [hstated] at h
      obtain ⟨line, hline, hw⟩ := List.exists_of_findSome?_eq_some hstated
      cases hname : Complexity.ofName? (lowered (String.ofList w)) with
      | some c => simp [hname] at h
      | none =>
          rw [hname] at h
          refine ⟨_, (Except.error.inj h).symm, line, hline, w, hw, rfl, ?_⟩
          by_contra hstray
          push Not at hstray
          obtain ⟨c, hc⟩ := exists_complexity_of_statedWord? hw
          have hlower := lower_eq_of_isLetter (isPlain_name c) hc hstray
          rw [lowered, String.toList_ofList, hlower, String.ofList_toList, ofName?_name] at hname
          simp at hname

/-! ### Bounds -/

/-- Every bound that a check looks at is a number, for a task of any complexity. -/
def HasBounds (scope : Scope) : Prop :=
  ∀ m c, ∃ base limit, baseLimit scope m = .ok base ∧ scaledLimit base c = .ok limit

section Bounds

variable {scope : Scope} {t : Task} {c : Complexity} {fault : Fault}

theorem valueIssues_ne_error (h : HasBounds scope) (m : Metric) (x : Binary64) :
    valueIssues scope t c m x ≠ .error fault := by
  obtain ⟨base, limit, hbase, hlimit⟩ := h m c
  rw [valueIssues, hbase]
  cases m.isLeast with
  | true => simp [bind, Except.bind, pure, Except.pure]
  | false =>
      cases m.isScaled with
      | true => simp [bind, Except.bind, pure, Except.pure, hlimit, Except.map]
      | false => simp [bind, Except.bind, pure, Except.pure]

theorem allValueIssues_ne_error (h : HasBounds scope) (values : Values) (metrics : List Metric) :
    allValueIssues scope t c values metrics ≠ .error fault := by
  induction metrics with
  | nil => simp [allValueIssues]
  | cons m more ih =>
      have hmore : ∀ issues : List Issue,
          (do return issues ++ (← allValueIssues scope t c values more)) ≠ .error fault := by
        intro issues herror
        rcases bind_eq_error_iff.1 herror with hrest | ⟨_, -, herror⟩
        · exact ih hrest
        · simp [pure, Except.pure] at herror
      rw [allValueIssues]
      cases values.get? m with
      | none => exact hmore []
      | some x =>
          intro herror
          rcases bind_eq_error_iff.1 herror with hvalue | ⟨issues, -, herror⟩
          · exact valueIssues_ne_error h m x hvalue
          · exact hmore issues herror

/-- Where all bounds are numbers, the check fails only on a complexity in stray letters. -/
theorem statesStray_of_run_eq_error (h : HasBounds scope) (hrun : kpi.run t scope = .error fault) :
    ∃ name, fault = .unknownComplexity name ∧ StatesStray t name := by
  have hissues : issues t scope = .error fault := map_eq_error_iff.1 hrun
  rw [issues] at hissues
  cases hlines : lines? scope.references t with
  | none => simp [hlines] at hissues
  | some lines =>
      simp only [hlines] at hissues
      split at hissues
      · simp at hissues
      · split at hissues
        · simp at hissues
        · rcases bind_eq_error_iff.1 hissues with hcomplexity | ⟨c, -, hvalues⟩
          · exact statesStray_of_complexity_eq_error hcomplexity
          · exact absurd hvalues (allValueIssues_ne_error h _ _)

end Bounds

end Check.Kpi

/-! ### Built-in checks -/

/-- The settings that checks have without settings of the caller's own. -/
def Preset.settings : List Settings := [] :: Preset.strictSettings.map (·.2.merge [])

theorem Check.Kpi.hasBounds_standard {settings : Settings} (h : settings ∈ Preset.settings)
    (l : TaskList) : HasBounds ⟨.standard, l, settings⟩ := by
  have hbase : ∀ settings ∈ Preset.settings, ∀ m ∈ Metric.all,
      ∃ n ∈ [0, 3, 4, 5, 8, 10, 15],
        (baseLimit ⟨.standard, default, settings⟩ m).toOption = some (.ofInt n) := by
    decide +kernel
  have hlimit : ∀ n ∈ [0, 3, 4, 5, 8, 10, 15], ∀ c ∈ Complexity.all,
      (scaledLimit (.ofInt n) c).toOption.isSome = true := by
    decide +kernel
  intro m c
  have hm : m ∈ Metric.all := by cases m <;> decide
  have hc : c ∈ Complexity.all := by cases c <;> decide
  obtain ⟨n, hn, hbase⟩ := hbase settings h m hm
  obtain ⟨limit, hlimit⟩ := Option.isSome_iff_exists.1 (hlimit n hn c hc)
  exact ⟨.ofInt n, limit, eq_ok_of_toOption hbase, eq_ok_of_toOption hlimit⟩

/-- A preset, or checks by their names without settings. -/
inductive Pipeline.IsBuiltIn : Pipeline → Prop where
  | preset {name : String} {p : Pipeline} : Preset.ofName name = .ok p → IsBuiltIn p
  | named {steps : List Step} : (∀ s ∈ steps, ∃ name, Step.ofName name [] = .ok s) →
      IsBuiltIn (.ofSteps steps)

/-- A check that has a name, with no settings or those of the strict preset. -/
structure Step.IsBuiltIn (s : Step) : Prop where
  check : s.check ∈ Check.named.map Prod.snd
  settings : s.settings ∈ Preset.settings

theorem Preset.isBuiltIn_of_mem {entry : String × List Step} (h : entry ∈ all) :
    ∀ s ∈ entry.2, s.IsBuiltIn := by
  simp only [all, List.mem_cons, List.not_mem_nil, or_false] at h
  rcases h with rfl | rfl | rfl
  case inl =>
    intro s hs
    obtain ⟨entry, hentry, rfl⟩ := List.mem_map.1 hs
    exact ⟨List.mem_map_of_mem hentry, List.mem_cons_self⟩
  case inr.inl =>
    intro s hs
    simp only [minimal, List.mem_cons, List.not_mem_nil, or_false] at hs
    rcases hs with rfl | rfl
    · exact ⟨by simp [Check.named], List.mem_cons_self⟩
    · exact ⟨by simp [Check.named], List.mem_cons_self⟩
  case inr.inr =>
    intro s hs
    obtain ⟨entry, hentry, hfound⟩ := List.mem_filterMap.1 hs
    obtain ⟨check, hcheck, rfl⟩ := Option.map_eq_some_iff.1 hfound
    refine ⟨List.mem_map.2 ⟨_, Catalog.mem_of_get?_eq_some hcheck, rfl⟩, ?_⟩
    exact List.mem_cons_of_mem _ (List.mem_map.2 ⟨entry, hentry, rfl⟩)

theorem Pipeline.IsBuiltIn.isBuiltIn_steps {p : Pipeline} (h : p.IsBuiltIn) :
    ∀ s ∈ p.steps, s.IsBuiltIn := by
  have hsteps : ∀ steps : List Step, (∀ s ∈ steps, s.IsBuiltIn) →
      ∀ s ∈ (ofSteps steps).steps, s.IsBuiltIn := by
    exact fun steps hall s hs => hall s (mem_ofSteps.1 hs)
  cases h with
  | @preset name _ hname =>
      rw [Preset.ofName] at hname
      cases hfound : Catalog.get? name Preset.all with
      | none => simp [hfound] at hname
      | some steps =>
          rw [hfound] at hname
          rw [← Except.ok.inj hname]
          exact hsteps steps (Preset.isBuiltIn_of_mem (Catalog.mem_of_get?_eq_some hfound))
  | named hnamed =>
      apply hsteps
      intro s hs
      obtain ⟨name, hname⟩ := hnamed s hs
      cases hcheck : Catalog.get? name Check.named with
      | none => simp [Step.ofName, Check.ofName, hcheck, Except.map] at hname
      | some check =>
          obtain rfl : ⟨check, []⟩ = s := by
            simpa [Step.ofName, Check.ofName, hcheck, Except.map] using hname
          exact ⟨List.mem_map.2 ⟨_, Catalog.mem_of_get?_eq_some hcheck, rfl⟩, List.mem_cons_self⟩

/-! ### Documents -/

namespace Audit

/-- **What an audit can fail to judge.** A built-in pipeline comes to a verdict on every document
with a task, unless a main task states its complexity in stray letters. -/
theorem verdict_or_statesStray {p : Pipeline} (hp : p.IsBuiltIn) (text : String)
    (path : Option String) :
    read .standard text path = .error .noTasks ∨
    ∃ l, read .standard text path = .ok l ∧
      ((∃ v, verdict .standard p l = .ok v) ∨
        ∃ t ∈ l.mainTasks, ∃ name, Check.Kpi.StatesStray t name ∧
          verdict .standard p l = .error (.unknownComplexity name)) := by
  cases hread : TaskList.ofText? .standard text path with
  | none => exact Or.inl (by rw [read, hread])
  | some l =>
      refine Or.inr ⟨l, by rw [read, hread], ?_⟩
      cases hverdict : verdict .standard p l with
      | ok v => exact Or.inl ⟨v, rfl⟩
      | error fault =>
          obtain ⟨t, ht, s, hs, hrun⟩ := exists_step_of_verdict_eq_error hverdict
          obtain ⟨hnamed, hsettings⟩ := hp.isBuiltIn_steps s hs
          have hkpi : s.check = Check.kpi := Check.eq_kpi_of_run_eq_error hnamed hrun
          rw [Step.run, hkpi] at hrun
          obtain ⟨name, rfl, hstray⟩ := Check.Kpi.statesStray_of_run_eq_error
            (Check.Kpi.hasBounds_standard hsettings l) hrun
          exact Or.inr ⟨t, ht, name, hstray, rfl⟩

theorem verdict_or_statesStray_default : ∃ p, Preset.ofName "default" = .ok p ∧
    (read .standard "### SSH0001: Plan\n" none = .error .noTasks ∨
    ∃ l, read .standard "### SSH0001: Plan\n" none = .ok l ∧
      ((∃ v, verdict .standard p l = .ok v) ∨
        ∃ t ∈ l.mainTasks, ∃ name, Check.Kpi.StatesStray t name ∧
          verdict .standard p l = .error (.unknownComplexity name))) := by
  have hname : Preset.ofName "default" = .ok (.ofSteps Preset.default) := rfl
  exact ⟨_, hname, verdict_or_statesStray (.preset hname) _ none⟩

/-- The lines of a document with a complexity of which the first letter is a long `ſ`. -/
def strayComplexity : List String :=
  ["### SSH0001: Measure", "**Complexity Assessment**: ſimple", "**Code Quality KPIs**",
    "- Functions per module: 3", "- Lines per function: 5", "- Call depth: 1"]

theorem verdict_strayComplexity : Pipeline.IsBuiltIn (.ofSteps [⟨Check.kpi, []⟩]) ∧
    ∃ l, read .standard ("\n".intercalate (strayComplexity ++ [""])) none = .ok l ∧
      verdict .standard (.ofSteps [⟨Check.kpi, []⟩]) l =
        .error (.unknownComplexity "ſimple") := by
  have hsteps : ∀ s ∈ [(⟨Check.kpi, []⟩ : Step)], ∃ name, Step.ofName name [] = .ok s := by
    intro s hs
    obtain rfl := List.mem_singleton.1 hs
    exact ⟨"kpi", rfl⟩
  have hbreaks : ∀ line ∈ strayComplexity, IsUnbroken line := by decide +kernel
  have hsome : Document.tasks .standard strayComplexity ≠ [] := by
    rw [ne_eq, ← List.isEmpty_iff]
    decide +kernel
  have hread := Document.ofText?_intercalate none hbreaks hsome
  have hfault : fault? (verdict .standard ⟨[⟨Check.kpi, []⟩]⟩
      (Document.listOfLines .standard strayComplexity none)) =
        some (.unknownComplexity "ſimple") := by
    decide +kernel
  refine ⟨.named hsteps, _, by rw [read, hread], ?_⟩
  rw [Pipeline.ofSteps, List.mergeSort_singleton]
  exact eq_error_of_fault? hfault

end Audit

end TaskAudit
