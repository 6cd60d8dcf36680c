import TaskAudit.Proofs.Consistency
import TaskAudit.Proofs.Kinds

/-!
# Ids and codes over a whole list

The check of ids looks at one main task and its subtasks and compares them with all entries of the
list. Over the main tasks of a list of distinct entries its reports add up: every id has one error
for each of its entries but the first, and every code but the first has one warning, at the first
entry with that code.
-/

namespace TaskAudit

/-! ### Lists of distinct entries -/

/-- The tasks of a list are main tasks, every entry has a place in it, and no two have the same. -/
structure TaskList.IsDistinct (l : TaskList) : Prop where
  main : ∀ t ∈ l.tasks, t.isMain = true
  entry : ∀ t ∈ l.allTasks, t.isSame t = true
  distinct : l.allTasks.Pairwise fun t u => t.isSame u = false

theorem TaskList.IsDistinct.mainTasks_eq {l : TaskList} (h : l.IsDistinct) :
    l.mainTasks = l.tasks :=
  List.filter_eq_self.2 h.main

namespace Check.Identity

/-! ### The issues of a kind -/

section Kinds

variable {t : Task} {scope : Scope} {kind : IssueKind} {issues : List Issue}

theorem filter_kind_eq_nil (h : ∀ i ∈ issues, i.kind ≠ kind) :
    issues.filter (·.kind = kind) = [] :=
  List.filter_eq_nil_iff.2 fun i hi => by simpa using h i hi

theorem filter_kind_eq_self (h : ∀ i ∈ issues, i.kind = kind) :
    issues.filter (·.kind = kind) = issues :=
  List.filter_eq_self.2 fun i hi => by simpa using h i hi

/-- Of a kind that has nothing to do with forms or meanings only the issues about repetitions and
about codes are left. -/
theorem filter_kind_issues (hmain : t.isMain = true) (hformat : kind ≠ .invalidIdFormat)
    (hparent : kind ≠ .invalidSubtaskId) (hmismatch : kind ≠ .codeMismatch)
    (hunrecognized : kind ≠ .unrecognizedCode) :
    (Identity.issues t scope).filter (·.kind = kind) = (t :: t.subtasks).flatMap fun u =>
      (duplicateIssues scope.list.allTasks u).filter (·.kind = kind) ++
        (codeIssues scope.list.allTasks u).filter (·.kind = kind) := by
  have hformats : ∀ u, (formatIssues scope scope.list.allTasks u).filter (·.kind = kind) = [] :=
    fun u => filter_kind_eq_nil fun i hi =>
      (kind_of_mem_formatIssues hi).elim (fun h => h ▸ hformat.symm) fun h => h ▸ hparent.symm
  have hmeanings : (if t.isMain && scope.policy.checkCodes then meaningIssues scope.policy t
      else []).filter (·.kind = kind) = [] := by
    refine filter_kind_eq_nil fun i hi => ?_
    split at hi
    · exact (kind_of_mem_meaningIssues hi).elim (fun h => h ▸ hmismatch.symm)
        fun h => h ▸ hunrecognized.symm
    · exact absurd hi List.not_mem_nil
  rw [Identity.issues, List.filter_append, hmeanings, List.append_nil, List.filter_flatMap,
    if_pos hmain]
  simp only [List.filter_append, hformats, List.nil_append]

theorem filter_duplicates_issues (hmain : t.isMain = true) :
    (Identity.issues t scope).filter (·.kind = .duplicateTaskId) =
      (t :: t.subtasks).flatMap (duplicateIssues scope.list.allTasks) := by
  rw [filter_kind_issues hmain IssueKind.noConfusion IssueKind.noConfusion IssueKind.noConfusion
    IssueKind.noConfusion]
  refine List.flatMap_congr fun u _ => ?_
  rw [filter_kind_eq_self fun i hi => (of_mem_duplicateIssues hi).1,
    filter_kind_eq_nil fun i hi => by simp [kind_of_mem_codeIssues hi], List.append_nil]

theorem filter_mixed_issues (hmain : t.isMain = true) :
    (Identity.issues t scope).filter (·.kind = .mixedCodes) =
      (t :: t.subtasks).flatMap (codeIssues scope.list.allTasks) := by
  rw [filter_kind_issues hmain IssueKind.noConfusion IssueKind.noConfusion IssueKind.noConfusion
    IssueKind.noConfusion]
  refine List.flatMap_congr fun u _ => ?_
  rw [filter_kind_eq_nil fun i hi => by simp [(of_mem_duplicateIssues hi).1],
    filter_kind_eq_self fun i hi => kind_of_mem_codeIssues hi, List.nil_append]

end Kinds

/-! ### Repetitions -/

section Duplicates

variable {everything : List Task}

/-- Of the entries with an id the first has no issue, and the others have one with their number. -/
theorem duplicateIssues_eq {t first : Task} {rest : List Task} (hid : t.id ≠ Task.unreadableId)
    (hsame : everything.filter (·.id = t.id) = first :: rest) (ht : t ∈ first :: rest)
    (hentry : t.isSame t = true) : duplicateIssues everything t =
      if first.isSame t then []
      else [.duplicateTaskId t.id (first :: rest).length (some t.line)] := by
  have hreadable : t.hasReadableId = true := bne_iff_ne.2 hid
  have hlisted : (first :: rest).any (·.isSame t) = true := List.any_eq_true.2 ⟨t, ht, hentry⟩
  rw [duplicateIssues, hreadable]
  simp only [hsame, hlisted, Bool.not_true, Bool.false_eq_true, if_false, if_true]

theorem flatMap_eq_flatMap_filter {α β : Type} {xs : List α} {p : α → Bool} {f : α → List β}
    (h : ∀ x ∈ xs, p x = false → f x = []) : xs.flatMap f = (xs.filter p).flatMap f := by
  induction xs with
  | nil => rfl
  | cons x xs ih =>
      rw [List.flatMap_cons, ih fun y hy => h y (List.mem_cons_of_mem _ hy)]
      cases hp : p x with
      | true => rw [List.filter_cons_of_pos hp, List.flatMap_cons]
      | false =>
          rw [h x List.mem_cons_self hp, List.filter_cons_of_neg (Bool.not_eq_true _ ▸ hp),
            List.nil_append]

/-- The issues about repetitions of one id are those of its entries but the first. -/
theorem filter_flatMap_duplicateIssues {id : String} (hid : id ≠ Task.unreadableId)
    (hentry : ∀ t ∈ everything, t.isSame t = true)
    (hdistinct : everything.Pairwise fun t u => t.isSame u = false) :
    (everything.flatMap (duplicateIssues everything)).filter (·.taskId = some id) =
      (everything.filter (·.id = id)).tail.map fun t =>
        .duplicateTaskId id (everything.filter (·.id = id)).length (some t.line) := by
  have hother : ∀ t ∈ everything, decide (t.id = id) = false →
      (duplicateIssues everything t).filter (·.taskId = some id) = [] := by
    intro t _ ht
    refine List.filter_eq_nil_iff.2 fun i hi => ?_
    simpa [(of_mem_duplicateIssues hi).2.1] using ht
  rw [List.filter_flatMap, flatMap_eq_flatMap_filter hother]
  cases hsame : everything.filter (·.id = id) with
  | nil => rfl
  | cons first rest =>
      have hmem : ∀ t ∈ first :: rest, t ∈ everything ∧ t.id = id := by
        intro t ht
        rw [← hsame, List.mem_filter, decide_eq_true_eq] at ht
        exact ht
      have hissues : ∀ t ∈ first :: rest,
          (duplicateIssues everything t).filter (·.taskId = some id) =
            if first.isSame t then []
            else [.duplicateTaskId id (first :: rest).length (some t.line)] := by
        intro t ht
        obtain ⟨hlisted, rfl⟩ := hmem t ht
        rw [List.filter_eq_self.2 fun i hi => decide_eq_true (of_mem_duplicateIssues hi).2.1]
        exact duplicateIssues_eq hid hsame ht (hentry t hlisted)
      have hfirst : first.isSame first = true := hentry first (hmem first (.head _)).1
      have hrest : ∀ t ∈ rest, first.isSame t = false :=
        (List.pairwise_cons.1 (hsame ▸ hdistinct.sublist List.filter_sublist)).1
      rw [List.flatMap_congr hissues, List.flatMap_cons, if_pos hfirst, List.nil_append,
        List.tail_cons, List.map_eq_flatMap]
      refine List.flatMap_congr fun t ht => ?_
      rw [hrest t ht, if_neg Bool.false_ne_true]

end Duplicates

/-! ### Codes -/

section Codes

variable {before after everything : List Task} {t : Task} {code : String}

theorem mem_codes : code ∈ codes everything ↔
    code ≠ "" ∧ ∃ t ∈ everything, t.code = some code := by
  rw [codes, Document.mem_firstSeen, List.mem_filter, List.mem_filterMap, and_comm]
  simp

theorem exists_find?_code (ht : t ∈ everything) (hcode : t.code = some code) :
    ∃ first ∈ everything, everything.find? (·.code = some code) = some first := by
  have hsome : (everything.find? (·.code = some code)).isSome = true :=
    List.find?_isSome.2 ⟨t, ht, decide_eq_true hcode⟩
  obtain ⟨first, hfirst⟩ := Option.isSome_iff_exists.1 hsome
  exact ⟨first, List.mem_of_find?_eq_some hfirst, hfirst⟩

theorem code_ne_of_not_mem_codes (hne : code ≠ "") (hnot : code ∉ codes before) :
    ∀ u ∈ before, u.code ≠ some code :=
  fun u hu hcode => hnot (mem_codes.2 ⟨hne, u, hu, hcode⟩)

/-- The code of a task that comes after others, if none of those has it. -/
def newCode? (before : List Task) (t : Task) : Option String :=
  t.code.filter fun code => code ≠ "" ∧ code ∉ codes before

theorem newCode?_eq_some_iff : newCode? before t = some code ↔
    t.code = some code ∧ code ≠ "" ∧ code ∉ codes before := by
  rw [newCode?, Option.filter_eq_some_iff, decide_eq_true_iff]

theorem codes_concat (before : List Task) (t : Task) :
    codes (before ++ [t]) = codes before ++ (newCode? before t).toList := by
  cases hcode : t.code with
  | none => simp [newCode?, hcode, codes]
  | some code =>
      by_cases hempty : code = ""
      · simp [newCode?, hcode, hempty, codes]
      have hlast : ([t].filterMap (·.code)).filter (!·.isEmpty) = [code] := by
        simp [hcode, hempty]
      rw [codes, List.filterMap_append, List.filter_append, hlast, Document.firstSeen_concat]
      by_cases hseen : code ∈ codes before
      · have hnew : newCode? before t = none := by simp [newCode?, hcode, hseen]
        rw [if_pos (Document.mem_firstSeen.1 hseen), hnew]
        exact (List.append_nil _).symm
      · rw [if_neg (mt Document.mem_firstSeen.2 hseen),
          newCode?_eq_some_iff.2 ⟨hcode, hempty, hseen⟩]
        rfl

theorem codes_prefix (before after : List Task) : codes before <+: codes (before ++ after) := by
  induction after using List.reverseRecOn with
  | nil => exact ⟨[], by simp⟩
  | append_singleton after t ih =>
      rw [← List.append_assoc, codes_concat]
      exact ih.trans (List.prefix_append _ _)

/-- The distinct letter codes of some tasks, in the order of the first tasks that have them. -/
structure AreCodesOf (everything : List Task) (codes : List String) : Prop where
  nodup : codes.Nodup
  mem_iff : ∀ code, code ∈ codes ↔ code ≠ "" ∧ ∃ t ∈ everything, t.code = some code
  order : codes.Pairwise fun code later =>
    everything.findIdx (·.code = some code) < everything.findIdx (·.code = some later)

theorem findIdx_code_lt (hcode : code ∈ codes before) :
    before.findIdx (·.code = some code) < before.length := by
  obtain ⟨-, u, hu, hucode⟩ := mem_codes.1 hcode
  exact List.findIdx_lt_length.2 ⟨u, hu, decide_eq_true hucode⟩

theorem findIdx_code_concat (hcode : code ∈ codes before) :
    (before ++ [t]).findIdx (·.code = some code) = before.findIdx (·.code = some code) := by
  rw [List.findIdx_append, if_pos (findIdx_code_lt hcode)]

theorem findIdx_newCode (hnew : newCode? before t = some code) :
    (before ++ [t]).findIdx (·.code = some code) = before.length := by
  obtain ⟨hcode, hne, hnot⟩ := newCode?_eq_some_iff.1 hnew
  have hnone : before.findIdx (·.code = some code) = before.length :=
    List.findIdx_eq_length.2 fun u hu =>
      decide_eq_false (code_ne_of_not_mem_codes hne hnot u hu)
  rw [List.findIdx_append, hnone, if_neg (Nat.lt_irrefl _), List.findIdx_cons, decide_eq_true hcode]
  exact Nat.zero_add _

theorem areCodesOf_codes (everything : List Task) : AreCodesOf everything (codes everything) where
  nodup := Document.nodup_firstSeen _
  mem_iff := fun _ => mem_codes
  order := by
    induction everything using List.reverseRecOn with
    | nil => exact .nil
    | append_singleton before t ih =>
        have hkept : (codes before).Pairwise fun code later =>
            (before ++ [t]).findIdx (·.code = some code) <
              (before ++ [t]).findIdx (·.code = some later) := by
          refine ih.imp_of_mem fun {code later} hcode hlater hlt => ?_
          rwa [findIdx_code_concat hcode, findIdx_code_concat hlater]
        rw [codes_concat]
        cases hnew : newCode? before t with
        | none => rwa [Option.toList_none, List.append_nil]
        | some code =>
            refine List.pairwise_append.2 ⟨hkept, List.pairwise_singleton _ _, ?_⟩
            intro earlier hearlier later hlater
            obtain rfl := List.mem_singleton.1 hlater
            rw [findIdx_code_concat hearlier, findIdx_newCode hnew]
            exact findIdx_code_lt hearlier

/-- A warning lists some codes and is about the first entry with one of them. -/
def IsWarningOf (everything : List Task) (codes : List String) (code : String) (i : Issue) : Prop :=
  ∃ before t after, everything = before ++ t :: after ∧ t.code = some code ∧
    (∀ u ∈ before, u.code ≠ some code) ∧ i = .mixedCodes t.id codes

/-- A code that is neither the list's only nor its first one is told at the first entry with it. -/
theorem codeIssues_eq {first : Task} (hcode : t.code = some code)
    (hfirst : everything.find? (·.code = some code) = some first) : codeIssues everything t =
      if (2 ≤ (codes everything).length ∧ code ≠ "" ∧ (codes everything).head? ≠ some code) ∧
        first.isSame t = true then [.mixedCodes t.id (codes everything)] else [] := by
  have hguard : (decide ((codes everything).length < 2) || code.isEmpty ||
      decide ((codes everything).head? = some code)) = true ↔
        ¬ (2 ≤ (codes everything).length ∧ code ≠ "" ∧ (codes everything).head? ≠ some code) := by
    simp only [Bool.or_eq_true, decide_eq_true_eq, String.isEmpty_iff, not_and_or, Nat.not_le,
      not_not, or_assoc]
  simp only [codeIssues, hcode, hfirst, hguard]
  by_cases hasked :
      2 ≤ (codes everything).length ∧ code ≠ "" ∧ (codes everything).head? ≠ some code
  · rw [if_neg (not_not_intro hasked)]
    exact if_congr (and_iff_right hasked).symm rfl rfl
  · rw [if_pos hasked, if_neg fun h => hasked h.1]

theorem codeIssues_of_newCode?_eq_none (hnew : newCode? before t = none)
    (hbefore : ∀ u ∈ before, u.isSame t = false) :
    codeIssues (before ++ t :: after) t = [] := by
  cases hcode : t.code with
  | none => rw [codeIssues, hcode]
  | some code =>
      obtain ⟨first, -, hfirst⟩ :=
        exists_find?_code (List.mem_append_right before List.mem_cons_self) hcode
      rw [codeIssues_eq hcode hfirst]
      refine if_neg ?_
      rintro ⟨⟨-, hne, -⟩, hsame⟩
      have hseen : code ∈ codes before := by
        by_contra hnot
        rw [newCode?_eq_some_iff.2 ⟨hcode, hne, hnot⟩] at hnew
        cases hnew
      -- Of all entries with the code the first is among those before the task.
      obtain ⟨-, u, hu, hucode⟩ := mem_codes.1 hseen
      obtain ⟨found, hmem, hfound⟩ := exists_find?_code hu hucode
      rw [List.find?_append, hfound, Option.some_or, Option.some.injEq] at hfirst
      rw [← hfirst, hbefore found hmem] at hsame
      exact Bool.false_ne_true hsame

/-- A task with a code that no earlier entry has is told all codes, unless it has the first. -/
theorem codeIssues_of_newCode?_eq_some (hnew : newCode? before t = some code)
    (hentry : t.isSame t = true) : codeIssues (before ++ t :: after) t =
      if codes before = [] then [] else [.mixedCodes t.id (codes (before ++ t :: after))] := by
  obtain ⟨hcode, hne, hnot⟩ := newCode?_eq_some_iff.1 hnew
  have hfirst : (before ++ t :: after).find? (·.code = some code) = some t := by
    have hnone : before.find? (·.code = some code) = none := by
      simpa using code_ne_of_not_mem_codes hne hnot
    rw [List.find?_append, hnone, Option.none_or, List.find?_cons_of_pos (by simp [hcode])]
  obtain ⟨more, hmore⟩ : codes before ++ [code] <+: codes (before ++ t :: after) := by
    have hstep := codes_prefix (before ++ [t]) after
    rwa [codes_concat, hnew, List.append_assoc] at hstep
  rw [codeIssues_eq hcode hfirst, ← hmore]
  cases hbefore : codes before with
  | nil => exact if_neg fun h => h.1.2.2 rfl
  | cons earliest rest =>
      have hearlier : earliest ≠ code := by
        rintro rfl
        exact hnot (hbefore ▸ .head _)
      have hmany : 2 ≤ (earliest :: rest ++ [code] ++ more).length := by
        simp only [List.length_append, List.length_cons, List.length_nil]
        omega
      have hhead : (earliest :: rest ++ [code] ++ more).head? ≠ some code :=
        fun heq => hearlier (Option.some.inj heq)
      rw [if_pos ⟨⟨hmany, hne, hhead⟩, hentry⟩, if_neg (List.cons_ne_nil _ _)]

/-- The codes of the first entries of a list, without the list's first code, have their warnings at
these entries in order. -/
theorem forall₂_codeIssues (hentry : ∀ t ∈ everything, t.isSame t = true)
    (hdistinct : everything.Pairwise fun t u => t.isSame u = false)
    (hsplit : everything = before ++ after) :
    List.Forall₂ (IsWarningOf everything (codes everything)) (codes before).tail
      (before.flatMap (codeIssues everything)) := by
  -- The entries are taken in from the front, while the list whose codes are told stays whole.
  induction before using List.reverseRecOn generalizing after with
  | nil => exact .nil
  | append_singleton before t ih =>
      rw [List.append_assoc] at hsplit
      have hkept := ih hsplit
      have ht : t ∈ everything := hsplit ▸ List.mem_append_right _ List.mem_cons_self
      rw [codes_concat, List.flatMap_append, List.flatMap_singleton]
      cases hnew : newCode? before t with
      | none =>
          have hbefore : ∀ u ∈ before, u.isSame t = false := fun u hu =>
            (List.pairwise_append.1 (hsplit ▸ hdistinct)).2.2 u hu t List.mem_cons_self
          have hnone : codeIssues everything t = [] :=
            hsplit ▸ codeIssues_of_newCode?_eq_none hnew hbefore
          rwa [hnone, Option.toList_none, List.append_nil, List.append_nil]
      | some code =>
          have hissues : codeIssues everything t =
              if codes before = [] then [] else [.mixedCodes t.id (codes everything)] :=
            hsplit ▸ codeIssues_of_newCode?_eq_some hnew (hentry t ht)
          obtain ⟨hcode, hne, hnot⟩ := newCode?_eq_some_iff.1 hnew
          rw [hissues]
          by_cases hfirst : codes before = []
          · rw [if_pos hfirst, List.append_nil, hfirst]
            rwa [hfirst] at hkept
          · rw [if_neg hfirst, List.tail_append_of_ne_nil hfirst]
            refine List.rel_append hkept (.cons ?_ .nil)
            exact ⟨before, t, after, hsplit, hcode, code_ne_of_not_mem_codes hne hnot, rfl⟩

end Codes

/-! ### The run over all main tasks -/

section Run

variable {l : TaskList} (policy : Policy) (settings : Settings)

/-- What the check of ids says about each main task of a list. -/
def verdictsOf (policy : Policy) (l : TaskList) (settings : Settings) : List Verdict :=
  l.mainTasks.map fun t => .ofIssues (issues t ⟨policy, l, settings⟩)

theorem map_run_mainTasks : l.mainTasks.map (identity.run · ⟨policy, l, settings⟩) =
    (verdictsOf policy l settings).map .ok := by
  rw [verdictsOf, List.map_map]
  rfl

/-- Issues of a kind that each task of a family has for itself are those of all entries. -/
theorem filter_kind_flatMap (h : l.IsDistinct) {kind : IssueKind} {keep : Issue → Bool}
    {part : Task → List Issue} (hkeep : ∀ u, ∀ i ∈ part u, keep i = true)
    (hpart : ∀ t, t.isMain = true → (issues t ⟨policy, l, settings⟩).filter (·.kind = kind) =
      (t :: t.subtasks).flatMap part) :
    (l.mainTasks.flatMap fun t => (issues t ⟨policy, l, settings⟩).filter keep).filter
      (·.kind = kind) = l.allTasks.flatMap part := by
  rw [h.mainTasks_eq, List.filter_flatMap, TaskList.allTasks, List.flatMap_assoc]
  refine List.flatMap_congr fun t ht => ?_
  rw [List.filter_comm, hpart t (h.main t ht), List.filter_eq_self]
  intro i hi
  obtain ⟨u, -, hmem⟩ := List.mem_flatMap.1 hi
  exact hkeep u i hmem

theorem filter_duplicates_verdictsOf (h : l.IsDistinct) :
    ((verdictsOf policy l settings).flatMap (·.errors)).filter (·.kind = .duplicateTaskId) =
      l.allTasks.flatMap (duplicateIssues l.allTasks) := by
  rw [verdictsOf, List.flatMap_map]
  refine filter_kind_flatMap policy settings h (fun u i hi => ?_) fun _ => filter_duplicates_issues
  rw [(of_mem_duplicateIssues hi).2.2, Bool.not_false]

theorem filter_mixed_verdictsOf (h : l.IsDistinct) :
    ((verdictsOf policy l settings).flatMap (·.warnings)).filter (·.kind = .mixedCodes) =
      l.allTasks.flatMap (codeIssues l.allTasks) := by
  rw [verdictsOf, List.flatMap_map]
  refine filter_kind_flatMap policy settings h (fun u i hi => ?_) fun _ => filter_mixed_issues
  rw [eq_of_mem_codeIssues hi]
  rfl

/-- **Every repetition of an id is counted.** Over all main tasks of a list of distinct entries an
id has one error for each of its entries but the first, in order, with the line of the entry and
the number of all of them. -/
theorem duplicates_counted (h : l.IsDistinct) {id : String} (hid : id ≠ Task.unreadableId) :
    ∃ vs : List Verdict,
      l.mainTasks.map (identity.run · ⟨policy, l, settings⟩) = vs.map .ok ∧
      (vs.flatMap (·.errorsFor id)).filter (·.kind = .duplicateTaskId) =
        (l.allTasks.filter (·.id = id)).tail.map (fun t =>
          .duplicateTaskId id (l.ids.count id) (some t.line)) ∧
      ((vs.flatMap (·.errorsFor id)).filter (·.kind = .duplicateTaskId)).length =
        l.ids.count id - 1 := by
  have hcount : (l.allTasks.filter (·.id = id)).length = l.ids.count id := by
    rw [TaskList.ids, List.count_eq_countP, List.countP_map, List.countP_eq_length_filter]
    exact congrArg List.length (List.filter_congr fun t _ => (beq_eq_decide t.id id).symm)
  have hissues : ((verdictsOf policy l settings).flatMap (·.errorsFor id)).filter
      (·.kind = .duplicateTaskId) = (l.allTasks.filter (·.id = id)).tail.map fun t =>
        .duplicateTaskId id (l.ids.count id) (some t.line) := by
    calc ((verdictsOf policy l settings).flatMap (·.errorsFor id)).filter
          (·.kind = .duplicateTaskId)
        = (((verdictsOf policy l settings).flatMap (·.errors)).filter
            (·.kind = .duplicateTaskId)).filter (·.taskId = some id) := by
          rw [List.filter_comm]
          exact congrArg (List.filter _) List.filter_flatMap.symm
      _ = _ := by
          rw [filter_duplicates_verdictsOf policy settings h,
            filter_flatMap_duplicateIssues hid h.entry h.distinct, hcount]
  refine ⟨_, map_run_mainTasks policy settings, hissues, ?_⟩
  rw [hissues, List.length_map, List.length_tail, hcount]

def listedTask (place : List Nat) (line : Int) (id : String) (code : Option String)
    (subtasks : List Task) : Task where
  id := id
  description := "Entry"
  status := Task.plannedStatus
  priority := none
  content := []
  subtasks := subtasks
  line := line
  kind := if place.length = 1 then .main else .subtask
  code := code
  category := none
  parentId := none
  rating := none
  marker := none
  origin := .listed place

/-- A main task has the id of a subtask before it, and so has another subtask. The second code comes
with a subtask, and one entry has no code. -/
def repeatedIds : TaskList where
  tasks :=
    [listedTask [0] 1 "AB0001" (some "AB") [listedTask [0, 0] 4 "CD0002" (some "CD") []],
      listedTask [1] 7 "CD0002" (some "CD") [listedTask [1, 0] 8 "Draft" none []],
      listedTask [2] 9 "EF0003" (some "EF") [listedTask [2, 0] 12 "CD0002" (some "AB") []]]
  references := ∅
  path := none
  totalLines := 0
  lines := []

theorem isDistinct_repeatedIds : repeatedIds.IsDistinct := by
  constructor <;> decide

theorem duplicates_counted_repeatedIds :
    repeatedIds.IsDistinct ∧ "CD0002" ≠ Task.unreadableId ∧
    ∃ vs : List Verdict,
      repeatedIds.mainTasks.map (identity.run · ⟨.standard, repeatedIds, []⟩) = vs.map .ok ∧
      (vs.flatMap (·.errorsFor "CD0002")).filter (·.kind = .duplicateTaskId) =
        [.duplicateTaskId "CD0002" 3 (some 7), .duplicateTaskId "CD0002" 3 (some 12)] := by
  have hid : "CD0002" ≠ Task.unreadableId := by decide
  obtain ⟨vs, hruns, hissues, -⟩ :=
    duplicates_counted .standard [] isDistinct_repeatedIds hid
  exact ⟨isDistinct_repeatedIds, hid, vs, hruns, hissues⟩

/-- **Every code but the first has one warning.** Over all main tasks of a list of distinct entries
the codes after the first have one warning each, in order, which is about the first entry with the
code and lists all codes. No verdict fails for it. -/
theorem mixedCodes_counted (h : l.IsDistinct) :
    ∃ (vs : List Verdict) (codes : List String),
      l.mainTasks.map (identity.run · ⟨policy, l, settings⟩) = vs.map .ok ∧
      AreCodesOf l.allTasks codes ∧
      List.Forall₂ (IsWarningOf l.allTasks codes) codes.tail
        ((vs.flatMap (·.warnings)).filter (·.kind = .mixedCodes)) ∧
      ((vs.flatMap (·.warnings)).filter (·.kind = .mixedCodes)).length = codes.length - 1 ∧
      ∀ v ∈ vs, (v.valid = true ↔ v.errors = []) ∧ ∀ i ∈ v.errors, i.kind ≠ .mixedCodes := by
  have hwarnings : List.Forall₂ (IsWarningOf l.allTasks (codes l.allTasks)) (codes l.allTasks).tail
      (((verdictsOf policy l settings).flatMap (·.warnings)).filter (·.kind = .mixedCodes)) := by
    rw [filter_mixed_verdictsOf policy settings h]
    exact forall₂_codeIssues h.entry h.distinct (List.append_nil _).symm
  refine ⟨_, _, map_run_mainTasks policy settings, areCodesOf_codes _, hwarnings, ?_, ?_⟩
  · rw [← hwarnings.length_eq, List.length_tail]
  · intro v hv
    obtain ⟨t, ht, rfl⟩ := List.mem_map.1 hv
    refine ⟨(Verdict.isSorted_ofIssues _).valid_iff, fun i hi hkind => ?_⟩
    obtain ⟨hmem, herror⟩ := List.mem_filter.1 hi
    have hmixed : i ∈ (issues t ⟨policy, l, settings⟩).filter (·.kind = .mixedCodes) :=
      List.mem_filter.2 ⟨hmem, decide_eq_true hkind⟩
    rw [filter_mixed_issues (List.mem_filter.1 ht).2] at hmixed
    obtain ⟨u, -, hissue⟩ := List.mem_flatMap.1 hmixed
    rw [eq_of_mem_codeIssues hissue] at herror
    exact absurd herror Bool.false_ne_true

theorem mixedCodes_counted_repeatedIds :
    repeatedIds.IsDistinct ∧ ∃ (vs : List Verdict) (codes : List String),
      repeatedIds.mainTasks.map (identity.run · ⟨.standard, repeatedIds, []⟩) = vs.map .ok ∧
      codes.Perm ["AB", "CD", "EF"] ∧
      ((vs.flatMap (·.warnings)).filter (·.kind = .mixedCodes)).length = 2 := by
  obtain ⟨vs, codes, hruns, hcodes, -, hlength, -⟩ :=
    mixedCodes_counted .standard [] isDistinct_repeatedIds
  have hperm : codes.Perm ["AB", "CD", "EF"] := by
    rw [List.perm_ext_iff_of_nodup hcodes.nodup (by decide)]
    have hall : repeatedIds.allTasks.map (·.code) =
        [some "AB", some "CD", some "CD", none, some "EF", some "AB"] := rfl
    intro code
    rw [hcodes.mem_iff, ← List.mem_map, hall]
    simp only [List.mem_cons, Option.some.injEq, reduceCtorEq, List.not_mem_nil]
    grind
  exact ⟨isDistinct_repeatedIds, vs, codes, hruns, hperm, by rw [hlength, hperm.length_eq]; rfl⟩

end Run

end Check.Identity

end TaskAudit
