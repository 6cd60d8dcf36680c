import TaskAudit.Proofs.Ceiling
import TaskAudit.Proofs.Exactness
import TaskAudit.Proofs.MetricValue

/-!
# Exact ceilings

Ceilings are scaled with numbers of 53 bits, and up to `2 ^ 50` no bit is lost: a ceiling counts as
it is, half as much again with a half going up, twice or three times. A task that gives an integer
for a metric is told exactly this integer and exactly that ceiling, if the first is the greater.
-/

namespace TaskAudit

open Binary64

/-! ### The scale of a complexity -/

namespace Complexity

/-- A ceiling for tasks of a complexity. -/
def scaled (c : Complexity) (n : ℤ) : ℤ :=
  match c with
  | simple => n
  | medium => (3 * n + 1) / 2
  | complex => 2 * n
  | critical => 3 * n

theorem scaled_eq (c : Complexity) (n : ℤ) : c.scaled n = (n * c.halves + 1) / 2 := by
  cases c <;> simp only [scaled, halves] <;> omega

theorem isWorth_factor (c : Complexity) : c.factor.IsWorth (c.halves / 2) := by
  rw [factor_eq]
  exact isWorth_ofRatio two_pos (fits_natCast_div_two (by cases c <;> decide))

end Complexity

namespace Check.Kpi

variable {c : Complexity} {n : ℤ}

theorem isWorth_half : half.IsWorth ((1 : ℕ) / 2) :=
  isWorth_ofRatio two_pos (fits_natCast_div_two (by decide))

/-- Up to `2 ^ 50` ceilings are scaled exactly. -/
theorem scaledLimit_ofInt (hnonneg : 0 ≤ n) (hle : n ≤ 2 ^ 50) (c : Complexity) :
    scaledLimit (ofInt n) c = .ok (c.scaled n) := by
  obtain ⟨k, rfl⟩ := Int.eq_ofNat_of_zero_le hnonneg
  have hk : k ≤ 2 ^ 50 := by exact_mod_cast hle
  have hhalves : k * c.halves + 1 < 2 ^ 53 := by
    have hsix : k * c.halves ≤ 2 ^ 50 * 6 := Nat.mul_le_mul hk (by cases c <;> decide)
    omega
  have hproduct : ((k : ℚ) * (c.halves / 2)) = (k * c.halves : ℕ) / 2 := by
    push_cast
    ring
  have hsum : (((k * c.halves : ℕ) / 2 + (1 : ℕ) / 2 : ℚ)) = (k * c.halves + 1 : ℕ) / 2 := by
    push_cast
    ring
  have hscaled : ((ofInt k).mul c.factor).IsWorth ((k * c.halves : ℕ) / 2) := by
    have hmul := (isWorth_ofInt (n := k) (by omega)).mul c.isWorth_factor
    rw [hproduct] at hmul
    exact hmul (fits_natCast_div_two (by omega))
  have hrounded : (((ofInt k).mul c.factor).add half).IsWorth ((k * c.halves + 1 : ℕ) / 2) := by
    have hadd := hscaled.add isWorth_half
    rw [hsum] at hadd
    exact hadd (fits_natCast_div_two hhalves)
  obtain ⟨m, e, hnumber, hworth⟩ := hrounded
  rw [scaledLimit_eq_ok_iff (isNegative_ofInt hnonneg)]
  refine ⟨m, e, hnumber, ?_⟩
  rw [hworth, Complexity.scaled_eq]
  simpa using Rat.floor_intCast_div_natCast (k * c.halves + 1) 2

/-! ### What is told of a metric -/

/-- Settings give no ceiling in the place of one of the policy's. -/
def LeavesCeilings (s : Settings) : Prop := ∀ m : Metric, m.option?.bind s.get? = none

/-- An issue is about the value of a metric. -/
def isValueOf (m : Metric) (i : Issue) : Bool :=
  i.kind = .invalidKpiValue &&
    match Catalog.get? "metric" i.details with
    | some (.text name) => name = m.label
    | _ => false

/-- A task has lines for its metrics that give the required ones, and a metric first as an
integer. -/
structure StatesWhole (references : References) (t : Task) (m : Metric) (v : ℕ) : Prop where
  exists_lines : ∃ lines, lines? references t = some lines ∧ GivesFirst m v lines ∧
    ∀ required : Metric, required.isRequired = true → ∃ line ∈ lines, HasValue required line

section Told

variable {scope : Scope} {t : Task} {m m' : Metric} {v : ℕ} {values : Values} {ms : List Metric}
  {found part : List Issue} {i : Issue}

theorem isValueOf_invalidKpiValue (m m' : Metric) (id : String) (value limit : Quantity)
    (least : Bool) (word : Option String) :
    isValueOf m (.invalidKpiValue id m'.label value limit least word) = decide (m' = m) := by
  have hname : isValueOf m (.invalidKpiValue id m'.label value limit least word) =
      decide (m'.label = m.label) := rfl
  rw [hname, decide_eq_decide]
  cases m' <;> cases m <;> decide

theorem isValueOf_of_isValueIssue (h : IsValueIssue t ms i) : isValueOf m i = true → m ∈ ms := by
  obtain ⟨m', hm', value, limit, least, word, rfl⟩ := h
  rw [isValueOf_invalidKpiValue, decide_eq_true_eq]
  rintro rfl
  exact hm'

theorem isValueIssue_of_mem_statedIssues {c : Complexity}
    (h : statedIssues scope t c values m = .ok part) (hi : i ∈ part) : IsValueIssue t [m] i := by
  rw [statedIssues] at h
  split at h
  · exact isValueIssue_of_mem_valueIssues h hi
  · rw [← Except.ok.inj h] at hi
    exact absurd hi List.not_mem_nil

theorem filter_statedIssues {c : Complexity} (h : statedIssues scope t c values m' = .ok part) :
    part.filter (isValueOf m) = if m = m' then part else [] := by
  split
  · next heq =>
    subst heq
    refine List.filter_eq_self.2 fun i hi => ?_
    obtain ⟨_, hm, value, limit, least, word, rfl⟩ := isValueIssue_of_mem_statedIssues h hi
    rw [isValueOf_invalidKpiValue, decide_eq_true_eq, List.mem_singleton.1 hm]
  · next hne =>
    refine List.filter_eq_nil_iff.2 fun i hi hvalue => hne ?_
    exact List.mem_singleton.1
      (isValueOf_of_isValueIssue (isValueIssue_of_mem_statedIssues h hi) hvalue)

/-- Of the issues of all values those about one metric are the issues of its value. -/
theorem filter_allValueIssues {c : Complexity} (hnodup : ms.Nodup) (hm : m ∈ ms)
    (h : allValueIssues scope t c values ms = .ok found) :
    statedIssues scope t c values m = .ok (found.filter (isValueOf m)) := by
  induction ms generalizing found with
  | nil => exact absurd hm List.not_mem_nil
  | cons m' ms ih =>
      rw [List.nodup_cons] at hnodup
      rw [allValueIssues_cons, bind_eq_ok_iff] at h
      obtain ⟨part, hpart, h⟩ := h
      obtain ⟨more, hmore, h⟩ := bind_eq_ok_iff.1 h
      obtain rfl := Except.ok.inj h
      rw [List.filter_append, filter_statedIssues hpart]
      rcases List.mem_cons.1 hm with rfl | hmem
      · have hnone : more.filter (isValueOf m) = [] :=
          List.filter_eq_nil_iff.2 fun i hi hvalue => hnodup.1
            (isValueOf_of_isValueIssue (isValueIssue_of_mem_allValueIssues hmore hi) hvalue)
        rw [if_pos rfl, hnone, List.append_nil, hpart]
      · have hne : m ≠ m' := fun heq => hnodup.1 (heq ▸ hmem)
        rw [if_neg hne, List.nil_append, ih hnodup.2 hmem hmore]

/-- The values of metrics have errors and no warnings. -/
theorem errors_ofIssues_of_allValueIssues {c : Complexity}
    (h : allValueIssues scope t c values ms = .ok found) :
    (Verdict.ofIssues found).errors = found := by
  refine List.filter_eq_self.2 fun i hi => ?_
  obtain ⟨_, -, value, limit, least, word, rfl⟩ := isValueIssue_of_mem_allValueIssues h hi
  rfl

/-- A task with its required metrics is judged by their values. -/
theorem StatesWhole.issues_eq {l : TaskList} (h : StatesWhole l.references t m v)
    (policy : Policy) (s : Settings) : ∃ values : Values,
      values.get? m = some (.ofDecimal false v 0) ∧
        issues t ⟨policy, l, s⟩ = complexity policy t >>= fun c =>
          allValueIssues ⟨policy, l, s⟩ t c values Metric.all := by
  obtain ⟨lines, hlines, hfirst, hrequired⟩ := h.exists_lines
  have hvalue := get?_values_of_givesFirst hfirst
  have hne : (Kpi.values lines).isEmpty = false := by
    rw [List.isEmpty_eq_false_iff]
    intro hnone
    simp [hnone, Values.get?] at hvalue
  refine ⟨Kpi.values lines, hvalue, ?_⟩
  simp [issues, Scope.references, hlines, hne, missingLabels_values_eq_nil hrequired]

end Told

section Exact

variable {policy : Policy} {l : TaskList} {s : Settings} {t : Task} {m : Metric} {v : ℕ}
  {c : Complexity} {n : ℤ}

theorem limitOf_ofInt (hscaled : m.isScaled = true) (hbound : policy.limits.bound m = .whole n)
    (hnonneg : 0 ≤ n) (hle : n ≤ 2 ^ 50) :
    limitOf ⟨policy, l, []⟩ c m = .ok (ofInt (c.scaled n)) := by
  obtain ⟨hsize, -⟩ := exists_scaledLimit_ofInt hnonneg (le_of_le_two_pow hle) c
  rw [limitOf_whole_eq_ok_iff hbound, hscaled, if_pos rfl]
  exact ⟨hsize, _, scaledLimit_ofInt hnonneg hle c, rfl⟩

theorem isWorth_ofInt_scaled (hnonneg : 0 ≤ n) (hle : n ≤ 2 ^ 50) (c : Complexity) :
    ∃ k : ℕ, c.scaled n = k ∧ (ofInt (c.scaled n)).IsWorth k := by
  have hbounds : 0 ≤ c.scaled n ∧ c.scaled n ≤ 2 ^ 53 := by
    cases c <;> simp only [Complexity.scaled] <;> omega
  obtain ⟨k, hk⟩ := Int.eq_ofNat_of_zero_le hbounds.1
  rw [hk] at hbounds ⊢
  exact ⟨k, rfl, isWorth_ofInt (by exact_mod_cast hbounds.2)⟩

/-- The value and the ceiling are compared and shown as the integers that they are. -/
theorem valueIssues_ofDecimal (hscaled : m.isScaled = true)
    (hbound : policy.limits.bound m = .whole n) (hnonneg : 0 ≤ n) (hle : n ≤ 2 ^ 50)
    (hv : v ≤ 2 ^ 53) : valueIssues ⟨policy, l, []⟩ t c m (.ofDecimal false v 0) =
      .ok (if c.scaled n < v then [.invalidKpiValue t.id m.label (.whole v) (.whole (c.scaled n))
        false (some c.name)] else []) := by
  have hleast : m.isLeast = false := by
    cases m <;> simp [Metric.isScaled] at hscaled <;> rfl
  have hvalue := isWorth_ofDecimal hv
  obtain ⟨k, hk, hlimit⟩ := isWorth_ofInt_scaled hnonneg hle c
  have hbeyond : isBeyond m (ofInt (c.scaled n)) (.ofDecimal false v 0) =
      decide (c.scaled n < v) := by
    rw [isBeyond, hleast, if_neg Bool.false_ne_true, Bool.eq_iff_iff, hlimit.lt_iff hvalue,
      decide_eq_true_eq, hk]
    norm_cast
  rw [valueIssues_eq_map, limitOf_ofInt hscaled hbound hnonneg hle, Except.map, hbeyond,
    hvalue.ofNumber_eq, hlimit.ofNumber_eq, hleast, hk]
  simp

/-- **Ceilings are exact.** Up to `2 ^ 50` they are scaled as integers are. Where a task gives the
required metrics, and first of all numbers for a scaled metric an integer up to `2 ^ 53`, it has an
error of that metric just if the integer exceeds the policy's ceiling, scaled by the complexity of
the task; there is one such error, and it shows this integer and that ceiling. The check comes to a
result if all ceilings are natural numbers up to `2 ^ 1000`. -/
theorem ceilings_exact :
    (∀ (n : ℤ) (c : Complexity), 0 ≤ n → n ≤ 2 ^ 50 →
      scaledLimit (ofInt n) c = .ok (c.scaled n)) ∧
    ∀ (policy : Policy) (l : TaskList) (s : Settings) (t : Task) (m : Metric) (v : ℕ) (n : ℤ)
      (c : Complexity), m.isScaled = true → StatesWhole l.references t m v → v ≤ 2 ^ 53 →
      policy.limits.bound m = .whole n → 0 ≤ n → n ≤ 2 ^ 50 → LeavesCeilings s →
      complexity policy t = .ok c →
      (∀ verdict, kpi.run t ⟨policy, l, s⟩ = .ok verdict →
        verdict.errors.filter (isValueOf m) =
          if c.scaled n < v then [.invalidKpiValue t.id m.label (.whole v)
            (.whole (c.scaled n)) false (some c.name)] else []) ∧
      ((∀ m' n', policy.limits.bound m' = .whole n' → 0 ≤ n' ∧ n' ≤ 2 ^ 1000) →
        ∃ verdict, kpi.run t ⟨policy, l, s⟩ = .ok verdict) := by
  refine ⟨fun n c hnonneg hle => scaledLimit_ofInt hnonneg hle c, ?_⟩
  intro policy l s t m v n c hscaled hstates hv hbound hnonneg hle hs hc
  obtain ⟨values, hvalue, hissues⟩ := hstates.issues_eq policy s
  rw [hc] at hissues
  refine ⟨fun verdict hrun => ?_, fun hbounds => ?_⟩
  · obtain ⟨found, hfound, rfl⟩ := map_eq_ok_iff.1 hrun
    rw [hissues] at hfound
    have hstated := filter_allValueIssues (by decide) m.mem_all hfound
    rw [statedIssues_of_none (hs m), statedIssues, hvalue] at hstated
    rw [errors_ofIssues_of_allValueIssues hfound]
    exact Except.ok.inj
      (hstated.symm.trans (valueIssues_ofDecimal hscaled hbound hnonneg hle hv))
  · obtain ⟨found, hfound⟩ : ∃ found,
        allValueIssues ⟨policy, l, s⟩ t c values Metric.all = .ok found := by
      refine exists_allValueIssues_eq_ok fun m' _ => ?_
      rw [statedIssues_of_none (hs m')]
      exact exists_statedIssues_of_bound (hbounds m')
    exact ⟨.ofIssues found, map_eq_ok_iff.2 ⟨found, hissues.trans hfound, rfl⟩⟩

end Exact

/-- A task of medium complexity that states six functions in a module. -/
def sixFunctions : Task :=
  { (default : Task) with
    id := "AB0001"
    content := ["**Complexity Assessment**: Medium", "**Code Quality KPIs**",
      "- Functions per module: 6", "- Lines per function: 1", "- Call depth: 1"] }

theorem statesWhole_sixFunctions (references : References) :
    StatesWhole references sixFunctions .functionsPerModule 6 := by
  obtain ⟨lines, hlines⟩ : ∃ lines, lines =
      ["- Functions per module: 6", "- Lines per function: 1", "- Call depth: 1"] := ⟨_, rfl⟩
  have hblock : Content.sectionBlock? sectionName sixFunctions.ownLines = some lines ∧
      kpiNames sixFunctions = [] := by
    subst hlines
    decide +kernel
  have hdigit : Text.isDigit '6' = true := by decide +kernel
  refine ⟨lines, by simp [lines?, hblock], ?_, fun required hrequired => ?_⟩
  · refine ⟨[], "- Functions per module: 6", _, "- ".toList, "Functions per module: 6".toList,
      hlines, by simp, by decide +kernel, fun k hk => ?_, ?_⟩
    · rw [not_startsWithValue_iff]
      revert k
      decide +kernel
    · exact ⟨": 6".toList, " 6".toList, ['6'], [], by decide +kernel, by decide +kernel,
        by decide +kernel, by simp, by simpa using hdigit, by decide +kernel, by simp, by simp⟩
  · have hall : ∀ m ∈ Metric.all, m.isRequired = true →
        ((values lines).get? m).isSome = true := by
      subst hlines
      decide +kernel
    exact isSome_get?_values_iff.1 (hall required required.mem_all hrequired)

theorem ceilings_exact_sixFunctions :
    scaledLimit (ofInt (2 ^ 50 - 1)) .medium = .ok ((3 * (2 ^ 50 - 1) + 1) / 2) ∧
    StatesWhole ∅ sixFunctions .functionsPerModule 6 ∧
    ∃ verdict, kpi.run sixFunctions ⟨policyOfFunctions 3, default, []⟩ = .ok verdict ∧
      verdict.errors.filter (isValueOf .functionsPerModule) =
        [.invalidKpiValue "AB0001" "Functions per module" (.whole 6) (.whole 5) false
          (some "medium")] := by
  obtain ⟨hscaled, htold⟩ := ceilings_exact
  have hstates := statesWhole_sixFunctions ∅
  obtain ⟨herrors, hresult⟩ := htold (policyOfFunctions 3) default [] sixFunctions
    .functionsPerModule 6 3 .medium rfl hstates (by decide) rfl (by decide) (by decide)
    (fun m => by cases m <;> rfl) (by decide +kernel)
  obtain ⟨verdict, hrun⟩ := hresult fun m n hn => by
    cases m with
    | lintScore => cases hn
    | _ =>
        obtain rfl := Quantity.whole.inj hn
        exact ⟨by decide, le_of_le_two_pow (by decide)⟩
  exact ⟨hscaled _ _ (by decide) (by decide), hstates, verdict, hrun, herrors verdict hrun⟩

end Check.Kpi

end TaskAudit
