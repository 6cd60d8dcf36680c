import TaskAudit.Proofs.Ceiling
import TaskAudit.Proofs.MetricValue
import TaskAudit.Proofs.Override

/-!
# Looser policies

A policy is looser than another if its ceilings are no lower, its least lint score is no higher and
it takes the tasks of no category for simpler ones. A task with nothing wrong in its code metrics by
a policy has the same verdict by a looser one.
-/

namespace TaskAudit

/-! ### The order of numbers -/

namespace Binary64

variable {x y b b' : Binary64}

/-- The place of a number on the line with its two ends; what is not a number has none of its
own. -/
def place : Binary64 → WithBot (WithTop ℚ)
  | nan => ⊥
  | infinite true => ⊥
  | infinite false => (⊤ : WithTop ℚ)
  | finite s m e => (ratio s m e : WithTop ℚ)

theorem lt_iff : x.lt y = true ↔ x ≠ nan ∧ y ≠ nan ∧ x.place < y.place := by
  have htop (q : ℚ) : ((q : WithTop ℚ) : WithBot (WithTop ℚ)) < (⊤ : WithTop ℚ) :=
    WithBot.coe_lt_coe.2 (WithTop.coe_lt_top q)
  cases x with
  | nan => simp [lt]
  | infinite s => cases s <;> cases y with
    | nan => simp [lt]
    | infinite t => cases t <;> simp [lt, place]
    | finite t n f => simp [lt, place]
  | finite s m e => cases y with
    | nan => simp [lt]
    | infinite t => cases t with
      | true => simp [lt, place]
      | false => simpa [lt, place] using htop (ratio s m e)
    | finite t n f => simp [finite_lt_iff, place]

theorem le_iff : x.le y = true ↔ x ≠ nan ∧ y ≠ nan ∧ x.place ≤ y.place := by
  have hsame : x.same y = true ↔ x ≠ nan ∧ y ≠ nan ∧ ¬x.lt y = true ∧ ¬y.lt x = true := by
    cases x <;> cases y <;> simp [same]
  rw [le, Bool.or_eq_true, hsame, lt_iff, lt_iff]
  by_cases hx : x = nan
  · simp [hx]
  by_cases hy : y = nan
  · simp [hy]
  simp only [ne_eq, hx, hy, not_false_eq_true, true_and, not_lt]
  rw [← le_antisymm_iff, eq_comm, ← le_iff_lt_or_eq]

/-- What is not below a number is not below a lower one. -/
theorem lt_eq_false_of_le_right (hle : b'.le b = true) (h : x.lt b = false) :
    x.lt b' = false := by
  rw [le_iff] at hle
  rw [← Bool.not_eq_true, lt_iff] at h ⊢
  rintro ⟨hx, -, hlt⟩
  exact h ⟨hx, hle.2.1, hlt.trans_le hle.2.2⟩

end Binary64

/-! ### Bounds of policies -/

namespace Policy

variable {v : Value} {policy policy' : Policy} {m : Metric} {n : ℤ}

/-- A policy asks no more of code than another. -/
structure IsLooser (policy' policy : Policy) : Prop where
  ceilings : ∀ m n n', policy.limits.bound m = .whole n → policy'.limits.bound m = .whole n' →
    n ≤ n'
  lintScore : policy'.limits.lintScore.le policy.limits.lintScore = true
  complexities : ∀ category,
    (policy.complexityOf category).rank ≤ (policy'.complexityOf category).rank

/-- A field with a rule keeps it in every policy that was read. -/
theorem rule_eq_none {α : Type} {key : String} {get : Policy → α} {read : Value → Reading α}
    {write : α → Value} {h : Shape.ReadsBack read write} {rule : α → Option String}
    {hstandard : rule (get standard) = none}
    (hf : Field.ruled key get read write h rule hstandard ∈ Field.all)
    (hp : ofValue v = .ok policy) : rule (get policy) = none := by
  rcases Field.reads_of_mem hf hp with ⟨given, hgiven⟩ | heq
  · exact (Reading.keeping_eq_ok_iff.1 hgiven).2
  · exact (congrArg rule heq).trans hstandard

/-- Ceilings of policies that were read are natural numbers. -/
theorem bound_nonneg (hp : ofValue v = .ok policy) (hbound : policy.limits.bound m = .whole n) :
    0 ≤ n := by
  have hpositive : ∀ {k : ℤ}, positive k = none → 0 ≤ k := by
    intro k hk
    have hpos : 0 < k := by simpa [positive] using hk
    exact hpos.le
  have hnotNegative : ∀ {k : ℤ}, notNegative k = none → 0 ≤ k := by
    intro k hk
    simpa [notNegative] using hk
  cases m <;> simp only [Limits.bound, Quantity.whole.injEq, reduceCtorEq] at hbound <;>
    subst hbound
  case functionsPerModule =>
    exact hpositive (rule_eq_none (List.mem_of_getElem? (i := 4) rfl) hp)
  case linesPerFunction =>
    exact hpositive (rule_eq_none (List.mem_of_getElem? (i := 5) rfl) hp)
  case callDepth => exact hpositive (rule_eq_none (List.mem_of_getElem? (i := 6) rfl) hp)
  case cyclomaticComplexity =>
    exact hpositive (rule_eq_none (List.mem_of_getElem? (i := 7) rfl) hp)
  case patternMatchDepth =>
    exact hpositive (rule_eq_none (List.mem_of_getElem? (i := 8) rfl) hp)
  case staticAnalysisWarnings =>
    exact hnotNegative (rule_eq_none (List.mem_of_getElem? (i := 9) rfl) hp)
  case stateComplexity => exact hpositive (rule_eq_none (List.mem_of_getElem? (i := 11) rfl) hp)
  case contextBoundaries =>
    exact hpositive (rule_eq_none (List.mem_of_getElem? (i := 12) rfl) hp)
  case queryComplexity => exact hpositive (rule_eq_none (List.mem_of_getElem? (i := 13) rfl) hp)

end Policy

/-! ### Two policies -/

namespace Check.Kpi

open Binary64

section Looser

variable {policy policy' : Policy} {l : TaskList} {t : Task} {c c' : Complexity} {m : Metric}
  {x limit limit' : Binary64} {n : ℤ} {values : Values} {ms : List Metric}

/-- Any two policies bound a metric both from above or both from below. -/
theorem bound_cases (policy policy' : Policy) (m : Metric) : m = .lintScore ∨
    m.isLeast = false ∧ ∃ n n', policy.limits.bound m = .whole n ∧
      policy'.limits.bound m = .whole n' := by
  cases m with
  | lintScore => exact .inl rfl
  | _ => exact .inr ⟨rfl, _, _, rfl, rfl⟩

variable (hlooser : policy'.IsLooser policy)

include hlooser

/-- What a task states of its complexity counts by any policy. -/
theorem exists_complexity_eq_ok (hc : complexity policy t = .ok c) :
    ∃ c', complexity policy' t = .ok c' ∧ c.rank ≤ c'.rank := by
  unfold complexity at hc ⊢
  cases hword : t.ownLines.findSome? fun line => statedWord? line.toList with
  | some w =>
      simp only [hword] at hc ⊢
      exact ⟨c, hc, le_rfl⟩
  | none =>
      simp only [hword] at hc ⊢
      cases hcategory : t.category with
      | none =>
          simp only [hcategory] at hc
          exact ⟨c, hc, le_rfl⟩
      | some category =>
          simp only [hcategory] at hc
          obtain rfl := Except.ok.inj hc
          exact ⟨_, rfl, hlooser.complexities category⟩

/-- A value on the right side of its bound is on the right side of a looser one. -/
theorem isBeyond_eq_false_of_isLooser
    (hnonneg : ∀ n, policy.limits.bound m = .whole n → 0 ≤ n) (hc : c.rank ≤ c'.rank)
    (hlimit : limitOf ⟨policy, l, []⟩ c m = .ok limit)
    (hlimit' : limitOf ⟨policy', l, []⟩ c' m = .ok limit')
    (hwithin : isBeyond m limit x = false) : isBeyond m limit' x = false := by
  rcases bound_cases policy policy' m with rfl | ⟨hleast, n, n', hbound, hbound'⟩
  · obtain rfl : policy.limits.lintScore = limit := Except.ok.inj hlimit
    obtain rfl : policy'.limits.lintScore = limit' := Except.ok.inj hlimit'
    exact lt_eq_false_of_le_right hlooser.lintScore hwithin
  have hn := hnonneg n hbound
  have hle := hlooser.ceilings m n n' hbound hbound'
  rw [limitOf_whole_eq_ok_iff hbound] at hlimit
  rw [limitOf_whole_eq_ok_iff hbound'] at hlimit'
  rw [isBeyond, hleast, if_neg Bool.false_ne_true] at hwithin ⊢
  cases hscaled : m.isScaled with
  | false =>
      obtain ⟨-, rfl⟩ := by simpa [hscaled] using hlimit
      obtain ⟨-, rfl⟩ := by simpa [hscaled] using hlimit'
      exact ofInt_lt_eq_false_of_le hn hle hwithin
  | true =>
      obtain ⟨-, k, hk, rfl⟩ := by simpa [hscaled] using hlimit
      obtain ⟨-, k', hk', rfl⟩ := by simpa [hscaled] using hlimit'
      exact lt_eq_false_of_le hc hn hle hk hk' hwithin

theorem statedIssues_eq_nil_of_isLooser
    (hnonneg : ∀ n, policy.limits.bound m = .whole n → 0 ≤ n)
    (hmax : ∀ n, policy'.limits.bound m = .whole n → n ≤ 2 ^ 1000) (hc : c.rank ≤ c'.rank)
    (hpasses : statedIssues ⟨policy, l, []⟩ t c values m = .ok []) :
    statedIssues ⟨policy', l, []⟩ t c' values m = .ok [] := by
  unfold statedIssues at hpasses ⊢
  cases hvalue : values.get? m with
  | none => rfl
  | some x =>
      simp only [hvalue, valueIssues_eq_nil_iff] at hpasses ⊢
      obtain ⟨limit, hlimit, hwithin⟩ := hpasses
      obtain ⟨limit', hlimit'⟩ : ∃ limit', limitOf ⟨policy', l, []⟩ c' m = .ok limit' := by
        refine exists_limitOf_eq_ok (fun n' hbound' => ⟨?_, hmax n' hbound'⟩) c'
        rcases bound_cases policy policy' m with rfl | ⟨-, n, k, hbound, hk⟩
        · simp [Limits.bound] at hbound'
        · obtain rfl := Quantity.whole.inj (hk.symm.trans hbound')
          exact (hnonneg n hbound).trans (hlooser.ceilings m n k hbound hk)
      exact ⟨limit', hlimit',
        isBeyond_eq_false_of_isLooser hlooser hnonneg hc hlimit hlimit' hwithin⟩

end Looser

/-- **Looser policies.** A task whose code metrics are found to be right by a policy has the same
verdict by every looser one, with all its references, whatever its values are. Ceilings up to
`2 ^ 1000` cannot keep the check from a result. -/
theorem run_kpi_eq_of_isLooser {given : Value} {policy policy' : Policy} {l : TaskList} {t : Task}
    {v : Verdict} (hpolicy : Policy.ofValue given = .ok policy)
    (hlooser : policy'.IsLooser policy)
    (hmax : ∀ m n, policy'.limits.bound m = .whole n → n ≤ 2 ^ 1000)
    (hrun : kpi.run t ⟨policy, l, []⟩ = .ok v) (hvalid : v.valid = true) :
    kpi.run t ⟨policy', l, []⟩ = .ok v := by
  rcases issues_cases l t with ⟨result, hsame⟩ | ⟨values, hvalues⟩
  · rw [← hrun]
    exact congrArg (·.map Verdict.ofIssues) ((hsame policy' []).trans (hsame policy []).symm)
  obtain ⟨found, hfound, rfl⟩ := map_eq_ok_iff.1 hrun
  rw [hvalues, bind_eq_ok_iff] at hfound
  obtain ⟨c, hc, hfound⟩ := hfound
  obtain rfl := eq_nil_of_noErrors hfound ((Verdict.valid_ofIssues_iff _).1 hvalid)
  obtain ⟨c', hc', hrank⟩ := exists_complexity_eq_ok hlooser hc
  have hnone : allValueIssues ⟨policy', l, []⟩ t c' values Metric.all = .ok [] := by
    refine allValueIssues_eq_nil_iff.2 fun m hm => ?_
    exact statedIssues_eq_nil_of_isLooser hlooser (fun _ => Policy.bound_nonneg hpolicy) (hmax m)
      hrank (allValueIssues_eq_nil_iff.1 hfound m hm)
  exact map_eq_ok_iff.2 ⟨[], by rw [hvalues, hc']; exact hnone, rfl⟩

/-- A task of the web layer that states four functions in a module. -/
def fourFunctionsOfPages : Task := { fourFunctions with category := some "web_layer" }

/-- A policy that takes the tasks of the web layer for critical ones. -/
def policyOfPages : Policy :=
  { policyOfFunctions 6 with
    limits := { (policyOfFunctions 6).limits with lintScore := ofInt 7 }
    categoryComplexity := Policy.standard.categoryComplexity.insert "web_layer" .critical }

theorem isLooser_policyOfPages : policyOfPages.IsLooser (policyOfFunctions 4) where
  ceilings m n n' hbound hbound' := by
    cases m with
    | lintScore => cases hbound
    | _ =>
        obtain rfl := Quantity.whole.inj hbound
        obtain rfl := Quantity.whole.inj hbound'
        decide
  lintScore := by decide +kernel
  complexities category := by
    simp only [Policy.complexityOf, policyOfPages, policyOfFunctions, Catalog.find?_insert]
    split
    · cases (Policy.standard.categoryComplexity.find? category).getD .simple <;> decide
    · exact le_rfl

theorem run_kpi_eq_of_isLooser_fourFunctionsOfPages :
    Policy.ofValue (.map [("max_functions_per_module", .int 4)]) = .ok (policyOfFunctions 4) ∧
    policyOfPages.IsLooser (policyOfFunctions 4) ∧
    (∀ m n, policyOfPages.limits.bound m = .whole n → n ≤ 2 ^ 1000) ∧
    ∃ v, v.valid = true ∧
      kpi.run fourFunctionsOfPages ⟨policyOfFunctions 4, default, []⟩ = .ok v ∧
      kpi.run fourFunctionsOfPages ⟨policyOfPages, default, []⟩ = .ok v := by
  have hpolicy : Policy.ofValue (.map [("max_functions_per_module", .int 4)]) =
      .ok (policyOfFunctions 4) := rfl
  have hmax : ∀ m n, policyOfPages.limits.bound m = .whole n → n ≤ 2 ^ 1000 := by
    intro m n hbound
    cases m with
    | lintScore => cases hbound
    | _ =>
        obtain rfl := Quantity.whole.inj hbound
        exact le_of_le_two_pow (by decide)
  have hpasses : kpi.Passes fourFunctionsOfPages ⟨policyOfFunctions 4, default, []⟩ :=
    .of_toOption (by decide +kernel)
  obtain ⟨v, hrun, hvalid⟩ := hpasses
  exact ⟨hpolicy, isLooser_policyOfPages, hmax, v, hvalid, hrun,
    run_kpi_eq_of_isLooser hpolicy isLooser_policyOfPages hmax hrun hvalid⟩

end Check.Kpi

end TaskAudit
