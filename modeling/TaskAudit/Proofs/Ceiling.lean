import TaskAudit.Policy.Shape
import TaskAudit.Proofs.Kinds
import TaskAudit.Proofs.Rounding
import TaskAudit.Proofs.Soundness

/-!
# Ceilings of code metrics

A ceiling is scaled by the complexity of a task and rounded, so a greater one leaves room for no
fewer values. Options replace ceilings of the policy, for better or worse: what passes with them has
errors without them only where the policy's own ceiling is the lower one.
-/

namespace TaskAudit

open Binary64

/-! ### The factor of a complexity -/

namespace Complexity

variable {c c' : Complexity}

/-- How many halves of a ceiling its scale makes of it. -/
def halves : Complexity → ℕ
  | simple => 2
  | medium => 3
  | complex => 4
  | critical => 6

theorem factor_eq (c : Complexity) : c.factor = ofRatio false c.halves 2 := by
  cases c <;> decide +kernel

theorem halves_mono (h : c.rank ≤ c'.rank) : c.halves ≤ c'.halves := by
  cases c <;> cases c' <;> revert h <;> decide

theorem size_factor_mono (h : c.rank ≤ c'.rank) : c.factor.size ≤ c'.factor.size := by
  have hhalves := halves_mono h
  rw [factor_eq, factor_eq]
  exact size_ofRatio_mono two_pos two_pos (by gcongr)

end Complexity

namespace Check.Kpi

/-! ### Scaled ceilings -/

section Scaled

variable {base base' x : Binary64} {c c' : Complexity} {k n p : ℤ}

theorem isNegative_mul_factor (hbase : base.isNegative = false) (c : Complexity) :
    (base.mul c.factor).isNegative = false :=
  isNegative_mul hbase (by cases c <;> decide +kernel)

theorem isNegative_half : half.isNegative = false := by decide +kernel

/-- A scaled ceiling is the integer part of the number that is computed for it, if that is
finite. -/
theorem scaledLimit_eq_ok_iff (hbase : base.isNegative = false) :
    scaledLimit base c = .ok k ↔ ∃ m e, (base.mul c.factor).add half = finite false m e ∧
      ⌊(m * 2 ^ e : ℚ)⌋ = k := by
  have hsign := isNegative_add (isNegative_mul_factor hbase c) isNegative_half
  unfold scaledLimit
  cases hscaled : (base.mul c.factor).add half with
  | nan => simp
  | infinite s => simp
  | finite s m e =>
      rw [hscaled] at hsign
      obtain rfl : s = false := hsign
      simp [floor?_finite]

/-- Where a ceiling can be scaled, so can a lower one for no greater complexity, and to no greater
number. -/
theorem scaledLimit_mono (hc : c.rank ≤ c'.rank) (hbase : base.isNegative = false)
    (hbase' : base'.isNegative = false) (hle : base.size ≤ base'.size)
    (h : scaledLimit base' c' = .ok n) : ∃ k, scaledLimit base c = .ok k ∧ 0 ≤ k ∧ k ≤ n := by
  obtain ⟨m', e', hscaled', rfl⟩ := (scaledLimit_eq_ok_iff hbase').1 h
  have hsize : ((base.mul c.factor).add half).size ≤ ((base'.mul c'.factor).add half).size :=
    size_add_mono (isNegative_mul_factor hbase c) isNegative_half
      (isNegative_mul_factor hbase' c') isNegative_half
      (size_mul_mono hle (Complexity.size_factor_mono hc)) le_rfl
  have hsign := isNegative_add (isNegative_mul_factor hbase c) isNegative_half
  rw [hscaled'] at hsize
  have hfinite : (finite false m' e').size ≠ ⊤ := WithTop.coe_ne_top
  obtain ⟨s, m, e, hscaled⟩ := exists_finite_of_size_ne_top (ne_top_of_le_ne_top hfinite hsize)
  rw [hscaled] at hsign hsize
  obtain rfl : s = false := hsign
  refine ⟨⌊(m * 2 ^ e : ℚ)⌋, (scaledLimit_eq_ok_iff hbase).2 ⟨m, e, hscaled, rfl⟩, ?_, ?_⟩
  · exact Int.floor_nonneg.2 (by positivity)
  · exact Int.floor_le_floor (WithTop.coe_le_coe.1 hsize)

theorem isNegative_ofInt (hn : 0 ≤ n) : (ofInt n).isNegative = false := by
  rw [ofInt, isNegative_ofRatio]
  exact decide_eq_false (by omega)

theorem numberOfInt_eq_ok_iff : numberOfInt n = .ok x ↔ x = ofInt n ∧ x.size ≠ ⊤ := by
  have hcases : ofInt n = infinite (n < 0) ∨ ∃ m e, ofInt n = finite (n < 0) m e :=
    ofRatio_cases _ _ _
  rcases hcases with h | ⟨m, e, h⟩
  · simp only [numberOfInt, ofInt?, h, reduceCtorEq, false_iff, not_and, not_not]
    rintro rfl
    rfl
  · simp only [numberOfInt, ofInt?, h, Except.ok.injEq]
    constructor
    · rintro rfl
      exact ⟨rfl, WithTop.coe_ne_top⟩
    · exact fun heq => heq.1.symm

theorem ofInt_lt_eq_false_of_le (hn : 0 ≤ n) (hle : n ≤ p) (h : (ofInt n).lt x = false) :
    (ofInt p).lt x = false :=
  not_lt_of_size_le (isNegative_ofInt hn) (isNegative_ofInt (hn.trans hle))
    (size_ofInt_mono hn hle) h

/-- A value within a ceiling is within a greater one, for a task of no smaller complexity. -/
theorem lt_eq_false_of_le (hc : c.rank ≤ c'.rank) (hn : 0 ≤ n) (hle : n ≤ p) {limit limit' : ℤ}
    (hlimit : scaledLimit (ofInt n) c = .ok limit)
    (hlimit' : scaledLimit (ofInt p) c' = .ok limit')
    (h : (ofInt limit).lt x = false) : (ofInt limit').lt x = false := by
  obtain ⟨k, hk, hnonneg, hkle⟩ := scaledLimit_mono hc (isNegative_ofInt hn)
    (isNegative_ofInt (hn.trans hle)) (size_ofInt_mono hn hle) hlimit'
  obtain rfl : limit = k := Except.ok.inj (hlimit.symm.trans hk)
  exact ofInt_lt_eq_false_of_le hnonneg hkle h

theorem le_of_le_two_pow (hle : n ≤ 2 ^ 50) : n ≤ 2 ^ 1000 :=
  hle.trans (pow_le_pow_right₀ one_le_two (by decide))

/-- Ceilings far below the range of numbers can all be scaled. -/
theorem exists_scaledLimit_ofInt (hnonneg : 0 ≤ n) (hle : n ≤ 2 ^ 1000) (c : Complexity) :
    (ofInt n).size ≠ ⊤ ∧ ∃ limit, scaledLimit (ofInt n) c = .ok limit := by
  have hmax : (ofInt (2 ^ 1000)).size ≠ ⊤ := by
    have hfinite : ofInt (2 ^ 1000) = finite false (2 ^ 52) 948 := by decide +kernel
    rw [hfinite]
    exact WithTop.coe_ne_top
  have hlimit : (scaledLimit (ofInt (2 ^ 1000)) c).toOption.isSome = true := by
    cases c <;> decide +kernel
  have hsize := size_ofInt_mono hnonneg hle
  obtain ⟨limit, hlimit⟩ := Option.isSome_iff_exists.1 hlimit
  obtain ⟨k, hk, -⟩ := scaledLimit_mono le_rfl (isNegative_ofInt hnonneg)
    (isNegative_ofInt (hnonneg.trans hle)) hsize (eq_ok_of_toOption hlimit)
  exact ⟨ne_top_of_le_ne_top hmax hsize, k, hk⟩

end Scaled

/-! ### The bound of a value -/

section Bound

variable {policy : Policy} {l : TaskList} {scope : Scope} {t : Task} {c : Complexity} {m : Metric}
  {x limit : Binary64} {n : ℤ}

/-- The bound of a metric for tasks of some complexity. -/
def limitOf (scope : Scope) (c : Complexity) (m : Metric) : Except Fault Binary64 := do
  let base ← baseLimit scope m
  if m.isScaled then (scaledLimit base c).map ofInt else .ok base

/-- A value is on the wrong side of its bound. -/
def isBeyond (m : Metric) (limit x : Binary64) : Bool :=
  if m.isLeast then x.lt limit else limit.lt x

/-- A value beyond its bound has one issue, which shows both. -/
theorem valueIssues_eq_map : valueIssues scope t c m x = (limitOf scope c m).map fun limit =>
    if isBeyond m limit x then [.invalidKpiValue t.id m.label (.ofNumber x) (.ofNumber limit)
      m.isLeast (if m.isLeast then none else some c.name)] else [] := by
  have hleast : m.isLeast = true → m.isScaled = false := by
    cases m <;> decide
  rw [valueIssues, limitOf]
  cases baseLimit scope m with
  | error fault => rfl
  | ok base =>
      cases h : m.isLeast with
      | true =>
          simp only [isBeyond, h, hleast h]
          rfl
      | false =>
          cases m.isScaled with
          | false =>
              simp only [isBeyond, h]
              rfl
          | true =>
              simp only [isBeyond, h]
              cases scaledLimit base c <;> rfl

theorem valueIssues_eq_nil_iff : valueIssues scope t c m x = .ok [] ↔
    ∃ limit, limitOf scope c m = .ok limit ∧ isBeyond m limit x = false := by
  rw [valueIssues_eq_map, map_eq_ok_iff]
  refine exists_congr fun limit => and_congr_right fun _ => ?_
  cases isBeyond m limit x <;> simp

theorem baseLimit_nil : baseLimit ⟨policy, l, []⟩ m = numberOf (policy.limits.bound m) := by
  rw [baseLimit]
  cases m.option? <;> rfl

theorem limitOf_whole_eq_ok_iff (hbound : policy.limits.bound m = .whole n) :
    limitOf ⟨policy, l, []⟩ c m = .ok limit ↔ (ofInt n).size ≠ ⊤ ∧
      if m.isScaled then ∃ k, scaledLimit (ofInt n) c = .ok k ∧ ofInt k = limit
      else ofInt n = limit := by
  rw [limitOf, baseLimit_nil, hbound, numberOf, bind_eq_ok_iff]
  simp only [numberOfInt_eq_ok_iff, and_assoc, exists_eq_left]
  refine and_congr_right fun _ => ?_
  cases m.isScaled with
  | false => simp
  | true => simp [map_eq_ok_iff]

/-- Ceilings far below the range of numbers bound every value. -/
theorem exists_limitOf_eq_ok
    (h : ∀ n, policy.limits.bound m = .whole n → 0 ≤ n ∧ n ≤ 2 ^ 1000) (c : Complexity) :
    ∃ limit, limitOf ⟨policy, l, []⟩ c m = .ok limit := by
  rw [limitOf, baseLimit_nil]
  cases hbound : policy.limits.bound m with
  | real x =>
      have hlint : m = .lintScore := by
        cases m <;> simp [Limits.bound] at hbound ⊢
      subst hlint
      exact ⟨x, rfl⟩
  | whole n =>
      obtain ⟨hnonneg, hle⟩ := h n hbound
      obtain ⟨hsize, limit, hlimit⟩ := exists_scaledLimit_ofInt hnonneg hle c
      rw [numberOf, numberOfInt_eq_ok_iff.2 ⟨rfl, hsize⟩]
      cases m.isScaled with
      | false => exact ⟨ofInt n, rfl⟩
      | true => exact ⟨ofInt limit, bind_eq_ok_iff.2 ⟨_, rfl, map_eq_ok_iff.2 ⟨limit, hlimit, rfl⟩⟩⟩

end Bound

/-! ### The values of all metrics -/

section Values

variable {scope : Scope} {t : Task} {c : Complexity} {values : Values} {ms : List Metric}
  {found : List Issue}

/-- The issues of the value that a metric has, if it has one. -/
def statedIssues (scope : Scope) (t : Task) (c : Complexity) (values : Values) (m : Metric) :
    Except Fault (List Issue) :=
  match values.get? m with
  | some x => valueIssues scope t c m x
  | none => .ok []

theorem allValueIssues_cons (m : Metric) : allValueIssues scope t c values (m :: ms) = do
    let part ← statedIssues scope t c values m
    return part ++ (← allValueIssues scope t c values ms) := by
  rw [allValueIssues, statedIssues]
  cases values.get? m <;> rfl

theorem allValueIssues_eq_ok_iff : allValueIssues scope t c values ms = .ok found ↔
    ∃ parts : List (List Issue),
      ms.map (statedIssues scope t c values) = parts.map .ok ∧ parts.flatten = found := by
  induction ms generalizing found with
  | nil => simp [allValueIssues]
  | cons m ms ih =>
      simp only [allValueIssues_cons, bind_eq_ok_iff, ih]
      constructor
      · rintro ⟨part, hpart, _, ⟨parts, hparts, rfl⟩, hfound⟩
        exact ⟨part :: parts, by simp [hpart, hparts], Except.ok.inj hfound⟩
      · rintro ⟨parts, hparts, rfl⟩
        cases parts with
        | nil => simp at hparts
        | cons part parts =>
            obtain ⟨hpart, hparts⟩ := List.cons.inj hparts
            exact ⟨part, hpart, _, ⟨parts, hparts, rfl⟩, rfl⟩

theorem allValueIssues_eq_nil_iff : allValueIssues scope t c values ms = .ok [] ↔
    ∀ m ∈ ms, statedIssues scope t c values m = .ok [] := by
  induction ms with
  | nil => simp [allValueIssues]
  | cons m ms ih =>
      simp only [allValueIssues_cons, bind_eq_ok_iff, List.forall_mem_cons, ← ih]
      constructor
      · rintro ⟨part, hpart, more, hmore, happend⟩
        obtain ⟨rfl, rfl⟩ := List.append_eq_nil_iff.1 (Except.ok.inj happend)
        exact ⟨hpart, hmore⟩
      · rintro ⟨hpart, hmore⟩
        exact ⟨[], hpart, [], hmore, rfl⟩

theorem exists_statedIssues_of_mem (h : allValueIssues scope t c values ms = .ok found) {i : Issue}
    (hi : i ∈ found) : ∃ m part, statedIssues scope t c values m = .ok part ∧ i ∈ part := by
  obtain ⟨parts, hparts, rfl⟩ := allValueIssues_eq_ok_iff.1 h
  obtain ⟨part, hpart, hi⟩ := List.mem_flatten.1 hi
  have hmem : .ok part ∈ ms.map (statedIssues scope t c values) :=
    hparts ▸ List.mem_map_of_mem hpart
  obtain ⟨m, -, heq⟩ := List.mem_map.1 hmem
  exact ⟨m, part, heq, hi⟩

theorem exists_allValueIssues_eq_ok
    (h : ∀ m ∈ ms, ∃ part, statedIssues scope t c values m = .ok part) :
    ∃ found, allValueIssues scope t c values ms = .ok found := by
  induction ms with
  | nil => exact ⟨[], rfl⟩
  | cons m ms ih =>
      obtain ⟨⟨part, hpart⟩, hms⟩ := List.forall_mem_cons.1 h
      obtain ⟨more, hmore⟩ := ih hms
      exact ⟨part ++ more, by rw [allValueIssues_cons, hpart, hmore]; rfl⟩

end Values

/-! ### Bounds with and without options -/

section Replaced

variable {policy : Policy} {l : TaskList} {s : Settings} {t : Task} {c : Complexity} {m : Metric}
  {x : Binary64} {found more : List Issue} {values : Values} {n p : ℤ}

/-- Every ceiling that settings put in the place of one of the policy's is a natural number. -/
def HasCeilings (s : Settings) : Prop :=
  ∀ (m : Metric) v, m.option?.bind s.get? = some v → ∃ n : ℤ, 0 ≤ n ∧ v = .int n

theorem eq_of_mem_strict {settings : Settings} (h : ("kpi", settings) ∈ Preset.strictSettings) :
    settings = [("max_functions_per_module", .int 5), ("max_lines_per_function", .int 10),
      ("max_call_depth", .int 3)] := by
  simpa [Preset.strictSettings] using h

theorem hasCeilings_strict {settings : Settings}
    (h : ("kpi", settings) ∈ Preset.strictSettings) : HasCeilings settings := by
  obtain rfl := eq_of_mem_strict h
  intro m v hv
  cases m <;> simp [Metric.option?, Settings.get?, Catalog.get?] at hv <;>
    exact ⟨_, by decide, hv.symm⟩

/-- A metric whose ceiling by the policy is below the one that settings put in its place. -/
def IsLoosened (policy : Policy) (s : Settings) (m : Metric) : Prop :=
  ∃ n p, m.option?.bind s.get? = some (.int n) ∧ policy.limits.bound m = .whole p ∧ p < n

/-- A metric whose ceiling an option may replace is one that is scaled. -/
theorem scaled_of_option? (policy : Policy) {v : Value} (h : m.option?.bind s.get? = some v) :
    m.isLeast = false ∧ m.isScaled = true ∧ ∃ p, policy.limits.bound m = .whole p := by
  cases m <;> simp [Metric.option?] at h <;> exact ⟨rfl, rfl, _, rfl⟩

theorem valueIssues_eq_ok_iff {scope : Scope} (hleast : m.isLeast = false)
    (hscaled : m.isScaled = true) : valueIssues scope t c m x = .ok found ↔
      ∃ base limit, baseLimit scope m = .ok base ∧ scaledLimit base c = .ok limit ∧
        found = if (ofInt limit).lt x then [.invalidKpiValue t.id m.label (.ofNumber x)
          (.ofNumber (ofInt limit)) false (some c.name)] else [] := by
  simp only [valueIssues, hleast, hscaled, Bool.false_eq_true, if_false, if_true, bind_eq_ok_iff,
    map_eq_ok_iff]
  constructor
  · rintro ⟨base, hbase, limit, ⟨k, hk, rfl⟩, hfound⟩
    exact ⟨base, k, hbase, hk, (Except.ok.inj hfound).symm⟩
  · rintro ⟨base, k, hbase, hk, rfl⟩
    exact ⟨base, hbase, _, ⟨k, hk, rfl⟩, rfl⟩

theorem baseLimit_of_some (h : m.option?.bind s.get? = some (.int n)) :
    baseLimit ⟨policy, l, s⟩ m = numberOfInt n := by
  simp only [baseLimit, h, numberOfValue]

/-- Only the three ceilings with options are a matter of settings. -/
theorem valueIssues_of_none (h : m.option?.bind s.get? = none) :
    valueIssues ⟨policy, l, s⟩ t c m x = valueIssues ⟨policy, l, []⟩ t c m x := by
  have hbase : baseLimit ⟨policy, l, s⟩ m = baseLimit ⟨policy, l, []⟩ m := by
    rw [baseLimit_nil, baseLimit, h]
  rw [valueIssues, valueIssues, hbase]

theorem statedIssues_of_none (h : m.option?.bind s.get? = none) :
    statedIssues ⟨policy, l, s⟩ t c values m = statedIssues ⟨policy, l, []⟩ t c values m := by
  simp only [statedIssues, valueIssues_of_none h]

/-- A value is judged where the ceiling of its metric can be scaled. -/
theorem exists_statedIssues_of_bound
    (h : ∀ p, policy.limits.bound m = .whole p → 0 ≤ p ∧ p ≤ 2 ^ 1000) :
    ∃ found, statedIssues ⟨policy, l, []⟩ t c values m = .ok found := by
  rw [statedIssues]
  cases values.get? m with
  | none => exact ⟨[], rfl⟩
  | some x =>
      obtain ⟨limit, hlimit⟩ := exists_limitOf_eq_ok h c (l := l)
      simp only [valueIssues_eq_map, hlimit]
      exact ⟨_, rfl⟩

/-- Where the ceilings that options replace can be scaled, the check comes to a result without
options if it does with them. -/
theorem exists_statedIssues_eq_ok
    (hpasses : statedIssues ⟨policy, l, s⟩ t c values m = .ok [])
    (hbound : ∀ p, m.option?.isSome = true → policy.limits.bound m = .whole p →
      0 ≤ p ∧ p ≤ 2 ^ 1000) :
    ∃ found, statedIssues ⟨policy, l, []⟩ t c values m = .ok found := by
  cases hoption : m.option?.bind s.get? with
  | none => exact ⟨[], by rwa [statedIssues_of_none hoption] at hpasses⟩
  | some v =>
      have hsome : m.option?.isSome = true := by
        obtain ⟨option, hm, -⟩ := Option.bind_eq_some_iff.1 hoption
        rw [hm, Option.isSome_some]
      exact exists_statedIssues_of_bound fun p => hbound p hsome

variable (hs : HasCeilings s)

include hs

/-- A value that passes with options passes without them, unless the policy's ceiling is lower. -/
theorem eq_nil_of_not_isLoosened (hnot : ¬ IsLoosened policy s m)
    (hpasses : valueIssues ⟨policy, l, s⟩ t c m x = .ok [])
    (hfound : valueIssues ⟨policy, l, []⟩ t c m x = .ok found) : found = [] := by
  cases hoption : m.option?.bind s.get? with
  | none =>
      rw [← valueIssues_of_none hoption, hpasses] at hfound
      exact (Except.ok.inj hfound).symm
  | some v =>
      obtain ⟨n, hn, rfl⟩ := hs m v hoption
      obtain ⟨hleast, hscaled, p, hp⟩ := scaled_of_option? policy hoption
      have hle : n ≤ p := not_lt.1 fun hlt => hnot ⟨n, p, hoption, hp, hlt⟩
      rw [valueIssues_eq_ok_iff hleast hscaled] at hpasses hfound
      obtain ⟨base, limit, hbase, hlimit, hwithin⟩ := hpasses
      obtain ⟨base', limit', hbase', hlimit', rfl⟩ := hfound
      rw [baseLimit_of_some hoption, numberOfInt_eq_ok_iff] at hbase
      rw [baseLimit_nil, hp, numberOf, numberOfInt_eq_ok_iff] at hbase'
      obtain ⟨rfl, -⟩ := hbase
      obtain ⟨rfl, -⟩ := hbase'
      have hlt : (ofInt limit).lt x = false := by
        by_contra htrue
        rw [Bool.not_eq_false] at htrue
        simp [htrue] at hwithin
      rw [lt_eq_false_of_le le_rfl hn hle hlimit hlimit' hlt]
      rfl

/-- What is found without options and not with them has to do with a lower ceiling of the
policy. -/
theorem exists_isLoosened_of_mem
    (hpasses : statedIssues ⟨policy, l, s⟩ t c values m = .ok [])
    (hfound : statedIssues ⟨policy, l, []⟩ t c values m = .ok found) {i : Issue} (hi : i ∈ found) :
    IsLoosened policy s m ∧
      ∃ value limit, i = .invalidKpiValue t.id m.label value limit false (some c.name) := by
  unfold statedIssues at hpasses hfound
  cases hvalue : values.get? m with
  | none =>
      simp only [hvalue, Except.ok.injEq] at hfound
      simp [← hfound] at hi
  | some x =>
      simp only [hvalue] at hpasses hfound
      have hloosened : IsLoosened policy s m := by
        by_contra hnot
        simp [eq_nil_of_not_isLoosened hs hnot hpasses hfound] at hi
      obtain ⟨n, p, hoption, -⟩ := id hloosened
      obtain ⟨hleast, hscaled, -⟩ := scaled_of_option? policy hoption
      obtain ⟨base, limit, -, -, rfl⟩ := (valueIssues_eq_ok_iff hleast hscaled).1 hfound
      exact ⟨hloosened, _, _, eq_of_mem_ite_singleton hi⟩

end Replaced

/-- Policy and settings have no say in what is found of a task, or only in the bounds of its
values. -/
theorem issues_cases (l : TaskList) (t : Task) :
    (∃ result, ∀ policy s, issues t ⟨policy, l, s⟩ = result) ∨
    ∃ values, ∀ policy s, issues t ⟨policy, l, s⟩ = complexity policy t >>= fun c =>
      allValueIssues ⟨policy, l, s⟩ t c values Metric.all := by
  simp only [issues, Scope.references]
  split
  · exact .inl ⟨_, fun _ _ => rfl⟩
  split
  · exact .inl ⟨_, fun _ _ => rfl⟩
  split
  · exact .inl ⟨_, fun _ _ => rfl⟩
  · exact .inr ⟨_, fun _ _ => rfl⟩

/-- A check of values without errors has no issues at all. -/
theorem eq_nil_of_noErrors {scope : Scope} {t : Task} {c : Complexity} {values : Values}
    {ms : List Metric} {found : List Issue} (h : allValueIssues scope t c values ms = .ok found)
    (hclean : NoErrors found) : found = [] := by
  rw [List.eq_nil_iff_forall_not_mem]
  intro i hi
  obtain ⟨m, -, value, limit, least, word, rfl⟩ := isValueIssue_of_mem_allValueIssues h hi
  exact absurd (hclean _ hi) Bool.false_ne_true

section Passes

variable {policy : Policy} {l : TaskList} {s : Settings} {t : Task}

/-- A check that passes with ceilings of settings either comes to the same without them, or has
nothing to find fault with in any value. -/
theorem cases_of_passes (hpasses : kpi.Passes t ⟨policy, l, s⟩) :
    kpi.Passes t ⟨policy, l, []⟩ ∨ ∃ c values,
      issues t ⟨policy, l, []⟩ = allValueIssues ⟨policy, l, []⟩ t c values Metric.all ∧
      ∀ m, statedIssues ⟨policy, l, s⟩ t c values m = .ok [] := by
  obtain ⟨v, hv, hvalid⟩ := id hpasses
  rcases issues_cases l t with ⟨result, hsame⟩ | ⟨values, hvalues⟩
  · refine .inl ⟨v, ?_, hvalid⟩
    rw [← hv]
    exact congrArg (·.map Verdict.ofIssues) ((hsame policy []).trans (hsame policy s).symm)
  · obtain ⟨found, hfound, rfl⟩ := map_eq_ok_iff.1 hv
    rw [hvalues, bind_eq_ok_iff] at hfound
    obtain ⟨c, hc, hfound⟩ := hfound
    obtain rfl := eq_nil_of_noErrors hfound ((Verdict.valid_ofIssues_iff _).1 hvalid)
    exact .inr ⟨c, values, by rw [hvalues, hc]; rfl, fun m =>
      allValueIssues_eq_nil_iff.1 hfound m m.mem_all⟩

theorem isLoosened_of_mem_errors (hs : HasCeilings s) (hpasses : kpi.Passes t ⟨policy, l, s⟩)
    {v : Verdict} (hv : kpi.run t ⟨policy, l, []⟩ = .ok v) {i : Issue} (hi : i ∈ v.errors) :
    ∃ m value limit c, IsLoosened policy s m ∧
      i = .invalidKpiValue t.id m.label value limit false (some c) := by
  obtain ⟨found, hfound, rfl⟩ := map_eq_ok_iff.1 hv
  rcases cases_of_passes hpasses with ⟨w, hw, hvalid⟩ | ⟨c, values, hvalues, hstated⟩
  · obtain rfl := Except.ok.inj (hv.symm.trans hw)
    rw [(Verdict.isConsistent_ofIssues found).errors_eq_nil hvalid] at hi
    exact absurd hi List.not_mem_nil
  · rw [hvalues] at hfound
    obtain ⟨m, part, hpart, hi⟩ := exists_statedIssues_of_mem hfound (List.mem_filter.1 hi).1
    obtain ⟨hloosened, value, limit, heq⟩ :=
      exists_isLoosened_of_mem hs (hstated m) hpart hi
    exact ⟨m, value, limit, c.name, hloosened, heq⟩

theorem exists_run_eq_ok (hpasses : kpi.Passes t ⟨policy, l, s⟩)
    (hbound : ∀ m p, m.option?.isSome = true → policy.limits.bound m = .whole p →
      0 ≤ p ∧ p ≤ 2 ^ 1000) : ∃ v, kpi.run t ⟨policy, l, []⟩ = .ok v := by
  rcases cases_of_passes hpasses with ⟨w, hw, -⟩ | ⟨c, values, hvalues, hstated⟩
  · exact ⟨w, hw⟩
  · obtain ⟨found, hfound⟩ := exists_allValueIssues_eq_ok fun m (_ : m ∈ Metric.all) =>
      exists_statedIssues_eq_ok (hstated m) (hbound m)
    exact ⟨.ofIssues found, map_eq_ok_iff.2 ⟨found, hvalues.trans hfound, rfl⟩⟩

end Passes

/-- The strict preset loosens no ceiling of the policy that is at least its own. -/
theorem lt_of_isLoosened_strict {policy : Policy} {settings : Settings} {m : Metric}
    (hsettings : ("kpi", settings) ∈ Preset.strictSettings) (h : IsLoosened policy settings m) :
    policy.limits.functionsPerModule < 5 ∨ policy.limits.linesPerFunction < 10 ∨
      policy.limits.callDepth < 3 := by
  obtain rfl := eq_of_mem_strict hsettings
  obtain ⟨n, p, hn, hp, hlt⟩ := h
  cases m <;>
    simp [Metric.option?, Settings.get?, Catalog.get?, Limits.bound] at hn hp <;> omega

/-- **Ceilings of the strict preset.** They replace those of the policy. A task that passes the
check of code quality by them has errors by the policy's own ceilings only in metrics whose own
ceiling is the lower one, so none where none is. And the check comes to a result by the policy's
ceilings wherever they are natural numbers up to `2 ^ 1000`. -/
theorem errors_by_policy_of_strict {policy : Policy} {l : TaskList} {t : Task}
    {settings : Settings} (hsettings : ("kpi", settings) ∈ Preset.strictSettings)
    (hpasses : kpi.Passes t ⟨policy, l, settings⟩) :
    (∀ v, kpi.run t ⟨policy, l, []⟩ = .ok v →
      (∀ i ∈ v.errors, ∃ m value limit c, IsLoosened policy settings m ∧
        i = .invalidKpiValue t.id m.label value limit false (some c)) ∧
      (5 ≤ policy.limits.functionsPerModule → 10 ≤ policy.limits.linesPerFunction →
        3 ≤ policy.limits.callDepth → v.valid = true)) ∧
    ((∀ n ∈ [policy.limits.functionsPerModule, policy.limits.linesPerFunction,
        policy.limits.callDepth], 0 ≤ n ∧ n ≤ 2 ^ 1000) →
      ∃ v, kpi.run t ⟨policy, l, []⟩ = .ok v) := by
  have hs := hasCeilings_strict hsettings
  refine ⟨fun v hv => ⟨fun i => isLoosened_of_mem_errors hs hpasses hv, ?_⟩, fun hbounds => ?_⟩
  · intro hfunctions hlines hdepth
    obtain ⟨issues, rfl⟩ := reportsIssues_kpi t _ v hv
    rw [Verdict.isConsistent_ofIssues, List.isEmpty_iff, List.eq_nil_iff_forall_not_mem]
    intro i hi
    obtain ⟨m, -, -, -, hloosened, -⟩ := isLoosened_of_mem_errors hs hpasses hv hi
    have hlt := lt_of_isLoosened_strict hsettings hloosened
    omega
  · refine exists_run_eq_ok hpasses fun m p hoption hp => hbounds p ?_
    cases m <;> simp [Metric.option?, Limits.bound] at hoption hp <;> simp [hp]

/-- A task that states four functions in a module. -/
def fourFunctions : Task :=
  { (default : Task) with
    id := "AB0001"
    content := ["**Code Quality KPIs**", "- Functions per module: 4", "- Lines per function: 1",
      "- Call depth: 1"] }

/-- The standard policy but for the number of functions in a module. -/
def policyOfFunctions (n : ℤ) : Policy :=
  { Policy.standard with limits := { Policy.standard.limits with functionsPerModule := n } }

theorem errors_by_policy_of_strict_fourFunctions : ∃ settings,
    ("kpi", settings) ∈ Preset.strictSettings ∧
    kpi.Passes fourFunctions ⟨policyOfFunctions 5, default, settings⟩ ∧
    kpi.Passes fourFunctions ⟨policyOfFunctions 5, default, []⟩ := by
  obtain ⟨settings, hsettings, hrun⟩ : ∃ settings, ("kpi", settings) ∈ Preset.strictSettings ∧
      (kpi.run fourFunctions ⟨policyOfFunctions 5, default, settings⟩).toOption.map (·.valid) =
        some true :=
    ⟨_, List.mem_of_getLast? rfl, by decide +kernel⟩
  have hpasses := Passes.of_toOption hrun
  obtain ⟨herrors, hresult⟩ := errors_by_policy_of_strict hsettings hpasses
  obtain ⟨v, hv⟩ := hresult (by decide +kernel)
  obtain ⟨-, hvalid⟩ := herrors v hv
  exact ⟨settings, hsettings, hpasses, v, hv, hvalid (by decide) (by decide) (by decide)⟩

/-- The ceilings of the strict preset may be above those of a policy. -/
theorem exists_strict_passes_not_default : ∃ settings v,
    ("kpi", settings) ∈ Preset.strictSettings ∧
    Policy.ofValue (.map [("max_functions_per_module", .int 2)]) = .ok (policyOfFunctions 2) ∧
    kpi.Passes fourFunctions ⟨policyOfFunctions 2, default, settings⟩ ∧
    kpi.run fourFunctions ⟨policyOfFunctions 2, default, []⟩ = .ok v ∧ v.valid = false := by
  have hrun : (kpi.run fourFunctions ⟨policyOfFunctions 2, default, []⟩).toOption.map (·.valid) =
      some false := by
    decide +kernel
  obtain ⟨v, hv, hinvalid⟩ := Option.map_eq_some_iff.1 hrun
  refine ⟨_, v, List.mem_of_getLast? rfl, rfl, .of_toOption ?_, eq_ok_of_toOption hv, hinvalid⟩
  decide +kernel

end Check.Kpi

end TaskAudit
