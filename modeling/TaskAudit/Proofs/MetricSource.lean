import TaskAudit.Proofs.Closure
import TaskAudit.Proofs.ExactCeiling

/-!
# Where the values of metrics come from

Lines behind other lines add values of metrics that have none yet and change no value. So a task
takes the value of a metric from its own section if the section states it, and else from the
reference used first among those that do. What is behind that is not looked at.
-/

namespace TaskAudit

/-! ### First hits in an order -/

section Ordered

variable {α β : Type} {f g : α → Option β} {rank : α → ℕ} {names : List α} {x : β}

/-- In an ordered list the first hit is the hit of least rank. -/
theorem findSome?_eq_some_iff_of_pairwise
    (hordered : names.Pairwise fun a b => rank a < rank b) :
    names.findSome? f = some x ↔ ∃ name ∈ names, f name = some x ∧
      ∀ other ∈ names, (f other).isSome = true → rank name ≤ rank other := by
  constructor
  · intro h
    obtain ⟨before, name, after, rfl, hname, hbefore⟩ := List.findSome?_eq_some_iff.1 h
    rw [List.pairwise_append, List.pairwise_cons] at hordered
    refine ⟨name, by simp, hname, fun other hother hsome => ?_⟩
    simp only [List.mem_append, List.mem_cons] at hother
    rcases hother with hmem | rfl | hmem
    · simp [hbefore other hmem] at hsome
    · exact le_rfl
    · exact (hordered.2.1.1 other hmem).le
  · rintro ⟨name, hname, hvalue, hfirst⟩
    obtain ⟨before, after, rfl⟩ := List.append_of_mem hname
    refine List.findSome?_eq_some_iff.2 ⟨before, name, after, rfl, hvalue, fun other hother => ?_⟩
    have hlt := (List.pairwise_append.1 hordered).2.2 other hother name List.mem_cons_self
    by_contra hsome
    have hle := hfirst other (List.mem_append_left _ hother) (Option.isSome_iff_ne_none.2 hsome)
    omega

/-- A search in an ordered list looks no further than its first hit. -/
theorem findSome?_congr_of_pairwise (hordered : names.Pairwise fun a b => rank a < rank b)
    (h : ∀ name ∈ names, (∀ other ∈ names, (f other).isSome = true → rank name ≤ rank other) →
      f name = g name) : names.findSome? f = names.findSome? g := by
  induction names with
  | nil => rfl
  | cons name names ih =>
      rw [List.pairwise_cons] at hordered
      have hhere : f name = g name := by
        refine h name List.mem_cons_self fun other hother _ => ?_
        rcases List.mem_cons.1 hother with rfl | hmem
        · exact le_rfl
        · exact (hordered.1 other hmem).le
      rw [List.findSome?_cons, List.findSome?_cons, ← hhere]
      cases hvalue : f name with
      | some x => rfl
      | none =>
          -- The name in front is no hit, so it puts no bound on those behind it.
          refine ih hordered.2 fun other hother hfirst => ?_
          refine h other (List.mem_cons_of_mem _ hother) fun hit hmem hsome => ?_
          rcases List.mem_cons.1 hmem with rfl | hmem
          · simp [hvalue] at hsome
          · exact hfirst hit hmem hsome

end Ordered

namespace Check.Kpi

open Document Content

/-! ### Values of more lines -/

/-- Values, and behind them those of others for the metrics that have none yet. -/
def Values.merge (first second : Values) : Values :=
  first ++ second.filter fun entry => (first.get? entry.1).isNone

section Merge

variable {m : Metric} {x : Binary64} {lines : List String}

theorem get?_filter {p : Metric × Binary64 → Bool} (hkept : ∀ x, p (m, x) = true)
    (found : Values) : Values.get? (found.filter p) m = found.get? m := by
  induction found with
  | nil => rfl
  | cons entry found ih =>
      obtain ⟨n, x⟩ := entry
      by_cases h : m = n
      · subst h
        rw [List.filter_cons_of_pos (hkept x), Values.get?_cons, Values.get?_cons, ih]
      · rw [List.filter_cons, Values.get?_cons, if_neg h]
        split
        · rw [Values.get?_cons, if_neg h, ih]
        · exact ih

theorem get?_merge (first second : Values) (m : Metric) :
    (first.merge second).get? m = (first.get? m).or (second.get? m) := by
  rw [Values.merge, Values.get?_append]
  cases hfirst : first.get? m with
  | some x => rw [Option.some_or, Option.some_or]
  | none => rw [get?_filter fun x => Option.isNone_iff_eq_none.2 hfirst]

/-- A line adds to merged values what it adds to the second ones. -/
theorem addValue_merge (line : String) (first second : Values) (m : Metric) :
    addValue line (first.merge second) m = first.merge (addValue line second m) := by
  rw [addValue, addValue, get?_merge]
  -- A metric with a first value gets no other, and its second one is left out.
  cases hfirst : first.get? m <;> cases second.get? m <;> cases valueIn? m line.toList <;>
    simp [Values.merge, List.filter_append, hfirst]

theorem values_append (xs ys : List String) :
    values (xs ++ ys) = (values xs).merge (values ys) := by
  have hnone : (values xs).merge [] = values xs := List.append_nil _
  -- Merging commutes with the loop over metrics, and so with the loop over lines around it.
  have hline : ∀ (found : Values) (line : String),
      Metric.all.foldl (addValue line) ((values xs).merge found) =
        (values xs).merge (Metric.all.foldl (addValue line) found) := fun found line =>
    List.foldl_hom _ (addValue_merge line (values xs))
  calc
    values (xs ++ ys) = ys.foldl (fun found line => Metric.all.foldl (addValue line) found)
        ((values xs).merge []) := by rw [hnone, values, List.foldl_append, values]
    _ = (values xs).merge (values ys) := List.foldl_hom _ hline

theorem get?_values_append (xs ys : List String) (m : Metric) :
    (values (xs ++ ys)).get? m = ((values xs).get? m).or ((values ys).get? m) := by
  rw [values_append, get?_merge]

theorem states_iff : States m lines ↔ ∃ x, Gives m x lines := by
  simp only [← isSome_get?_values_iff, Option.isSome_iff_exists, get?_values_eq_some_iff]

end Merge

/-! ### Sources of values -/

/-- The names between braces in a task's own lines, in the order of the text. -/
def uses (t : Task) : List String := t.ownLines.flatMap Document.references

/-- The section of a task, with some lines, states a metric. -/
structure StatesInline (t : Task) (m : Metric) (lines : List String) : Prop where
  block : sectionBlock? sectionName t.ownLines = some lines
  states : States m lines

/-- A task uses a reference for metrics whose block has lines for them, and these state a
metric. -/
structure Offers (references : References) (t : Task) (m : Metric) (name : String)
    (lines : List String) : Prop where
  used : name ∈ uses t
  named : isKpiName name = true
  block : (references.find? name).map blockLines = some lines
  states : States m lines

/-- A reference for metrics counts for a metric: the task's section does not state it, and no
reference that does is used before. -/
structure IsConsulted (references : References) (t : Task) (m : Metric) (name : String) :
    Prop where
  used : name ∈ uses t
  named : isKpiName name = true
  unstated : ∀ lines, ¬ StatesInline t m lines
  first : ∀ other lines, Offers references t m other lines →
    (uses t).idxOf name ≤ (uses t).idxOf other

/-- The lines that a task takes the value of a metric from: those of its section, or of the
reference used first among those that state it. -/
inductive IsSource (references : References) (t : Task) (m : Metric) : List String → Prop where
  | inline {lines : List String} : StatesInline t m lines → IsSource references t m lines
  | reference {name : String} {lines : List String} : IsConsulted references t m name →
    Offers references t m name lines → IsSource references t m lines

/-- The value that a task has for a metric. -/
def valueOf? (references : References) (t : Task) (m : Metric) : Option Binary64 :=
  (lines? references t).bind fun lines => (values lines).get? m

section Source

variable {references more : References} {t : Task} {m : Metric} {name : String}
  {lines : List String} {x : Binary64}

theorem mem_kpiNames_iff : name ∈ kpiNames t ↔ name ∈ uses t ∧ isKpiName name = true := by
  rw [kpiNames, List.mem_filter, referencesIn, mem_firstSeen, uses]

theorem pairwise_idxOf_kpiNames (t : Task) :
    (kpiNames t).Pairwise fun a b => (uses t).idxOf a < (uses t).idxOf b :=
  (pairwise_idxOf_firstSeen (uses t)).filter _

/-- The value in the section of a task. -/
def inline? (t : Task) (m : Metric) : Option Binary64 :=
  (sectionBlock? sectionName t.ownLines).bind fun lines => (values lines).get? m

/-- The value in the block of a reference. -/
def offered? (references : References) (m : Metric) (name : String) : Option Binary64 :=
  ((references.find? name).map blockLines).bind fun lines => (values lines).get? m

theorem get?_values_blocks (references : References) (names : List String) (m : Metric) :
    (values ((names.filterMap references.find?).flatMap blockLines)).get? m =
      names.findSome? (offered? references m) := by
  induction names with
  | nil => rfl
  | cons name names ih =>
      rw [List.filterMap_cons, List.findSome?_cons, offered?]
      cases references.find? name with
      | none => exact ih
      | some block =>
          rw [List.flatMap_cons, get?_values_append, ih]
          cases hvalue : (values (blockLines block)).get? m <;> simp [hvalue]

theorem valueOf?_eq (references : References) (t : Task) (m : Metric) :
    valueOf? references t m =
      (inline? t m).or ((kpiNames t).findSome? (offered? references m)) := by
  rw [valueOf?, lines?, inline?]
  cases sectionBlock? sectionName t.ownLines with
  | none =>
      cases hnames : kpiNames t with
      | nil => rfl
      | cons name names => simpa [hnames] using get?_values_blocks references (name :: names) m
  | some lines => simp [get?_values_append, get?_values_blocks]

theorem inline?_eq_some_iff : inline? t m = some x ↔
    ∃ lines, sectionBlock? sectionName t.ownLines = some lines ∧ Gives m x lines := by
  simp only [inline?, Option.bind_eq_some_iff, get?_values_eq_some_iff]

theorem inline?_eq_none_iff : inline? t m = none ↔ ∀ lines, ¬ StatesInline t m lines := by
  rw [Option.eq_none_iff_forall_ne_some]
  simp only [ne_eq, inline?_eq_some_iff, not_exists, not_and]
  constructor
  · rintro h lines ⟨hblock, hstates⟩
    obtain ⟨x, hx⟩ := states_iff.1 hstates
    exact h x lines hblock hx
  · exact fun h x lines hblock hx => h lines ⟨hblock, states_iff.2 ⟨x, hx⟩⟩

theorem offered?_eq_some_iff : offered? references m name = some x ↔
    ∃ lines, (references.find? name).map blockLines = some lines ∧ Gives m x lines := by
  simp only [offered?, Option.bind_eq_some_iff, get?_values_eq_some_iff]

theorem isSome_offered?_iff (hname : name ∈ kpiNames t) :
    (offered? references m name).isSome = true ↔ ∃ lines, Offers references t m name lines := by
  obtain ⟨hused, hnamed⟩ := mem_kpiNames_iff.1 hname
  rw [Option.isSome_iff_exists]
  constructor
  · rintro ⟨x, hx⟩
    obtain ⟨lines, hblock, hgives⟩ := offered?_eq_some_iff.1 hx
    exact ⟨lines, hused, hnamed, hblock, states_iff.2 ⟨x, hgives⟩⟩
  · rintro ⟨lines, hoffers⟩
    obtain ⟨x, hx⟩ := states_iff.1 hoffers.states
    exact ⟨x, offered?_eq_some_iff.2 ⟨lines, hoffers.block, hx⟩⟩

theorem Offers.mem_kpiNames (h : Offers references t m name lines) : name ∈ kpiNames t :=
  mem_kpiNames_iff.2 ⟨h.used, h.named⟩

theorem isConsulted_iff : IsConsulted references t m name ↔
    inline? t m = none ∧ name ∈ kpiNames t ∧ ∀ other ∈ kpiNames t,
      (offered? references m other).isSome = true →
        (uses t).idxOf name ≤ (uses t).idxOf other := by
  rw [inline?_eq_none_iff, mem_kpiNames_iff]
  constructor
  · rintro ⟨hused, hnamed, hunstated, hfirst⟩
    refine ⟨hunstated, ⟨hused, hnamed⟩, fun other hother hsome => ?_⟩
    obtain ⟨lines, hoffers⟩ := (isSome_offered?_iff hother).1 hsome
    exact hfirst other lines hoffers
  · rintro ⟨hunstated, ⟨hused, hnamed⟩, hfirst⟩
    refine ⟨hused, hnamed, hunstated, fun other lines hoffers => ?_⟩
    have hother := hoffers.mem_kpiNames
    exact hfirst other hother ((isSome_offered?_iff hother).2 ⟨lines, hoffers⟩)

theorem valueOf?_eq_some_iff : valueOf? references t m = some x ↔
    ∃ lines, IsSource references t m lines ∧ Gives m x lines := by
  rw [valueOf?_eq, Option.or_eq_some_iff,
    findSome?_eq_some_iff_of_pairwise (pairwise_idxOf_kpiNames t)]
  constructor
  · rintro (hinline | ⟨hnone, name, hname, hvalue, hfirst⟩)
    · obtain ⟨lines, hblock, hgives⟩ := inline?_eq_some_iff.1 hinline
      exact ⟨lines, .inline ⟨hblock, states_iff.2 ⟨x, hgives⟩⟩, hgives⟩
    · obtain ⟨lines, hblock, hgives⟩ := offered?_eq_some_iff.1 hvalue
      have hconsulted := isConsulted_iff.2 ⟨hnone, hname, hfirst⟩
      exact ⟨lines, .reference hconsulted ⟨hconsulted.used, hconsulted.named, hblock,
        states_iff.2 ⟨x, hgives⟩⟩, hgives⟩
  · rintro ⟨lines, hsource, hgives⟩
    cases hsource with
    | inline h => exact .inl (inline?_eq_some_iff.2 ⟨lines, h.block, hgives⟩)
    | @reference name _ hconsulted hoffers =>
        obtain ⟨hnone, hname, hfirst⟩ := isConsulted_iff.1 hconsulted
        exact .inr ⟨hnone, name, hname, offered?_eq_some_iff.2 ⟨lines, hoffers.block, hgives⟩,
          hfirst⟩

/-- The blocks of references that do not count for a metric may be any. -/
theorem valueOf?_congr
    (h : ∀ name, IsConsulted references t m name → more.find? name = references.find? name) :
    valueOf? more t m = valueOf? references t m := by
  rw [valueOf?_eq, valueOf?_eq]
  cases hinline : inline? t m with
  | some x => rfl
  | none =>
      rw [Option.none_or, Option.none_or]
      refine (findSome?_congr_of_pairwise (pairwise_idxOf_kpiNames t) ?_).symm
      intro name hname hfirst
      rw [offered?, offered?, h name (isConsulted_iff.2 ⟨hinline, hname, hfirst⟩)]

end Source

/-! ### What is told of a value -/

/-- A verdict tells of a metric what a task's value of it is found at fault for, and nothing without
a value; it tells all of that if the task has values of the required metrics. -/
structure Judges (scope : Scope) (t : Task) (m : Metric) (value : Option Binary64) (v : Verdict) :
    Prop where
  sound : ∀ i ∈ v.errors, isValueOf m i = true → ∃ x c found, value = some x ∧
    complexity scope.policy t = .ok c ∧ valueIssues scope t c m x = .ok found ∧ i ∈ found
  complete : (∀ required : Metric, required.isRequired = true →
      (valueOf? scope.references t required).isSome = true) → ∀ x, value = some x →
    ∃ c, complexity scope.policy t = .ok c ∧
      valueIssues scope t c m x = .ok (v.errors.filter (isValueOf m))

section Judged

variable {scope : Scope} {t : Task} {m : Metric} {value : Option Binary64} {i : Issue}

/-- A verdict about what is missing tells of no value, and some required metric has none. -/
theorem judges_missing (hi : isValueOf m i = false) (required : Metric)
    (hrequired : required.isRequired = true)
    (hnone : valueOf? scope.references t required = none) :
    Judges scope t m value (.ofIssues [i]) where
  sound j hj hvalue := by
    obtain rfl := List.mem_singleton.1 (List.mem_filter.1 hj).1
    exact absurd (hi.symm.trans hvalue) Bool.false_ne_true
  complete hall := by
    have hsome := hall required hrequired
    simp [hnone] at hsome

theorem judges_values {c : Complexity} {found : List Issue} {values : Values}
    (hc : complexity scope.policy t = .ok c)
    (hfound : allValueIssues scope t c values Metric.all = .ok found) :
    Judges scope t m (values.get? m) (.ofIssues found) := by
  have hstated := filter_allValueIssues (by decide) m.mem_all hfound
  rw [statedIssues] at hstated
  refine ⟨fun i hi hvalue => ?_, fun _ x hx => ⟨c, hc, ?_⟩⟩
  · rw [errors_ofIssues_of_allValueIssues hfound] at hi
    have hmem : i ∈ found.filter (isValueOf m) := List.mem_filter.2 ⟨hi, hvalue⟩
    cases hx : values.get? m with
    | none =>
        rw [hx] at hstated
        rw [← Except.ok.inj hstated] at hmem
        exact absurd hmem List.not_mem_nil
    | some x =>
        rw [hx] at hstated
        exact ⟨x, c, _, rfl, hc, hstated, hmem⟩
  · rw [hx] at hstated
    rw [errors_ofIssues_of_allValueIssues hfound]
    exact hstated

/-- What the check tells of a metric is about the value that the task has for it. -/
theorem judges_of_run {v : Verdict} (hrun : kpi.run t scope = .ok v) :
    Judges scope t m (valueOf? scope.references t m) v := by
  obtain ⟨found, hfound, rfl⟩ := map_eq_ok_iff.1 hrun
  -- Values are compared in the last case only; in the others a required metric has none.
  rw [issues] at hfound
  cases hlines : lines? scope.references t with
  | none =>
      rw [hlines] at hfound
      obtain rfl := Except.ok.inj hfound
      exact judges_missing rfl .callDepth rfl (by simp [valueOf?, hlines])
  | some lines =>
      have hvalue : ∀ m, valueOf? scope.references t m = (values lines).get? m := fun m => by
        rw [valueOf?, hlines, Option.bind_some]
      simp only [hlines] at hfound
      split at hfound
      · next hempty =>
        obtain rfl := Except.ok.inj hfound
        refine judges_missing rfl .callDepth rfl ?_
        rw [Bool.and_eq_true, List.isEmpty_iff] at hempty
        rw [hvalue, hempty.2, Values.get?_nil]
      split at hfound
      · next hmissing =>
        obtain rfl := Except.ok.inj hfound
        obtain ⟨label, hlabel⟩ := List.exists_mem_of_ne_nil (missingLabels (values lines))
          (by simpa using hmissing)
        obtain ⟨required, hmem, -⟩ := List.mem_map.1 hlabel
        have hrequired := (List.mem_filter.1 hmem).2
        rw [Bool.and_eq_true, Option.isNone_iff_eq_none] at hrequired
        exact judges_missing rfl required hrequired.1 ((hvalue required).trans hrequired.2)
      · obtain ⟨c, hc, hfound⟩ := bind_eq_ok_iff.1 hfound
        rw [hvalue]
        exact judges_values hc hfound

end Judged

/-- **Metrics are read with a bias to the left.** The values in lines and further lines behind them
are those of the first lines, and behind them those of the others for metrics that the first ones
do not give. So the value that a task has for a metric is the first in its own section if this
states the metric, or else the first in the block of the reference used first among those that state
it; all other blocks may be any, in particular those of references used later. What the check tells
of a metric is about this value. -/
theorem values_leftBiased :
    (∀ xs ys : List String, values (xs ++ ys) = (values xs).merge (values ys)) ∧
    (∀ (first second : Values) (m : Metric),
      (first.merge second).get? m = (first.get? m).or (second.get? m)) ∧
    ∀ (t : Task) (m : Metric),
      (∀ (references : References) (x : Binary64), valueOf? references t m = some x ↔
        ∃ lines, IsSource references t m lines ∧ Gives m x lines) ∧
      (∀ references more : References,
        (∀ name, IsConsulted references t m name → more.find? name = references.find? name) →
          valueOf? more t m = valueOf? references t m) ∧
      ∀ (scope : Scope) (v : Verdict), kpi.run t scope = .ok v →
        Judges scope t m (valueOf? scope.references t m) v := by
  refine ⟨values_append, get?_merge, fun t m => ⟨?_, ?_, ?_⟩⟩
  · exact fun references x => valueOf?_eq_some_iff
  · exact fun references more hsame => valueOf?_congr hsame
  · exact fun scope v hrun => judges_of_run hrun

/-- A task with a section for one metric, and with references for the others. -/
def sharedMetrics : Task :=
  { (default : Task) with
    id := "AB0001"
    content := ["\x7b\x7bstyle-kpis\x7d\x7d \x7b\x7bteam-kpis\x7d\x7d", "\x7b\x7blate-kpi\x7d\x7d",
      "**Code Quality KPIs**", "- Functions per module: 4"] }

/-- Two blocks of which the second states what the first leaves out. -/
def teamBlocks : References :=
  .ofPairs [("style-kpis", ["Call depth: 1"]),
    ("team-kpis", ["**Code Quality KPIs**", "- Lines per function: 90"])]

/-- The blocks with one for the reference that is used last. -/
def lateBlocks : References :=
  teamBlocks.insert "late-kpi" ["Lines per function: 1"]

theorem offers_teamBlocks : Offers teamBlocks sharedMetrics .linesPerFunction "team-kpis"
    ["- Lines per function: 90"] where
  used := by decide +kernel
  named := by decide +kernel
  block := by decide +kernel
  states := isSome_get?_values_iff.1 (by decide +kernel)

theorem values_leftBiased_sharedMetrics :
    (∀ name, IsConsulted teamBlocks sharedMetrics .linesPerFunction name →
      lateBlocks.find? name = teamBlocks.find? name) ∧
    valueOf? lateBlocks sharedMetrics .linesPerFunction = some (.ofDecimal false 90 0) ∧
    ∃ v, kpi.run sharedMetrics ⟨.standard, ⟨[], lateBlocks, none, 0, []⟩, []⟩ = .ok v ∧
      v.errors.filter (isValueOf .linesPerFunction) =
        [.invalidKpiValue "AB0001" "Lines per function" (.whole 90) (.whole 15) false
          (some "simple")] := by
  obtain ⟨-, -, htask⟩ := values_leftBiased
  obtain ⟨-, hsame, hjudges⟩ := htask sharedMetrics .linesPerFunction
  have hagree : ∀ name, IsConsulted teamBlocks sharedMetrics .linesPerFunction name →
      lateBlocks.find? name = teamBlocks.find? name := by
    intro name hname
    have hne : name ≠ "late-kpi" := by
      rintro rfl
      exact absurd (hname.first _ _ offers_teamBlocks) (by decide +kernel)
    rw [lateBlocks, Catalog.find?_insert, if_neg hne]
  have hvalue : valueOf? lateBlocks sharedMetrics .linesPerFunction =
      some (.ofDecimal false 90 0) := by
    rw [hsame _ _ hagree]
    decide +kernel
  have hrun : (kpi.run sharedMetrics
      ⟨.standard, ⟨[], lateBlocks, none, 0, []⟩, []⟩).toOption.isSome = true := by
    decide +kernel
  obtain ⟨v, hv⟩ := Option.isSome_iff_exists.1 hrun
  have hok := eq_ok_of_toOption hv
  have hrequired : ∀ required ∈ Metric.all, required.isRequired = true →
      (valueOf? lateBlocks sharedMetrics required).isSome = true := by
    decide +kernel
  obtain ⟨c, hc, hissues⟩ := (hjudges _ v hok).complete
    (fun required => hrequired required required.mem_all) _ hvalue
  have hsimple : complexity .standard sharedMetrics = .ok .simple := by decide +kernel
  obtain rfl := Except.ok.inj (hc.symm.trans hsimple)
  rw [valueIssues_ofDecimal rfl rfl (by decide) (by decide) (by decide)] at hissues
  exact ⟨hagree, hvalue, v, hok, (Except.ok.inj hissues).symm⟩

end Check.Kpi

end TaskAudit
