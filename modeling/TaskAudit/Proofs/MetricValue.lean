import TaskAudit.Proofs.Passing

/-!
# The values of metrics

A text starts with a value of a metric where the metric's name, a colon and a number stand. In lines
the first such place counts, so a metric has a value if some line has one, and an integer for its
value if the first number in its place is an integer in digits.
-/

namespace TaskAudit.Check.Kpi

open Text

variable {m : Metric} {cs before : List Char} {line : String} {lines : List String} {x : Binary64}

/-- A text starts with a value of a metric. -/
def StartsWithValue (m : Metric) (cs : List Char) : Prop := ∃ x, valueHere? m cs = some x

/-- A line has a value of a metric somewhere. -/
def HasValue (m : Metric) (line : String) : Prop := ∃ k, StartsWithValue m (line.toList.drop k)

/-! ### Values in a text -/

theorem valueHere?_nil (m : Metric) : valueHere? m [] = none := by
  cases m <;> rfl

theorem not_startsWithValue_iff : ¬ StartsWithValue m cs ↔ valueHere? m cs = none := by
  rw [StartsWithValue, ← Option.isSome_iff_exists, Option.not_isSome_iff_eq_none]

theorem valueIn?_of_valueHere? (h : valueHere? m cs = some x) : valueIn? m cs = some x := by
  cases cs with
  | nil => simp [valueHere?_nil] at h
  | cons c cs => rw [valueIn?, h]

/-- Characters at which no value starts are passed over. -/
theorem valueIn?_append (h : ∀ k < before.length, ¬ StartsWithValue m ((before ++ cs).drop k)) :
    valueIn? m (before ++ cs) = valueIn? m cs := by
  induction before with
  | nil => rfl
  | cons c before ih =>
      have hhere := not_startsWithValue_iff.1 (h 0 (Nat.zero_lt_succ _))
      rw [List.drop_zero] at hhere
      rw [List.cons_append, valueIn?, ← List.cons_append, hhere]
      exact ih fun k hk => h (k + 1) (Nat.succ_lt_succ hk)

theorem valueIn?_eq_none_iff : valueIn? m cs = none ↔ ∀ k, ¬ StartsWithValue m (cs.drop k) := by
  constructor
  · intro hnone k ⟨x, hx⟩
    induction cs generalizing k with
    | nil => simp [valueHere?_nil] at hx
    | cons c cs ih =>
        rw [valueIn?] at hnone
        split at hnone
        · simp at hnone
        · next hhere =>
          cases k with
          | zero => simp [hhere] at hx
          | succ k => exact ih hnone k hx
  · intro h
    have happend : valueIn? m (cs ++ []) = none := valueIn?_append fun k _ => by
      rw [List.append_nil]
      exact h k
    rwa [List.append_nil] at happend

/-- The value of a text is the one at the first place where a value starts. -/
theorem valueIn?_eq_some_iff : valueIn? m cs = some x ↔ ∃ before rest, cs = before ++ rest ∧
    (∀ k < before.length, ¬ StartsWithValue m (cs.drop k)) ∧ valueHere? m rest = some x := by
  constructor
  · intro h
    induction cs with
    | nil => simp [valueIn?] at h
    | cons c cs ih =>
        rw [valueIn?] at h
        split at h
        · next hhere => exact ⟨[], c :: cs, rfl, by simp, hhere.trans h⟩
        · next hhere =>
          obtain ⟨before, rest, rfl, hbefore, hrest⟩ := ih h
          refine ⟨c :: before, rest, rfl, fun k hk => ?_, hrest⟩
          cases k with
          | zero => exact not_startsWithValue_iff.2 hhere
          | succ k => exact hbefore k (Nat.lt_of_succ_lt_succ hk)
  · rintro ⟨before, rest, rfl, hbefore, hrest⟩
    rw [valueIn?_append hbefore, valueIn?_of_valueHere? hrest]

theorem not_hasValue_iff : ¬ HasValue m line ↔ valueIn? m line.toList = none := by
  rw [valueIn?_eq_none_iff, HasValue, not_exists]

/-! ### Values in lines -/

@[simp] theorem Values.get?_nil (m : Metric) : Values.get? [] m = none := rfl

theorem Values.get?_cons (entry : Metric × Binary64) (values : Values) (m : Metric) :
    Values.get? (entry :: values) m = if m = entry.1 then some entry.2 else values.get? m := by
  rw [Values.get?, List.lookup_cons]
  by_cases h : m = entry.1
  · simp [h]
  · have hne : (m == entry.1) = false := by simpa using h
    rw [hne, if_neg h, Values.get?]

theorem Values.get?_append (first second : Values) (m : Metric) :
    Values.get? (first ++ second) m = (first.get? m).or (second.get? m) :=
  List.lookup_append

theorem get?_addValue (line : String) (values : Values) (m n : Metric) :
    (addValue line values n).get? m =
      if m = n then (values.get? m).or (valueIn? m line.toList) else values.get? m := by
  by_cases hm : m = n
  · subst hm
    rw [if_pos rfl, addValue]
    cases hvalue : values.get? m with
    | some x => simp [hvalue]
    | none =>
        cases hfound : valueIn? m line.toList with
        | none => simp [hvalue]
        | some x => simp [Values.get?_append, Values.get?_cons, hvalue]
  · rw [if_neg hm, addValue]
    split
    · simp [Values.get?_append, Values.get?_cons, hm]
    · rfl

theorem get?_foldl_addValue (line : String) (values : Values) (ms : List Metric) :
    (ms.foldl (addValue line) values).get? m =
      if m ∈ ms then (values.get? m).or (valueIn? m line.toList) else values.get? m := by
  induction ms generalizing values with
  | nil => simp
  | cons n ms ih =>
      rw [List.foldl_cons, ih, get?_addValue]
      by_cases hm : m = n
      · -- A metric that has a value by now keeps it.
        cases values.get? m <;> cases valueIn? m line.toList <;> simp [hm]
      · simp [hm]

/-- A metric has the value of the first line that has one. -/
theorem get?_values (lines : List String) (m : Metric) :
    (values lines).get? m = lines.findSome? fun line => valueIn? m line.toList := by
  have hfold : ∀ found : Values, (lines.foldl (fun values line =>
      Metric.all.foldl (addValue line) values) found).get? m =
        (found.get? m).or (lines.findSome? fun line => valueIn? m line.toList) := by
    induction lines with
    | nil => simp
    | cons line lines ih =>
        intro found
        rw [List.foldl_cons, ih, get?_foldl_addValue, if_pos m.mem_all, Option.or_assoc,
          List.findSome?_cons]
        cases valueIn? m line.toList <;> rfl
  rw [values, hfold]
  rfl

/-- Lines give a metric a value, at the first place in the first line that has one. -/
def Gives (m : Metric) (x : Binary64) (lines : List String) : Prop :=
  ∃ earlier line later before cs, lines = earlier ++ line :: later ∧
    (∀ line ∈ earlier, ¬ HasValue m line) ∧ line.toList = before ++ cs ∧
    (∀ k < before.length, ¬ StartsWithValue m (line.toList.drop k)) ∧ valueHere? m cs = some x

theorem get?_values_eq_some_iff : (values lines).get? m = some x ↔ Gives m x lines := by
  simp only [get?_values, List.findSome?_eq_some_iff, valueIn?_eq_some_iff, ← not_hasValue_iff]
  constructor
  · rintro ⟨earlier, line, later, rfl, ⟨before, cs, hline, hbefore, hvalue⟩, hearlier⟩
    exact ⟨earlier, line, later, before, cs, rfl, hearlier, hline, hbefore, hvalue⟩
  · rintro ⟨earlier, line, later, before, cs, rfl, hearlier, hline, hbefore, hvalue⟩
    exact ⟨earlier, line, later, rfl, ⟨before, cs, hline, hbefore, hvalue⟩, hearlier⟩

/-- Some line has a value of a metric. -/
def States (m : Metric) (lines : List String) : Prop := ∃ line ∈ lines, HasValue m line

theorem isSome_get?_values_iff : ((values lines).get? m).isSome = true ↔ States m lines := by
  rw [get?_values, List.findSome?_isSome_iff]
  refine exists_congr fun line => and_congr_right fun _ => ?_
  rw [← not_iff_not, not_hasValue_iff, Option.not_isSome_iff_eq_none]

theorem missingLabels_values_eq_nil
    (h : ∀ m : Metric, m.isRequired = true → ∃ line ∈ lines, HasValue m line) :
    missingLabels (values lines) = [] := by
  rw [missingLabels, List.map_eq_nil_iff, List.filter_eq_nil_iff]
  intro m _ hmissing
  rw [Bool.and_eq_true, Option.isNone_iff_eq_none] at hmissing
  have hsome := isSome_get?_values_iff.2 (h m hmissing.1)
  simp [hmissing.2] at hsome

/-! ### Integers for values -/

/-- A text starts with the name of a metric, a colon and an integer in digits, which no fraction
follows. -/
def StartsWithWhole (m : Metric) (n : ℕ) (cs : List Char) : Prop :=
  ∃ named stated digits rest, dropWords? m.words cs = some named ∧
    trimStart named = ':' :: stated ∧ trimStart stated = digits ++ rest ∧
    digits ≠ [] ∧ (∀ c ∈ digits, isDigit c = true) ∧ digitsValue digits = n ∧
    (∀ c, rest.head? = some c → isDigit c = false) ∧
    ∀ c tail, rest = '.' :: c :: tail → isDigit c = false

/-- The first value of a metric that lines give is an integer in digits. -/
def GivesFirst (m : Metric) (n : ℕ) (lines : List String) : Prop :=
  ∃ earlier line later before cs, lines = earlier ++ line :: later ∧
    (∀ line ∈ earlier, ¬ HasValue m line) ∧ line.toList = before ++ cs ∧
    (∀ k < before.length, ¬ StartsWithValue m (line.toList.drop k)) ∧ StartsWithWhole m n cs

theorem decimal?_whole {digits rest : List Char} (hne : digits ≠ [])
    (hdigits : ∀ c ∈ digits, isDigit c = true) (hend : ∀ c, rest.head? = some c → isDigit c = false)
    (hfraction : ∀ c tail, rest = '.' :: c :: tail → isDigit c = false) :
    decimal? (digits ++ rest) = some (.ofDecimal false (digitsValue digits) 0) := by
  simp only [decimal?, takeWhile_run hdigits hend, dropWhile_run hdigits hend, if_neg hne]
  split
  · next more =>
    cases more with
    | nil => simp
    | cons c tail => simp [hfraction c tail rfl]
  · simp

theorem valueHere?_of_startsWithWhole {n : ℕ} (h : StartsWithWhole m n cs) :
    valueHere? m cs = some (.ofDecimal false n 0) := by
  obtain ⟨named, stated, digits, rest, hname, hcolon, hstated, hne, hdigits, rfl, hend,
    hfraction⟩ := h
  simp [valueHere?, hname, hcolon, after?, hstated, decimal?_whole hne hdigits hend hfraction]

theorem get?_values_of_givesFirst {n : ℕ} (h : GivesFirst m n lines) :
    (values lines).get? m = some (.ofDecimal false n 0) := by
  obtain ⟨earlier, line, later, before, cs, hlines, hearlier, hline, hbefore, hwhole⟩ := h
  exact get?_values_eq_some_iff.2 ⟨earlier, line, later, before, cs, hlines, hearlier, hline,
    hbefore, valueHere?_of_startsWithWhole hwhole⟩

end TaskAudit.Check.Kpi
