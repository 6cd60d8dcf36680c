import Mathlib.Algebra.GroupWithZero.Nat
import Mathlib.Data.List.Nodup
import Mathlib.Data.List.Perm.Basic
import TaskAudit.Policy.Standard
import TaskAudit.Proofs.Provenance

/-!
# Whose line it is

Of the lines of a section every one has one owner. A line with a marker belongs to the subtask that
it marks; any other line belongs to the subtask marked last before it if that one is numbered, and
to the parent if it is a checkbox or there is none. The lines kept for the parent and the bodies of
the numbered subtasks are found in two different ways, and each is just what its owner has.
-/

namespace TaskAudit.Document

/-- The owner of a line: the parent, or a subtask by its place among the subtasks, which has the
line of its marker and the lines of its body. -/
inductive Owner where
  | parent
  | marker (subtask : Nat)
  | body (subtask : Nat)
  deriving DecidableEq

/-- The owner of a line, given the markers before it. -/
def Owner.ofLine (before : List Marker) (line : String) : Owner :=
  match marker? line, before.getLast? with
  | some _, _ => marker before.length
  | none, some .numbered => body (before.length - 1)
  | none, _ => parent

/-- The owner of the line at a place of some lines, which may have markers before them. -/
def ownerAt? (content : List String) (n : Nat) (before : List Marker := []) : Option Owner :=
  content[n]?.map (Owner.ofLine (before ++ (content.take n).filterMap marker?))

/-- The places of an owner's lines, in order. -/
def placesOf (content : List String) (o : Owner) (before : List Marker := []) : List Nat :=
  (List.range content.length).filter fun n => ownerAt? content n before = some o

/-- An owner's lines, in order. -/
def linesOf (content : List String) (o : Owner) (before : List Marker := []) : List String :=
  (placesOf content o before).filterMap (content[·]?)

/-! ### One line after the other -/

section Step

variable {before : List Marker} {content : List String} {line : String} {o : Owner}

theorem Owner.ofLine_of_marker {m : Marker} (h : marker? line = some m) :
    ofLine before line = marker before.length := by
  simp [ofLine, h]

theorem Owner.ofLine_of_numbered (h : marker? line = none)
    (hlast : before.getLast? = some .numbered) : ofLine before line = body (before.length - 1) := by
  simp [ofLine, h, hlast]

theorem Owner.ofLine_of_not_numbered (h : marker? line = none)
    (hlast : before.getLast? ≠ some .numbered) : ofLine before line = parent := by
  rw [ofLine, h]
  split
  · contradiction
  · exact absurd (by assumption) hlast
  · rfl

/-- A line without a marker is of no subtask that is still to come. -/
theorem Owner.ofLine_ne {j : Nat} (h : marker? line = none) (hj : before.length ≤ j) :
    ofLine before line ≠ marker j ∧ ofLine before line ≠ body j := by
  by_cases hlast : before.getLast? = some .numbered
  · have hlength : 0 < before.length := List.length_pos_of_mem (List.mem_of_getLast? hlast)
    rw [ofLine_of_numbered h hlast]
    refine ⟨by simp, fun heq => ?_⟩
    have := body.inj heq
    omega
  · rw [ofLine_of_not_numbered h hlast]
    exact ⟨by simp, by simp⟩

theorem ownerAt?_cons_zero :
    ownerAt? (line :: content) 0 before = some (Owner.ofLine before line) := by
  simp [ownerAt?]

theorem ownerAt?_cons_succ (n : Nat) : ownerAt? (line :: content) (n + 1) before =
    ownerAt? content n (before ++ (marker? line).toList) := by
  have hmarkers : ((line :: content).take (n + 1)).filterMap marker? =
      (marker? line).toList ++ (content.take n).filterMap marker? := by
    cases h : marker? line <;> simp [h]
  rw [ownerAt?, ownerAt?, hmarkers, List.getElem?_cons_succ, List.append_assoc]

theorem placesOf_cons : placesOf (line :: content) o before =
    (if Owner.ofLine before line = o then [0] else []) ++
      (placesOf content o (before ++ (marker? line).toList)).map (· + 1) := by
  have hrest : (List.range content.length).filter
      ((fun n => decide (ownerAt? (line :: content) n before = some o)) ∘ Nat.succ) =
      placesOf content o (before ++ (marker? line).toList) :=
    List.filter_congr fun n _ => by
      rw [Function.comp_apply, Nat.succ_eq_add_one, ownerAt?_cons_succ]
  rw [placesOf, List.length_cons, List.range_succ_eq_map, List.filter_cons, List.filter_map, hrest]
  by_cases h : Owner.ofLine before line = o
  · simp [ownerAt?_cons_zero, h]
  · simp [ownerAt?_cons_zero, h]

theorem linesOf_cons : linesOf (line :: content) o before =
    (if Owner.ofLine before line = o then [line] else []) ++
      linesOf content o (before ++ (marker? line).toList) := by
  rw [linesOf, placesOf_cons, List.filterMap_append, List.filterMap_map, linesOf]
  congr 1
  by_cases h : Owner.ofLine before line = o
  · simp [h]
  · simp [h]

end Step

/-! ### The lines of the parent -/

theorem linesOf_parent (content : List String) (before : List Marker) :
    linesOf content .parent before =
      parentLinesAfter (before.getLast? = some .numbered) content := by
  induction content generalizing before with
  | nil => rfl
  | cons line rest ih =>
      rw [linesOf_cons, ih, parentLinesAfter]
      cases hmarker : marker? line with
      | some m =>
          rw [Owner.ofLine_of_marker hmarker, if_neg (by simp)]
          cases m <;> simp
      | none =>
          by_cases hlast : before.getLast? = some .numbered
          · simp [Owner.ofLine_of_numbered hmarker hlast, hlast]
          · simp [Owner.ofLine_of_not_numbered hmarker hlast, hlast]

/-! ### The lines of subtasks -/

section Subtasks

variable {content : List String} {before : List Marker} {j : Nat}

/-- A body that is not the last one begun has no more lines, and no marker before has one. -/
theorem placesOf_eq_nil (content : List String) (hj : j < before.length) :
    placesOf content (.marker j) before = [] ∧
    (j + 1 < before.length ∨ before.getLast? ≠ some .numbered →
      placesOf content (.body j) before = []) := by
  induction content generalizing before with
  | nil => exact ⟨rfl, fun _ => rfl⟩
  | cons line rest ih =>
      have hmore : j < (before ++ (marker? line).toList).length := by
        rw [List.length_append]
        omega
      obtain ⟨hmarkers, hbodies⟩ := ih hmore
      rw [placesOf_cons, placesOf_cons, hmarkers]
      cases hmarker : marker? line with
      | some m =>
          rw [Owner.ofLine_of_marker hmarker]
          have hne : before.length ≠ j := by omega
          refine ⟨by simp [hne], fun _ => ?_⟩
          rw [hmarker] at hbodies
          rw [hbodies (Or.inl (by simpa using hj))]
          simp
      | none =>
          rw [hmarker] at hbodies
          simp only [Option.toList_none, List.append_nil] at hbodies ⊢
          by_cases hlast : before.getLast? = some .numbered
          · rw [Owner.ofLine_of_numbered hmarker hlast]
            refine ⟨by simp, fun hearlier => ?_⟩
            have hne : before.length - 1 ≠ j := by
              rcases hearlier with hlt | hnot
              · omega
              · exact absurd hlast hnot
            rw [hbodies hearlier]
            simp [hne]
          · rw [Owner.ofLine_of_not_numbered hmarker hlast]
            refine ⟨by simp, fun hearlier => ?_⟩
            rw [hbodies hearlier]
            simp

/-- The body of the numbered subtask marked last goes on to the next marker. -/
theorem linesOf_body (content : List String) (hlast : before.getLast? = some .numbered) :
    linesOf content (.body (before.length - 1)) before =
      content.takeWhile fun l => (marker? l).isNone := by
  induction content with
  | nil => rfl
  | cons line rest ih =>
      rw [linesOf_cons]
      cases hmarker : marker? line with
      | some m =>
          have hlength : 0 < before.length :=
            List.length_pos_of_mem (List.mem_of_getLast? hlast)
          have hlater : before.length - 1 + 1 < (before ++ [m]).length := by
            rw [List.length_append, List.length_singleton]
            omega
          have hnone := (placesOf_eq_nil rest (Nat.lt_of_succ_lt hlater)).2 (Or.inl hlater)
          rw [Owner.ofLine_of_marker hmarker, Option.toList_some, linesOf, hnone]
          simp [hmarker]
      | none =>
          rw [Owner.ofLine_of_numbered hmarker hlast, Option.toList_none, List.append_nil, ih]
          simp [hmarker]

/-- A subtask of a place in the order has the line of its marker and the lines of its body; only a
numbered one has any. -/
structure IsOwner (content : List String) (before : List Marker) (number : Int) (j : Nat) (u : Task)
    (n : Nat) : Prop where
  place : placesOf content (.marker j) before = [n]
  line : u.line = number + n
  marker : ∃ line m, content[n]? = some line ∧ marker? line = some m ∧ u.marker = some m
  body : u.content = linesOf content (.body j) before
  empty : u.marker = some .checkbox → u.content = []

variable {policy : Policy} {category : Option String} {number : Int} {u : Task}

/-- A line in front that is not the subtask's moves its lines on by one. -/
theorem IsOwner.cons {line : String} {n : Nat} (hmarker : Owner.ofLine before line ≠ .marker j)
    (hbody : Owner.ofLine before line ≠ .body j)
    (h : IsOwner content (before ++ (marker? line).toList) (number + 1) j u n) :
    IsOwner (line :: content) before number j u (n + 1) where
  place := by
    rw [placesOf_cons, if_neg hmarker, h.place]
    rfl
  line := by
    rw [h.line]
    push_cast
    omega
  marker := h.marker
  body := by rw [linesOf_cons, if_neg hbody, List.nil_append, h.body]
  empty := h.empty

theorem isOwner_of_marker {line : String} {rest : List String} {m : Marker}
    (hmarker : marker? line = some m) (hline : u.line = number) (hkind : u.marker = some m)
    (hcontent : u.content = if m = .numbered then rest.takeWhile fun l => (marker? l).isNone
      else []) : IsOwner (line :: rest) before number before.length u 0 := by
  have hlength : before.length < (before ++ [m]).length := by simp
  obtain ⟨hplaces, hbody⟩ := placesOf_eq_nil rest hlength
  refine ⟨?_, by simp [hline], ⟨line, m, rfl, hmarker, hkind⟩, ?_, fun hcheckbox => ?_⟩
  · rw [placesOf_cons, Owner.ofLine_of_marker hmarker, hmarker, Option.toList_some, hplaces]
    simp
  · rw [linesOf_cons, Owner.ofLine_of_marker hmarker, hmarker, Option.toList_some, hcontent]
    cases m with
    | numbered =>
        have hlast : (before ++ [Marker.numbered]).getLast? = some .numbered :=
          List.getLast?_concat
        have hlines := linesOf_body rest hlast
        rw [List.length_append, List.length_singleton, Nat.add_sub_cancel] at hlines
        simp [hlines]
    | checkbox =>
        rw [linesOf, hbody (Or.inr (by simp))]
        simp
  · obtain rfl : m = .checkbox := Option.some.inj (hkind.symm.trans hcheckbox)
    simpa using hcontent

theorem subtasks_cons_of_none {line : String} {rest : List String} (h : marker? line = none) :
    subtasks policy category number (line :: rest) =
      subtasks policy category (number + 1) rest := by
  rw [subtasks, h]

theorem exists_subtasks_cons_of_marker {line : String} {rest : List String} {m : Marker}
    (h : marker? line = some m) : ∃ u, subtasks policy category number (line :: rest) =
        u :: subtasks policy category (number + 1) rest ∧
      IsOwner (line :: rest) before number before.length u 0 := by
  rw [subtasks, h]
  cases m with
  | numbered => exact ⟨_, rfl, isOwner_of_marker h rfl rfl rfl⟩
  | checkbox => exact ⟨_, rfl, isOwner_of_marker h rfl rfl rfl⟩

/-- The subtasks found have the markers in order. -/
theorem exists_isOwner_of_getElem? (before : List Marker) {k : Nat}
    (h : (subtasks policy category number content)[k]? = some u) :
    ∃ n, IsOwner content before number (before.length + k) u n := by
  induction content generalizing before number k with
  | nil => simp [subtasks] at h
  | cons line rest ih =>
      cases hmarker : marker? line with
      | none =>
          rw [subtasks_cons_of_none hmarker] at h
          have hsame : before ++ (marker? line).toList = before := by simp [hmarker]
          obtain ⟨n, hn⟩ := ih before h
          obtain ⟨hnotMarker, hnotBody⟩ :=
            Owner.ofLine_ne hmarker (Nat.le_add_right before.length k)
          exact ⟨n + 1, IsOwner.cons hnotMarker hnotBody (hsame.symm ▸ hn)⟩
      | some m =>
          obtain ⟨first, hsubtasks, hfirst⟩ :
              ∃ u, subtasks policy category number (line :: rest) =
                  u :: subtasks policy category (number + 1) rest ∧
                IsOwner (line :: rest) before number before.length u 0 :=
            exists_subtasks_cons_of_marker hmarker
          rw [hsubtasks] at h
          cases k with
          | zero =>
              obtain rfl : first = u := Option.some.inj h
              exact ⟨0, hfirst⟩
          | succ k =>
              obtain ⟨n, hn⟩ := ih (before ++ (marker? line).toList) h
              have hplace : (before ++ (marker? line).toList).length + k =
                  before.length + (k + 1) := by
                simp [hmarker]
                omega
              rw [hplace] at hn
              refine ⟨n + 1, hn.cons ?_ ?_⟩
              · simp [Owner.ofLine_of_marker hmarker]
              · simp [Owner.ofLine_of_marker hmarker]

theorem length_subtasks :
    (subtasks policy category number content).length = (content.filterMap marker?).length := by
  induction content generalizing number with
  | nil => rfl
  | cons line rest ih =>
      cases hmarker : marker? line with
      | none => rw [subtasks_cons_of_none hmarker, ih, List.filterMap_cons_none hmarker]
      | some m =>
          obtain ⟨first, hsubtasks, -⟩ : ∃ u, subtasks policy category number (line :: rest) =
              u :: subtasks policy category (number + 1) rest ∧
                IsOwner (line :: rest) [] number 0 u 0 := exists_subtasks_cons_of_marker hmarker
          rw [hsubtasks, List.filterMap_cons_some hmarker, List.length_cons, List.length_cons, ih]

end Subtasks

/-! ### All lines together -/

section Partition

variable {content : List String} {n : Nat} {o : Owner}

theorem mem_placesOf : n ∈ placesOf content o ↔ ownerAt? content n = some o := by
  rw [placesOf, List.mem_filter, decide_eq_true_iff, List.mem_range, and_iff_right_iff_imp]
  intro h
  obtain ⟨line, hline, -⟩ := Option.map_eq_some_iff.1 h
  exact (List.getElem?_eq_some_iff.1 hline).1

theorem nodup_placesOf : (placesOf content o).Nodup := List.nodup_range.filter _

theorem length_linesOf : (linesOf content o).length = (placesOf content o).length := by
  rw [linesOf, List.length_filterMap_eq_countP, List.countP_eq_length]
  intro n hn
  obtain ⟨line, hline, -⟩ := Option.map_eq_some_iff.1 (mem_placesOf.1 hn)
  rw [hline, Option.isSome_some]

/-- The markers of some lines are those before a line, its own, and those behind it. -/
theorem filterMap_marker?_eq (hn : n < content.length) : content.filterMap marker? =
    (content.take n).filterMap marker? ++ ((marker? content[n]).toList ++
      (content.drop (n + 1)).filterMap marker?) := by
  conv_lhs => rw [← List.take_append_drop n content, List.drop_eq_getElem_cons hn]
  rw [List.filterMap_append, List.filterMap_cons]
  cases marker? content[n] <;> rfl

/-- Every line is the parent's or that of a subtask that has a marker among the lines. -/
theorem exists_owner (hn : n < content.length) : ownerAt? content n = some .parent ∨
    ∃ k < (content.filterMap marker?).length,
      ownerAt? content n = some (.marker k) ∨ ownerAt? content n = some (.body k) := by
  have howner : ownerAt? content n =
      some (Owner.ofLine ((content.take n).filterMap marker?) content[n]) := by
    rw [ownerAt?, List.getElem?_eq_getElem hn, Option.map_some, List.nil_append]
  have hlength : (content.filterMap marker?).length =
      ((content.take n).filterMap marker?).length + ((marker? content[n]).toList.length +
        ((content.drop (n + 1)).filterMap marker?).length) := by
    rw [filterMap_marker?_eq hn, List.length_append, List.length_append]
  rw [howner]
  generalize (content.take n).filterMap marker? = before at hlength
  cases hmarker : marker? content[n] with
  | some m =>
      rw [Owner.ofLine_of_marker hmarker]
      refine Or.inr ⟨before.length, ?_, Or.inl rfl⟩
      rw [hmarker, Option.toList_some, List.length_singleton] at hlength
      omega
  | none =>
      by_cases hlast : before.getLast? = some .numbered
      · have hpos : 0 < before.length := List.length_pos_of_mem (List.mem_of_getLast? hlast)
        rw [Owner.ofLine_of_numbered hmarker hlast]
        exact Or.inr ⟨before.length - 1, by omega, Or.inr rfl⟩
      · exact Or.inl (by rw [Owner.ofLine_of_not_numbered hmarker hlast])

/-- The places of the parent, the markers and the bodies are all places, each of them once. -/
theorem perm_places (content : List String) : (placesOf content .parent ++
      (List.range (content.filterMap marker?).length).flatMap fun k =>
        placesOf content (.marker k) ++ placesOf content (.body k)).Perm
    (List.range content.length) := by
  have hdisjoint : ∀ o o' : Owner, o ≠ o' →
      (placesOf content o).Disjoint (placesOf content o') := by
    intro o o' hne n hn hn'
    exact hne (Option.some.inj ((mem_placesOf.1 hn).symm.trans (mem_placesOf.1 hn')))
  rw [List.perm_ext_iff_of_nodup _ List.nodup_range]
  · intro n
    simp only [List.mem_append, List.mem_flatMap, List.mem_range, mem_placesOf]
    constructor
    · rintro (h | ⟨k, -, h | h⟩)
      all_goals
        rw [← mem_placesOf] at h
        exact List.mem_range.1 (List.mem_filter.1 h).1
    · exact exists_owner
  · refine List.nodup_append'.2 ⟨nodup_placesOf, ?_, ?_⟩
    · rw [List.nodup_flatMap]
      refine ⟨fun k _ => List.nodup_append'.2
        ⟨nodup_placesOf, nodup_placesOf, hdisjoint _ _ (by simp)⟩, ?_⟩
      refine List.nodup_range.imp ?_
      intro j k hne
      simp only [Function.onFun, List.disjoint_append_left, List.disjoint_append_right]
      refine ⟨⟨?_, ?_⟩, ?_, ?_⟩
      all_goals exact hdisjoint _ _ (by simp [hne])
    · intro n hparent hn
      obtain ⟨k, -, hk⟩ := List.mem_flatMap.1 hn
      rcases List.mem_append.1 hk with hmarker | hbody
      · exact hdisjoint _ _ (by simp) hparent hmarker
      · exact hdisjoint _ _ (by simp) hparent hbody

/-- A line behind a checkbox is the parent's, up to the next marker. -/
theorem ownerAt?_of_checkbox {i : Nat} {line : String} (hi : content[i]? = some line)
    (hcheckbox : marker? line = some .checkbox) (hin : i < n) (hn : n < content.length)
    (hnone : ∀ j line', i < j → j ≤ n → content[j]? = some line' → marker? line' = none) :
    ownerAt? content n = some .parent := by
  have hbehind : ((content.take n).drop (i + 1)).filterMap marker? = [] := by
    rw [List.filterMap_eq_nil_iff]
    intro line' hmem
    obtain ⟨j, hj⟩ := List.mem_iff_getElem?.1 hmem
    rw [List.getElem?_drop] at hj
    obtain ⟨hlt, -⟩ := List.getElem?_eq_some_iff.1 hj
    rw [List.length_take] at hlt
    rw [List.getElem?_take_of_lt (by omega)] at hj
    exact hnone (i + 1 + j) line' (by omega) (by omega) hj
  have hlast : ((content.take n).filterMap marker?).getLast? = some .checkbox := by
    have hline : (content.take n)[i]? = some line := by rwa [List.getElem?_take_of_lt hin]
    obtain ⟨hlt, rfl⟩ := List.getElem?_eq_some_iff.1 hline
    rw [filterMap_marker?_eq hlt, hcheckbox, hbehind, List.getLast?_append]
    rfl
  have hplain : marker? content[n] = none :=
    hnone n content[n] hin (Nat.le_refl n) (List.getElem?_eq_getElem hn)
  rw [ownerAt?, List.getElem?_eq_getElem hn, Option.map_some, List.nil_append,
    Owner.ofLine_of_not_numbered hplain (by simp [hlast])]

/-- Every subtask has one line for its marker, and a numbered one the lines of its body besides. -/
theorem sum_one_add_length {tasks : List Task}
    (h : ∀ u ∈ tasks, u.marker ≠ some .numbered → u.content = []) :
    (tasks.map fun u => 1 + u.content.length).sum = tasks.length +
      ((tasks.filter (·.marker = some .numbered)).map (·.content.length)).sum := by
  induction tasks with
  | nil => rfl
  | cons u rest ih =>
      obtain ⟨hu, hrest⟩ := List.forall_mem_cons.1 h
      rw [List.map_cons, List.sum_cons, ih hrest, List.length_cons]
      by_cases hkind : u.marker = some .numbered
      · rw [List.filter_cons_of_pos (by simpa using hkind), List.map_cons, List.sum_cons]
        omega
      · rw [List.filter_cons_of_neg (by simpa using hkind), hu hkind, List.length_nil]
        omega

section Found

variable (policy : Policy) (category : Option String) (number : Int) (content : List String)

theorem perm_places_subtasks : (placesOf content .parent ++
      (List.range (subtasks policy category number content).length).flatMap fun k =>
        placesOf content (.marker k) ++ placesOf content (.body k)).Perm
    (List.range content.length) := by
  rw [length_subtasks]
  exact perm_places content

theorem exists_isOwner {k : Nat} {u : Task}
    (hu : (subtasks policy category number content)[k]? = some u) :
    ∃ n, IsOwner content [] number k u n := by
  simpa using exists_isOwner_of_getElem? [] hu

theorem content_eq_nil_of_not_numbered {u : Task}
    (hu : u ∈ subtasks policy category number content) (hnot : u.marker ≠ some .numbered) :
    u.content = [] := by
  obtain ⟨k, hk⟩ := List.mem_iff_getElem?.1 hu
  obtain ⟨n, hn⟩ := exists_isOwner policy category number content hk
  obtain ⟨line, m, -, -, hm⟩ := hn.marker
  cases m with
  | numbered => exact absurd hm hnot
  | checkbox => exact hn.empty hm

/-- The lines kept, the markers and the lines of numbered bodies are as many as all lines. -/
theorem length_parentLines_add : (parentLines content).length +
    (subtasks policy category number content).length +
      (((subtasks policy category number content).filter (·.marker = some .numbered)).map
        (·.content.length)).sum = content.length := by
  have hcount := (perm_places_subtasks policy category number content).length_eq
  have hlines : parentLines content = linesOf content .parent := (linesOf_parent content []).symm
  have hshares : (List.range (subtasks policy category number content).length).map (fun k =>
      (placesOf content (.marker k) ++ placesOf content (.body k)).length) =
      (subtasks policy category number content).map fun u => 1 + u.content.length := by
    apply List.ext_getElem (by simp)
    intro k hk _
    rw [List.length_map, List.length_range] at hk
    obtain ⟨n, hn⟩ := exists_isOwner policy category number content (List.getElem?_eq_getElem hk)
    rw [List.getElem_map, List.getElem_map, List.getElem_range, List.length_append, hn.place,
      hn.body, length_linesOf, List.length_singleton]
  rw [List.length_append, List.length_flatMap, hshares, List.length_range, sum_one_add_length
    fun u hu => content_eq_nil_of_not_numbered policy category number content hu] at hcount
  rw [hlines, length_linesOf, Nat.add_assoc, hcount]

end Found

/-- **Every line has one owner.** The places of the parent, of the markers and of the bodies are all
places, each of them once. The lines kept for the parent are the parent's, and the subtasks found
are those of the markers in order, with the lines of their bodies; so nothing is counted twice and
nothing is lost, and text behind a checkbox is the parent's again. -/
theorem owners_partition_lines (policy : Policy) (category : Option String) (number : Int)
    (content : List String) :
    (placesOf content .parent ++
        (List.range (subtasks policy category number content).length).flatMap fun k =>
          placesOf content (.marker k) ++ placesOf content (.body k)).Perm
      (List.range content.length) ∧
    parentLines content = linesOf content .parent ∧
    (∀ k u, (subtasks policy category number content)[k]? = some u →
      ∃ n, IsOwner content [] number k u n) ∧
    (parentLines content).length + (subtasks policy category number content).length +
      (((subtasks policy category number content).filter (·.marker = some .numbered)).map
        (·.content.length)).sum = content.length ∧
    ∀ i n line, content[i]? = some line → marker? line = some .checkbox → i < n →
      n < content.length →
      (∀ j line', i < j → j ≤ n → content[j]? = some line' → marker? line' = none) →
      ownerAt? content n = some .parent := by
  have hplaces := perm_places_subtasks policy category number content
  have hlines : parentLines content = linesOf content .parent := (linesOf_parent content []).symm
  have hlength := length_parentLines_add policy category number content
  refine ⟨hplaces, hlines, fun k u hu => ?_, hlength, ?_⟩
  · exact exists_isOwner policy category number content hu
  · intro i n line hi hcheckbox hin hn hnone
    exact ownerAt?_of_checkbox hi hcheckbox hin hn hnone

end Partition

/-- A numbered subtask with a line of its own, and a line of the parent behind a checkbox. -/
def mixedMarkers : List String :=
  ["#### 1. Draft (AB0001-1)", "A line of it", "- [x] Read [AB0001a]", "A line of the parent"]

theorem owners_partition_lines_mixedMarkers :
    (∃ u n, (subtasks .standard none 7 mixedMarkers)[0]? = some u ∧
      u.content = ["A line of it"] ∧ IsOwner mixedMarkers [] 7 0 u n) ∧
    marker? "- [x] Read [AB0001a]" = some .checkbox ∧
    ownerAt? mixedMarkers 3 = some .parent := by
  obtain ⟨-, -, howners, -, hparent⟩ := owners_partition_lines .standard none 7 mixedMarkers
  have hfirst : ((subtasks .standard none 7 mixedMarkers)[0]?).map (·.content) =
      some ["A line of it"] := by decide +kernel
  obtain ⟨u, hu, hcontent⟩ := Option.map_eq_some_iff.1 hfirst
  obtain ⟨n, hn⟩ := howners 0 u hu
  have hcheckbox : marker? "- [x] Read [AB0001a]" = some .checkbox := by decide +kernel
  refine ⟨⟨u, n, hu, hcontent, hn⟩, hcheckbox, ?_⟩
  refine hparent 2 3 _ rfl hcheckbox (by decide) (by decide) ?_
  intro j line hfrom hto hline
  obtain rfl : j = 3 := by omega
  obtain rfl : "A line of the parent" = line := Option.some.inj hline
  decide +kernel

end TaskAudit.Document
