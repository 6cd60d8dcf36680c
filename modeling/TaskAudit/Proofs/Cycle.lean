import Mathlib.Data.List.Chain
import Mathlib.Data.List.Nodup
import Mathlib.Logic.Relation
import TaskAudit.Graph

/-!
# Cycles through a node

The search finds a cycle through its start exactly when there is one, and the path it gives meets no
node twice. A node is marked when it is put on the stack, so every marked node either still waits
there or has all its dependencies marked. When the stack runs empty, the marked nodes are all that
can be reached, and the start is not among their dependencies.
-/

namespace TaskAudit.Graph

open Relation

/-- A path that leaves a node along a relation and comes back to it, meeting no node twice. -/
structure IsCycle (r : String → String → Prop) (start : String) (path : List String) : Prop where
  closed : ∃ between, path = start :: (between ++ [start]) ∧ between.Nodup ∧ start ∉ between
  linked : path.IsChain r

def Edge (g : Graph) (node target : String) : Prop := target ∈ g.next node

theorem IsCycle.transGen {r : String → String → Prop} {start : String} {path : List String}
    (h : IsCycle r start path) : TransGen r start start := by
  obtain ⟨between, rfl, -, -⟩ := h.closed
  have hlinked := h.linked
  cases hb : between ++ [start] with
  | nil => simp at hb
  | cons first rest =>
      rw [hb, List.isChain_cons_cons] at hlinked
      apply TransGen.head' hlinked.1
      apply List.relationReflTransGen_of_exists_isChain_cons rest hlinked.2
      simp [← hb]

/-! ### One expansion -/

section Expansion

variable {start : String} {path nodes : List String} {stack : Stack} {visited : List String}

theorem expand_eq_closed {cycle : List String}
    (h : expand start path nodes stack visited = .closed cycle) :
    start ∈ nodes ∧ cycle = path ++ [start] := by
  induction nodes generalizing stack visited with
  | nil => simp [expand] at h
  | cons node nodes ih =>
      unfold expand at h
      split at h
      · next hstart =>
        rw [hstart]
        exact ⟨List.mem_cons_self, (Expansion.closed.inj h).symm⟩
      · split at h
        · exact (ih h).imp_left (List.mem_cons_of_mem node)
        · exact (ih h).imp_left (List.mem_cons_of_mem node)

/-- What is put on the stack are the nodes that were not marked before, each at the end of the path,
and afterwards all nodes are marked. -/
theorem expand_eq_more {stack' : Stack} {visited' : List String}
    (h : expand start path nodes stack visited = .more stack' visited') :
    start ∉ nodes ∧ nodes ⊆ visited' ∧
      ∃ fresh : List String, fresh ⊆ nodes ∧ fresh.Disjoint visited ∧
        visited' = fresh ++ visited ∧ stack' = fresh.map (fun n => (n, path ++ [n])) ++ stack := by
  induction nodes generalizing stack visited with
  | nil =>
      obtain ⟨rfl, rfl⟩ := Expansion.more.inj h
      exact ⟨List.not_mem_nil, List.nil_subset _, [], by simp⟩
  | cons node nodes ih =>
      unfold expand at h
      split at h
      · simp at h
      · next hstart =>
        split at h
        · next hvisited =>
          obtain ⟨hnot, hall, fresh, hsub, hdisj, rfl, rfl⟩ := ih h
          refine ⟨by simp [hnot, Ne.symm hstart], ?_, fresh, ?_, hdisj, rfl, rfl⟩
          · simpa [List.cons_subset, hall] using Or.inr (by simpa using hvisited)
          · exact List.subset_cons_of_subset node hsub
        · next hvisited =>
          obtain ⟨hnot, hall, fresh, hsub, hdisj, rfl, rfl⟩ := ih h
          refine ⟨by simp [hnot, Ne.symm hstart], ?_, fresh ++ [node], ?_, ?_, by simp, by simp⟩
          · simp [List.cons_subset, hall]
          · simpa using List.Subset.trans hsub (List.subset_cons_self node nodes)
          · rw [List.disjoint_append_left]
            refine ⟨List.disjoint_of_disjoint_cons_right hdisj, ?_⟩
            simpa using hvisited

end Expansion

/-! ### The search -/

/-- A path from the start to a node that meets marked nodes only, none of them twice. -/
structure Trail (g : Graph) (start : String) (visited : List String) (node : String)
    (path : List String) : Prop where
  shape : ∃ between, path = start :: between ∧ between.Nodup ∧ between ⊆ visited
  last : path.getLast? = some node
  linked : path.IsChain g.Edge

/-- The state of the search between two steps: every path on the stack is a trail, and what depends
on a marked node that no longer waits is marked and is not the start. -/
structure Searching (g : Graph) (start : String) (stack : Stack) (visited : List String) :
    Prop where
  trails : ∀ entry ∈ stack, Trail g start visited entry.1 entry.2
  unmarked : start ∉ visited
  explored : ∀ node, node = start ∨ node ∈ visited →
    node ∈ stack.map Prod.fst ∨ ∀ target ∈ g.next node, target ≠ start ∧ target ∈ visited

section Search

variable {g : Graph} {start node : String} {path : List String} {rest : Stack}
  {visited : List String}

theorem Searching.initial (g : Graph) (start : String) :
    Searching g start [(start, [start])] [] where
  trails := by
    simp only [List.mem_singleton, forall_eq]
    exact ⟨⟨[], rfl, List.nodup_nil, List.nil_subset _⟩, rfl, List.isChain_singleton _⟩
  unmarked := List.not_mem_nil
  explored := by simp

/-- A node that was not marked extends a trail. -/
theorem Trail.snoc (h : Trail g start visited node path) {target : String} {marked : List String}
    (hedge : g.Edge node target) (hfresh : target ∉ visited) (hsub : visited ⊆ marked)
    (hmarked : target ∈ marked) : Trail g start marked target (path ++ [target]) := by
  obtain ⟨between, rfl, hnodup, hvisited⟩ := h.shape
  refine ⟨⟨between ++ [target], rfl, ?_, ?_⟩, List.getLast?_concat, ?_⟩
  · rw [← List.concat_eq_append]
    exact List.Nodup.concat (fun hm => hfresh (hvisited hm)) hnodup
  · simpa using ⟨List.Subset.trans hvisited hsub, hmarked⟩
  · refine h.linked.append (List.isChain_singleton _) ?_
    simpa [h.last] using hedge

theorem Trail.mono (h : Trail g start visited node path) {marked : List String}
    (hsub : visited ⊆ marked) : Trail g start marked node path := by
  obtain ⟨between, hpath, hnodup, hvisited⟩ := h.shape
  exact ⟨⟨between, hpath, hnodup, List.Subset.trans hvisited hsub⟩, h.last, h.linked⟩

theorem Trail.close (h : Trail g start visited node path) (hstart : start ∉ visited)
    (hedge : g.Edge node start) : IsCycle g.Edge start (path ++ [start]) := by
  obtain ⟨between, rfl, hnodup, hvisited⟩ := h.shape
  refine ⟨⟨between, rfl, hnodup, fun hm => hstart (hvisited hm)⟩, ?_⟩
  refine h.linked.append (List.isChain_singleton _) ?_
  simpa [h.last] using hedge

theorem Searching.step (h : Searching g start ((node, path) :: rest) visited) {stack' : Stack}
    {visited' : List String}
    (hexpand : expand start path (g.next node) rest visited = .more stack' visited') :
    Searching g start stack' visited' := by
  obtain ⟨hstart, hall, fresh, hsub, hdisj, rfl, rfl⟩ := expand_eq_more hexpand
  have htrail : Trail g start visited node path := h.trails _ List.mem_cons_self
  refine ⟨?_, ?_, ?_⟩
  · intro entry hentry
    rcases List.mem_append.1 hentry with hnew | hold
    · obtain ⟨target, htarget, rfl⟩ := List.mem_map.1 hnew
      exact htrail.snoc (hsub htarget) (fun hm => hdisj htarget hm) (List.subset_append_right _ _)
        (List.mem_append_left _ htarget)
    · exact (h.trails entry (List.mem_cons_of_mem _ hold)).mono (List.subset_append_right _ _)
  · rw [List.mem_append, not_or]
    exact ⟨fun hm => hstart (hsub hm), h.unmarked⟩
  · intro other hother
    -- A node marked just now waits; of the others only the expanded one has left the stack.
    by_cases hnew : other ∈ fresh
    · exact Or.inl (by simp [hnew])
    by_cases hnode : other = node
    · refine Or.inr fun target htarget => ⟨?_, hall (hnode ▸ htarget)⟩
      rintro rfl
      exact hstart (hnode ▸ htarget)
    have hbefore : other = start ∨ other ∈ visited :=
      hother.imp_right fun hm => (List.mem_append.1 hm).resolve_left hnew
    rcases h.explored other hbefore with hwaits | hdone
    · have hrest : other ∈ rest.map Prod.fst := by simpa [hnode] using hwaits
      exact Or.inl (by rw [List.map_append]; exact List.mem_append_right _ hrest)
    · exact Or.inr fun target htarget =>
        ⟨(hdone target htarget).1, List.mem_append_right _ (hdone target htarget).2⟩

/-- A set of nodes that holds all their dependencies, the start not among these, lets no path come
back to the start. -/
theorem not_transGen_of_explored {explored : List String}
    (h : ∀ node, node = start ∨ node ∈ explored →
      ∀ target ∈ g.next node, target ≠ start ∧ target ∈ explored) :
    ¬ TransGen g.Edge start start := by
  have hreach : ∀ node, ReflTransGen g.Edge start node → node = start ∨ node ∈ explored := by
    intro node hpath
    induction hpath with
    | refl => exact Or.inl rfl
    | tail _ hedge ih => exact Or.inr (h _ ih _ hedge).2
  intro hcycle
  obtain ⟨node, hpath, hedge⟩ := TransGen.tail'_iff.1 hcycle
  exact (h node (hreach node hpath) start hedge).1 rfl

theorem search_spec (g : Graph) (start : String) (stack : Stack) (visited : List String)
    (h : Searching g start stack visited) :
    match g.search start stack visited with
    | some cycle => IsCycle g.Edge start cycle
    | none => ¬ TransGen g.Edge start start := by
  fun_induction search g start stack visited with
  | case1 visited =>
      have hexplored : ∀ node, node = start ∨ node ∈ visited →
          ∀ target ∈ g.next node, target ≠ start ∧ target ∈ visited := by
        intro node hnode
        simpa using h.explored node hnode
      exact not_transGen_of_explored hexplored
  | case2 visited node path rest cycle hexpand =>
      obtain ⟨hedge, rfl⟩ := expand_eq_closed hexpand
      exact (h.trails _ List.mem_cons_self).close h.unmarked hedge
  | case3 visited node path rest stack' visited' hexpand ih => exact ih (h.step hexpand)

end Search

theorem isCycle_of_cycle?_eq_some {g : Graph} {start : String} {path : List String}
    (h : g.cycle? start = some path) : IsCycle g.Edge start path := by
  have hspec := search_spec g start _ _ (Searching.initial g start)
  rw [show g.search start [(start, [start])] [] = some path from h] at hspec
  exact hspec

theorem cycle?_eq_none_iff {g : Graph} {start : String} :
    g.cycle? start = none ↔ ¬ TransGen g.Edge start start := by
  constructor
  · intro h
    have hspec := search_spec g start _ _ (Searching.initial g start)
    rw [show g.search start [(start, [start])] [] = none from h] at hspec
    exact hspec
  · intro h
    cases hpath : g.cycle? start with
    | none => rfl
    | some path => exact absurd (isCycle_of_cycle?_eq_some hpath).transGen h

end TaskAudit.Graph
