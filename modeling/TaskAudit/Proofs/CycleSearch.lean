import Mathlib.Algebra.GroupWithZero.Nat
import Mathlib.Algebra.Order.BigOperators.Group.Finset
import Mathlib.Data.List.Perm.Subperm
import TaskAudit.Proofs.Cycle

/-!
# The course of the search for a cycle

The search goes on until a path is back at the start or no path is left. It opens a node at most
once, and only the start and nodes that something depends on, so it comes to an end in any graph,
and on the way it looks at every listed dependency at most once.
-/

namespace TaskAudit.Graph

open Relation

/-- The search from a stack opens some nodes, one after the other, and ends with a result. -/
inductive Opens (g : Graph) (start : String) :
    Stack → List String → List String → Option (List String) → Prop
  | exhausted (visited : List String) : Opens g start [] visited [] none
  | closed {node : String} {path visited cycle : List String} {rest : Stack} :
    expand start path (g.next node) rest visited = .closed cycle →
      Opens g start ((node, path) :: rest) visited [node] (some cycle)
  | more {node : String} {path visited visited' opened : List String} {rest stack' : Stack}
      {result : Option (List String)} :
    expand start path (g.next node) rest visited = .more stack' visited' →
      Opens g start stack' visited' opened result →
      Opens g start ((node, path) :: rest) visited (node :: opened) result

/-- What is known of the nodes on the stack: each of them waits there once, and all but the start
are marked. -/
structure Waiting (start : String) (stack : Stack) (visited : List String) : Prop where
  nodup : (stack.map Prod.fst).Nodup
  subset : stack.map Prod.fst ⊆ start :: visited
  marked : visited.Nodup
  unmarked : start ∉ visited

section Search

variable {g : Graph} {start node : String} {path nodes visited visited' opened : List String}
  {rest stack stack' : Stack} {result : Option (List String)}

theorem exists_opens (g : Graph) (start : String) (stack : Stack) (visited : List String) :
    ∃ opened, Opens g start stack visited opened (g.search start stack visited) := by
  fun_induction search g start stack visited with
  | case1 visited => exact ⟨[], .exhausted visited⟩
  | case2 visited node path rest cycle hexpand => exact ⟨[node], .closed hexpand⟩
  | case3 visited node path rest stack' visited' hexpand ih =>
      obtain ⟨opened, hopened⟩ := ih
      exact ⟨node :: opened, .more hexpand hopened⟩

/-! ### Nodes on the stack -/

theorem nodup_of_expand_eq_more (hvisited : visited.Nodup)
    (h : expand start path nodes stack visited = .more stack' visited') : visited'.Nodup := by
  induction nodes generalizing stack visited with
  | nil =>
      obtain ⟨-, rfl⟩ := Expansion.more.inj h
      exact hvisited
  | cons node nodes ih =>
      unfold expand at h
      split at h
      · simp at h
      · split at h
        · exact ih hvisited h
        · next hnew => exact ih (List.nodup_cons.2 ⟨by simpa using hnew, hvisited⟩) h

theorem map_fst_pushed (fresh path : List String) (rest : Stack) :
    (fresh.map (fun n => (n, path ++ [n])) ++ rest).map Prod.fst = fresh ++ rest.map Prod.fst := by
  simp [Function.comp_def]

theorem Waiting.initial (start : String) : Waiting start [(start, [start])] [] where
  nodup := List.nodup_singleton start
  subset := List.Subset.refl [start]
  marked := List.nodup_nil
  unmarked := List.not_mem_nil

/-- The node that is opened leaves the stack, and what is put there is marked just now. -/
theorem Waiting.step (h : Waiting start ((node, path) :: rest) visited)
    (hexpand : expand start path (g.next node) rest visited = .more stack' visited') :
    Waiting start stack' visited' ∧ visited ⊆ visited' ∧
      ∀ n ∈ stack'.map Prod.fst, n ∈ rest.map Prod.fst ∨ n ∉ start :: visited := by
  have hmarked := nodup_of_expand_eq_more h.marked hexpand
  obtain ⟨hstart, -, fresh, hsub, hdisj, rfl, rfl⟩ := expand_eq_more hexpand
  have hrest : rest.map Prod.fst ⊆ start :: visited := (List.cons_subset.1 h.subset).2
  have hnew : ∀ n ∈ fresh, n ∉ start :: visited := by
    intro n hfresh hn
    rcases List.mem_cons.1 hn with rfl | hvisited
    · exact hstart (hsub hfresh)
    · exact hdisj hfresh hvisited
  rw [map_fst_pushed]
  refine ⟨⟨?_, ?_, hmarked, ?_⟩, List.subset_append_right fresh visited, fun n hn => ?_⟩
  · rw [map_fst_pushed]
    refine (List.nodup_append.1 hmarked).1.append (List.nodup_cons.1 h.nodup).2 ?_
    exact fun n hfresh hn => hnew n hfresh (hrest hn)
  · rw [map_fst_pushed, List.append_subset]
    constructor
    · exact fun n hn => List.mem_cons_of_mem start (List.mem_append_left visited hn)
    · have hgrown : visited ⊆ fresh ++ visited := List.subset_append_right fresh visited
      exact List.Subset.trans hrest (List.cons_subset_cons start hgrown)
  · rw [List.mem_append, not_or]
    exact ⟨fun hfresh => hstart (hsub hfresh), h.unmarked⟩
  · exact (List.mem_append.1 hn).symm.imp_right (hnew n)

/-- The induction is on the search: what it opens from now on waits or is not marked yet, and the
node opened first is marked and does not wait any longer. -/
theorem Opens.nodup (h : Opens g start stack visited opened result)
    (hwaiting : Waiting start stack visited) :
    opened.Nodup ∧ ∀ n ∈ opened, n ∈ stack.map Prod.fst ∨ n ∉ start :: visited := by
  induction h with
  | exhausted visited => simp
  | closed hexpand => simp
  | @more node path visited visited' opened rest stack' result hexpand _ ih =>
      obtain ⟨hwaiting', hsub, hstack⟩ := hwaiting.step hexpand
      obtain ⟨hnodup, hopened⟩ := ih hwaiting'
      have hnode : node ∈ start :: visited := hwaiting.subset List.mem_cons_self
      have hlater : ∀ n ∈ opened, n ∈ rest.map Prod.fst ∨ n ∉ start :: visited := by
        intro n hn
        rcases hopened n hn with hwaits | hnew
        · exact hstack n hwaits
        · exact .inr fun hmem => hnew (List.cons_subset_cons start hsub hmem)
      constructor
      · refine List.nodup_cons.2 ⟨fun hmem => ?_, hnodup⟩
        exact (hlater node hmem).elim (List.nodup_cons.1 hwaiting.nodup).1 fun h => h hnode
      · rw [List.forall_mem_cons]
        refine ⟨.inl List.mem_cons_self, fun n hn => ?_⟩
        exact (hlater n hn).imp_left (List.mem_cons_of_mem node)

theorem Opens.subset (h : Opens g start stack visited opened result)
    (hstack : stack.map Prod.fst ⊆ start :: g.targets) : opened ⊆ start :: g.targets := by
  induction h with
  | exhausted visited => exact List.nil_subset _
  | closed hexpand => exact List.cons_subset.2 ⟨hstack List.mem_cons_self, List.nil_subset _⟩
  | @more node path visited visited' opened rest stack' result hexpand _ ih =>
      obtain ⟨hnode, hrest⟩ := List.cons_subset.1 hstack
      refine List.cons_subset.2 ⟨hnode, ih ?_⟩
      obtain ⟨-, -, fresh, hsub, -, -, rfl⟩ := expand_eq_more hexpand
      rw [map_fst_pushed, List.append_subset]
      exact ⟨fun n hn => List.mem_cons_of_mem start (mem_targets_of_mem_next (hsub hn)), hrest⟩

/-! ### What the search looks at -/

theorem targets_eq_flatMap (g : Graph) : g.targets = g.names.flatMap g.next := by
  rw [targets, Catalog.entries_eq_map g [], List.flatMap_map]
  rfl

theorem next_eq_nil (h : node ∉ g.names) : g.next node = [] := by
  rw [next, Catalog.find?, Catalog.get?_eq_none_iff.2 h]
  rfl

/-- Different nodes have different dependencies listed, so that going through those of each counts
none twice. -/
theorem sum_length_next_le (h : opened.Nodup) :
    (opened.map fun node => (g.next node).length).sum ≤ g.targets.length := by
  have hnames : g.names.Nodup := g.nodup
  rw [targets_eq_flatMap, List.length_flatMap, ← List.sum_toFinset _ h,
    ← List.sum_toFinset _ hnames]
  refine Finset.sum_le_sum_of_ne_zero fun node _ hlength => ?_
  rw [List.mem_toFinset]
  by_contra hnot
  rw [next_eq_nil hnot] at hlength
  exact hlength rfl

end Search

/-- **The search for a cycle.** In every graph it comes to an end: it opens different nodes, only
the start and such that something depends on, and they have no more dependencies together than the
graph lists. It finds nothing exactly if no path leads from the start back to it, and a path that it
finds is a cycle. -/
theorem cycle?_exact (g : Graph) (start : String) :
    (∃ opened, Opens g start [(start, [start])] [] opened (g.cycle? start) ∧ opened.Nodup ∧
      opened ⊆ start :: g.targets ∧ opened.length ≤ g.targets.length + 1 ∧
      (opened.map fun node => (g.next node).length).sum ≤ g.targets.length) ∧
    (g.cycle? start = none ↔ ¬ TransGen g.Edge start start) ∧
    ∀ path, g.cycle? start = some path → IsCycle g.Edge start path := by
  refine ⟨?_, cycle?_eq_none_iff, fun path => isCycle_of_cycle?_eq_some⟩
  obtain ⟨opened, hopened⟩ := exists_opens g start [(start, [start])] []
  have hnodup := (hopened.nodup (.initial start)).1
  have hsub : opened ⊆ start :: g.targets :=
    hopened.subset (List.cons_subset.2 ⟨List.mem_cons_self, List.nil_subset _⟩)
  exact ⟨opened, hopened, hnodup, hsub, (hnodup.subperm hsub).length_le, sum_length_next_le hnodup⟩

/-- Dependencies that are listed twice, on nodes without a list, and on the node itself. -/
def tangled : Graph :=
  Catalog.ofPairs [("A", ["B", "B", "X"]), ("B", ["B", "C", "X"]), ("C", ["B", "A"])]

theorem cycle?_exact_tangled : tangled.cycle? "A" = some ["A", "B", "C", "A"] ∧
    IsCycle tangled.Edge "A" ["A", "B", "C", "A"] ∧ tangled.cycle? "X" = none ∧
    ¬ TransGen tangled.Edge "X" "X" := by
  have hfound : tangled.cycle? "A" = some ["A", "B", "C", "A"] := by decide +kernel
  have hnone : tangled.cycle? "X" = none := by decide +kernel
  obtain ⟨-, -, hcycle⟩ := cycle?_exact tangled "A"
  obtain ⟨-, hiff, -⟩ := cycle?_exact tangled "X"
  exact ⟨hfound, hcycle _ hfound, hnone, hiff.1 hnone⟩

end TaskAudit.Graph
