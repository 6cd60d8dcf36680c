import TaskAudit.Catalog

/-!
# Dependency graphs

A graph lists under each node the nodes that it depends on. The search for a cycle follows the
newest path first and visits a node once; it never counts the start as visited, so that it can come
back to it.
-/

namespace TaskAudit

abbrev Graph := Catalog (List String)

namespace Graph

/-- The nodes that a node depends on, none for a node that is not listed. -/
def next (g : Graph) (node : String) : List String := (g.find? node).getD []

/-- Every node that something depends on, as often as it is listed. -/
def targets (g : Graph) : List String := g.entries.flatMap (·.2)

/-- How many of the targets are not visited yet. -/
def unvisited (g : Graph) (visited : List String) : Nat :=
  (g.targets.filter fun node => !visited.contains node).length

/-- Paths from the start that are still to be followed, the newest first, each with its last
node. -/
abbrev Stack := List (String × List String)

/-- What following the edges out of a node gives: a path that is back at the start, or the stack and
the visited nodes after them. -/
inductive Expansion where
  | closed (path : List String)
  | more (stack : Stack) (visited : List String)

def expand (start : String) (path : List String) : List String → Stack → List String → Expansion
  | [], stack, visited => .more stack visited
  | node :: nodes, stack, visited =>
    if node = start then .closed (path ++ [start])
    else if visited.contains node then expand start path nodes stack visited
    else expand start path nodes ((node, path ++ [node]) :: stack) (node :: visited)

theorem mem_targets_of_mem_next {g : Graph} {node target : String} (h : target ∈ g.next node) :
    target ∈ g.targets := by
  have key : ∀ (entries : List (String × List String)),
      target ∈ (Catalog.get? node entries).getD [] → ∃ e ∈ entries, target ∈ e.2 := by
    intro entries
    induction entries with
    | nil => simp [Catalog.get?]
    | cons e rest ih =>
      intro hm
      by_cases hn : e.1 = node
      · exact ⟨e, List.mem_cons_self, by simpa [Catalog.get?, hn] using hm⟩
      · obtain ⟨e', he', ht⟩ := ih (by simpa [Catalog.get?, hn] using hm)
        exact ⟨e', List.mem_cons_of_mem _ he', ht⟩
  exact List.mem_flatMap.2 (key g.entries h)

theorem unvisited_cons_lt {g : Graph} {node : String} {visited : List String}
    (ht : node ∈ g.targets) (hv : visited.contains node = false) :
    g.unvisited (node :: visited) < g.unvisited visited := by
  unfold unvisited
  generalize g.targets = nodes at ht
  have hle (l : List String) :
      (l.filter fun n => !(node :: visited).contains n).length ≤
        (l.filter fun n => !visited.contains n).length := by
    rw [← List.countP_eq_length_filter, ← List.countP_eq_length_filter]
    exact List.countP_mono_left fun n _ => by simp
  induction nodes with
  | nil => simp at ht
  | cons n rest ih =>
    by_cases hn : n = node
    · subst hn
      have := hle rest
      rw [List.filter_cons, List.filter_cons, if_neg (by simp), if_pos (by simpa using hv)]
      simp only [List.length_cons]
      omega
    · have hlt := ih ((List.mem_cons.1 ht).resolve_left fun e => hn e.symm)
      by_cases hs : visited.contains n
      · rw [List.filter_cons, List.filter_cons, if_neg (by simp at hs; simp [hs]),
          if_neg (by simpa using hs)]
        exact hlt
      · rw [List.filter_cons, List.filter_cons, if_pos (by simp at hs; simp [hs, hn]),
          if_pos (by simpa using hs)]
        simpa using hlt

/-- Each path put on the stack ends in a node that was not visited before. -/
theorem expand_measure {g : Graph} {start : String} {path nodes : List String} {stack : Stack}
    {visited : List String} {stack' : Stack} {visited' : List String}
    (hn : ∀ node ∈ nodes, node ∈ g.targets)
    (h : expand start path nodes stack visited = .more stack' visited') :
    stack'.length + g.unvisited visited' ≤ stack.length + g.unvisited visited := by
  induction nodes generalizing stack visited with
  | nil =>
    simp only [expand, Expansion.more.injEq] at h
    obtain ⟨rfl, rfl⟩ := h
    exact Nat.le_refl _
  | cons node nodes ih =>
    have hrest : ∀ n ∈ nodes, n ∈ g.targets := fun n hm => hn n (List.mem_cons_of_mem _ hm)
    unfold expand at h
    split at h
    · simp at h
    · split at h
      · exact ih hrest h
      · next hv =>
        have hlt := unvisited_cons_lt (hn node List.mem_cons_self) (by simpa using hv)
        have := ih hrest h
        simp only [List.length_cons] at this
        omega

/-- Follows the paths of a stack until one is back at the start. -/
def search (g : Graph) (start : String) (stack : Stack) (visited : List String) :
    Option (List String) :=
  match stack with
  | [] => none
  | (node, path) :: rest =>
    match _h : expand start path (g.next node) rest visited with
    | .closed cycle => some cycle
    | .more stack' visited' => search g start stack' visited'
termination_by stack.length + g.unvisited visited
decreasing_by
  have := expand_measure (fun _ hm => mem_targets_of_mem_next hm) (by assumption)
  simp only [List.length_cons]
  omega

/-- A path of dependencies from a node back to itself, if there is one. -/
def cycle? (g : Graph) (start : String) : Option (List String) :=
  g.search start [(start, [start])] []

end Graph

end TaskAudit
