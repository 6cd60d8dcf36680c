import TaskAudit.Pattern

/-!
# What patterns match

The ways that an expression has to go on from a spot, in their order of preference, and the proof
that the search goes on with the first of them that leads to an end. No way leads back or beyond the
text, and so a repetition without end has no more ways than one that is cut off where the search
cuts it off.
-/

namespace TaskAudit.Pattern

/-! ### Ways -/

/-- Where it may go on from a spot, the preferred ways first. -/
abbrev Ways := Spot → List Spot

namespace Ways

def one (text : Array Char) (p : Char → Bool) : Ways := fun s =>
  if text[s.pos]?.any p then [s.goto (s.pos + 1)] else []

/-- Only the first of some ways. -/
def first (w : Ways) : Ways := fun s => (w s).head?.toList

/-- The ways that a repetition tries each time. -/
def each (w : Ways) (greed : Greed) : Ways := if greed = .possessive then first w else w

def times (w : Ways) : Nat → Ways
  | 0, s => [s]
  | n + 1, s => (w s).flatMap (times w n)

def upTo (w : Ways) (greed : Greed) : Nat → Option Nat → Ways
  | 0, _, s => [s]
  | n + 1, last, s =>
    if last = some s.pos then [s]
    else
      let more := (w s).flatMap (upTo w greed n (some s.pos))
      match greed with
      | .greedy => more ++ [s]
      | .lazy => s :: more
      | .possessive =>
        match (w s).head? with
        | some t => upTo w greed n (some s.pos) t
        | none => [s]

def rep (w : Ways) (greed : Greed) (least more : Nat) : Ways := fun s =>
  (times w least s).flatMap (upTo w greed more none)

end Ways

open Ways

def Expr.ways (text : Array Char) : Expr → Ways
  | empty, s => [s]
  | any lineFeed, s => one text (fun c => lineFeed || c != '\n') s
  | oneOf m negated items, s => one text (fun c => inSet m c items != negated) s
  | anchor a, s => if a.holds text s.pos then [s] else []
  | seq left right, s => (left.ways text s).flatMap (right.ways text)
  | alt left right, s => left.ways text s ++ right.ways text s
  | .rep greed body least most, s =>
    ((body.ways text).each greed).rep greed least (most.elim (text.size + 1) (· - least)) s
  | group index body, s => (body.ways text s).map fun t => t.mark index s.pos
  | again m index _, s => (Search.again text m index s some).toList
  | ahead negated body, s =>
    match (body.ways text s).head? with
    | some t => if negated then [] else [t.goto s.pos]
    | none => if negated then [s] else []
  | behind negated width body, s =>
    match if width ≤ s.pos then (body.ways text (s.goto (s.pos - width))).head? else none with
    | some t => if negated then [] else [t.goto s.pos]
    | none => if negated then [s] else []
  | atomic body, s => first (body.ways text) s
  | either index yes no, s =>
    if (s.group? index).isSome then yes.ways text s else no.ways text s

/-! ### The search finds the ways -/

theorem findSome?_flatMap {α β γ : Type} {f : β → Option γ} {g : α → List β} {l : List α} :
    (l.flatMap g).findSome? f = l.findSome? fun a => (g a).findSome? f := by
  rw [← List.head?_filterMap, List.filterMap_flatMap, List.head?_flatMap]
  simp only [List.head?_filterMap]

/-- A search goes on with the first of the ways that leads to an end. -/
def Search.Finds (f : Search) (w : Ways) : Prop := ∀ s next, f s next = (w s).findSome? next

namespace Search

variable {f : Search} {w : Ways} {text : Array Char}

theorem Finds.some_eq (h : Finds f w) (s : Spot) : f s some = (w s).head? := by
  rw [h, ← List.head?_filterMap, List.filterMap_some]

theorem finds_one (p : Char → Bool) : Finds (Search.one text p) (Ways.one text p) := by
  intro s next
  rw [Search.one, Ways.one]
  split <;> simp

theorem Finds.settled (h : Finds f w) : Finds (settled f) (first w) := by
  intro s next
  rw [Search.settled, h.some_eq, first]
  cases (w s).head? <;> simp

theorem Finds.each (h : Finds f w) (greed : Greed) :
    Finds (if greed = .possessive then Search.settled f else f) (w.each greed) := by
  rw [Ways.each]
  split
  · exact h.settled
  · exact h

theorem Finds.times (h : Finds f w) (n : Nat) : Finds (times f n) (w.times n) := by
  induction n with
  | zero => exact fun s next => by simp [Search.times, Ways.times]
  | succ n ih =>
      intro s next
      rw [Search.times, Ways.times, h, findSome?_flatMap]
      exact congrArg (fun g => (w s).findSome? g) (funext fun t => ih t next)

theorem Finds.upTo (h : Finds f w) (greed : Greed) (n : Nat) (last : Option Nat) :
    Finds (upTo f greed n last) (w.upTo greed n last) := by
  induction n generalizing last with
  | zero => exact fun s next => by simp [Search.upTo, Ways.upTo]
  | succ n ih =>
      intro s next
      have hmore : f s (fun t => Search.upTo f greed n (some s.pos) t next) =
          ((w s).flatMap (w.upTo greed n (some s.pos))).findSome? next := by
        rw [h, findSome?_flatMap]
        exact congrArg (fun g => (w s).findSome? g) (funext fun t => ih _ t next)
      by_cases hlast : last = some s.pos
      · simp [Search.upTo, Ways.upTo, hlast]
      · cases greed with
        | greedy => simp [Search.upTo, Ways.upTo, hlast, hmore, List.findSome?_append]
        | lazy =>
            simp only [Search.upTo, Ways.upTo, if_neg hlast, hmore, List.findSome?_cons]
            cases next s <;> simp
        | possessive =>
            simp only [Search.upTo, Ways.upTo, if_neg hlast, h.some_eq]
            cases (w s).head? with
            | none => simp
            | some t => exact ih _ t next

theorem Finds.rep (h : Finds f w) (greed : Greed) (least more : Nat) (s : Spot)
    (next : Spot → Option Spot) :
    (Search.times f least s fun t => Search.upTo f greed more none t next) =
      (w.rep greed least more s).findSome? next := by
  have hmore : (fun t => Search.upTo f greed more none t next) =
      fun t => (w.upTo greed more none t).findSome? next :=
    funext fun t => h.upTo greed more none t next
  rw [Ways.rep, findSome?_flatMap, h.times, hmore]

end Search

open Search in
/-- **The search is exact**: it goes on with the first way that leads to an end. -/
theorem Expr.finds_search (text : Array Char) (e : Expr) : Finds (e.search text) (e.ways text) := by
  induction e with
  | empty => exact fun s next => by simp [search, ways]
  | any lineFeed => exact finds_one _
  | oneOf m negated items => exact finds_one _
  | anchor a =>
      intro s next
      rw [search, ways]
      split <;> simp
  | seq left right ihleft ihright =>
      intro s next
      rw [search, ways, ihleft, findSome?_flatMap]
      exact congrArg (fun g => (left.ways text s).findSome? g) (funext fun t => ihright t next)
  | alt left right ihleft ihright =>
      intro s next
      rw [search, ways, ihleft, ihright, List.findSome?_append, Option.orElse_eq_orElse,
        Option.orElse_eq_or]
  | rep greed body least most ih =>
      intro s next
      refine Eq.trans ?_ ((ih.each greed).rep greed least _ s next)
      cases most <;> rfl
  | group index body ih =>
      intro s next
      rw [search, ways, ih, List.findSome?_map]
      rfl
  | again m index width =>
      intro s next
      rw [search, ways, Search.again, Search.again]
      cases s.group? index with
      | none => simp
      | some found =>
          dsimp only
          split <;> simp
  | ahead negated body ih =>
      intro s next
      rw [search, ways, ih.some_eq]
      cases (body.ways text s).head? <;> cases negated <;> simp
  | behind negated width body ih =>
      intro s next
      rw [search, ways, ih.some_eq]
      generalize (if width ≤ s.pos then (body.ways text (s.goto (s.pos - width))).head? else none) =
        found
      cases found <;> cases negated <;> simp
  | atomic body ih => exact ih.settled
  | either index yes no ihyes ihno =>
      intro s next
      rw [search, ways]
      split
      · exact ihyes s next
      · exact ihno s next

/-- A pattern accepts a text when its expression has a way to go on from the start. -/
theorem accepts_iff {p : Pattern} {s : String} :
    p.accepts s = true ↔ ∃ t, t ∈ p.expr.ways s.toList.toArray .start := by
  rw [accepts, (p.expr.finds_search _).some_eq, List.isSome_head?]
  exact ⟨List.exists_mem_of_ne_nil _, fun ⟨_, ht⟩ => List.ne_nil_of_mem ht⟩

/-! ### Repetitions without end -/

/-- No way leads back, and none leads beyond a place. -/
def Ways.Forward (size : Nat) (w : Ways) : Prop :=
  ∀ s, s.pos ≤ size → ∀ t ∈ w s, s.pos ≤ t.pos ∧ t.pos ≤ size

namespace Ways

variable {w : Ways} {size : Nat} {text : Array Char} {p : Char → Bool}

theorem forward_one : Forward text.size (one text p) := by
  intro s _ t ht
  rw [one] at ht
  split at ht
  · next hc =>
    obtain ⟨c, hc, -⟩ := (Option.any_eq_true _ _).1 hc
    have hpos : s.pos < text.size := (Array.getElem?_eq_some_iff.1 hc).1
    rw [List.mem_singleton.1 ht]
    exact ⟨Nat.le_succ _, hpos⟩
  · exact absurd ht List.not_mem_nil

theorem forward_self {s : Spot} (hs : s.pos ≤ size) {t : Spot} (ht : t ∈ [s]) :
    s.pos ≤ t.pos ∧ t.pos ≤ size := by
  rw [List.mem_singleton.1 ht]
  exact ⟨Nat.le_refl _, hs⟩

theorem Forward.flatMap {v : Ways} (hw : Forward size w) (hv : Forward size v) :
    Forward size fun s => (w s).flatMap v := by
  intro s hs t ht
  obtain ⟨u, hu, ht⟩ := List.mem_flatMap.1 ht
  obtain ⟨hback, husize⟩ := hw s hs u hu
  obtain ⟨hforth, htsize⟩ := hv u husize t ht
  exact ⟨Nat.le_trans hback hforth, htsize⟩

theorem Forward.first (hw : Forward size w) : Forward size (first w) := fun s hs t ht =>
  hw s hs t (List.mem_of_mem_head? (Option.mem_toList.1 ht))

theorem Forward.each (hw : Forward size w) (greed : Greed) : Forward size (w.each greed) := by
  rw [Ways.each]
  split
  · exact hw.first
  · exact hw

theorem Forward.times (hw : Forward size w) (n : Nat) : Forward size (w.times n) := by
  induction n with
  | zero => exact fun s hs t ht => forward_self hs ht
  | succ n ih => exact hw.flatMap ih

theorem Forward.upTo (hw : Forward size w) (greed : Greed) (n : Nat) (last : Option Nat) :
    Forward size (w.upTo greed n last) := by
  induction n generalizing last with
  | zero => exact fun s hs t ht => forward_self hs ht
  | succ n ih =>
      intro s hs t ht
      have hmore := hw.flatMap (ih (some s.pos)) s hs t
      rw [Ways.upTo] at ht
      split at ht
      · exact forward_self hs ht
      · cases greed with
        | greedy => exact (List.mem_append.1 ht).elim hmore fun ht => forward_self hs ht
        | lazy =>
            rcases List.mem_cons.1 ht with rfl | ht
            · exact ⟨Nat.le_refl _, hs⟩
            · exact hmore ht
        | possessive =>
            dsimp only at ht
            split at ht
            · next u hu =>
              exact hmore (List.mem_flatMap.2 ⟨u, List.mem_of_mem_head? hu, ht⟩)
            · exact forward_self hs ht

/-- All but the last of some repetitions go ahead, so more of them than there is room for change
nothing. -/
theorem Forward.upTo_eq (hw : Forward size w) (greed : Greed) {n m : Nat} {last : Option Nat}
    {s : Spot} (hs : s.pos ≤ size) (hn : size - s.pos < n) (hm : size - s.pos < m) :
    w.upTo greed n last s = w.upTo greed m last s := by
  induction n generalizing m last s with
  | zero => exact absurd hn (Nat.not_lt_zero _)
  | succ n ih =>
      obtain ⟨m, rfl⟩ := Nat.exists_eq_succ_of_ne_zero (Nat.ne_zero_of_lt hm)
      have hnext : ∀ t ∈ w s,
          w.upTo greed n (some s.pos) t = w.upTo greed m (some s.pos) t := by
        intro t ht
        obtain ⟨hback, hsize⟩ := hw s hs t ht
        by_cases hsame : s.pos = t.pos
        · -- What has taken nothing is not repeated, however often it might be.
          have hstop : ∀ k, w.upTo greed k (some s.pos) t = [t] := by
            intro k
            cases k <;> simp [Ways.upTo, hsame]
          rw [hstop, hstop]
        · exact ih hsize (by omega) (by omega)
      have hmore : (w s).flatMap (w.upTo greed n (some s.pos)) =
          (w s).flatMap (w.upTo greed m (some s.pos)) := by
        rw [List.flatMap_def, List.flatMap_def, List.map_congr_left hnext]
      by_cases hlast : last = some s.pos
      · simp [Ways.upTo, hlast]
      · cases greed with
        | greedy => simp [Ways.upTo, hlast, hmore]
        | lazy => simp [Ways.upTo, hlast, hmore]
        | possessive =>
            simp only [Ways.upTo, if_neg hlast]
            cases hfirst : (w s).head? with
            | none => rfl
            | some t => exact hnext t (List.mem_of_mem_head? hfirst)

end Ways

theorem Expr.forward_ways (text : Array Char) (e : Expr) : Forward text.size (e.ways text) := by
  induction e with
  | empty => exact fun s hs t ht => forward_self hs ht
  | any lineFeed => exact forward_one
  | oneOf m negated items => exact forward_one
  | anchor a =>
      intro s hs t ht
      rw [ways] at ht
      split at ht
      · exact forward_self hs ht
      · exact absurd ht List.not_mem_nil
  | seq left right ihleft ihright => exact ihleft.flatMap ihright
  | alt left right ihleft ihright =>
      exact fun s hs t ht => (List.mem_append.1 ht).elim (ihleft s hs t) (ihright s hs t)
  | rep greed body least most ih =>
      exact ((ih.each greed).times least).flatMap ((ih.each greed).upTo greed _ none)
  | group index body ih =>
      intro s hs t ht
      obtain ⟨u, hu, rfl⟩ := List.mem_map.1 ht
      exact ih s hs u hu
  | again m index width =>
      intro s hs t ht
      have ht : Search.again text m index s some = some t := Option.mem_toList.1 ht
      rw [Search.again] at ht
      split at ht
      · exact absurd ht nofun
      · dsimp only at ht
        split at ht
        · next hsame =>
          obtain ⟨hroom, -⟩ := Bool.and_eq_true_iff.1 hsame
          rw [← Option.some.inj ht]
          exact ⟨Nat.le_add_right _ _, of_decide_eq_true hroom⟩
        · exact absurd ht nofun
  | ahead negated body ih =>
      intro s hs t ht
      rw [ways] at ht
      split at ht <;> cases negated <;> simp_all [Spot.goto]
  | behind negated width body ih =>
      intro s hs t ht
      rw [ways] at ht
      split at ht <;> cases negated <;> simp_all [Spot.goto]
  | atomic body ih => exact ih.first
  | either index yes no ihyes ihno =>
      intro s hs t ht
      rw [ways] at ht
      split at ht
      · exact ihyes s hs t ht
      · exact ihno s hs t ht

/-- **A repetition without end is not cut short**: it has the ways of one up to any number of times
that is larger than the text is long. -/
theorem Expr.ways_rep_none {text : Array Char} {greed : Greed} {body : Expr} {least n : Nat}
    {s : Spot} (hs : s.pos ≤ text.size) (hn : text.size < n) :
    (rep greed body least none).ways text s =
      (rep greed body least (some (least + n))).ways text s := by
  have hbody := (body.forward_ways text).each greed
  have hmore : ∀ t ∈ ((body.ways text).each greed).times least s,
      ((body.ways text).each greed).upTo greed (text.size + 1) none t =
        ((body.ways text).each greed).upTo greed (least + n - least) none t := by
    intro t ht
    obtain ⟨-, hsize⟩ := hbody.times least s hs t ht
    exact hbody.upTo_eq greed hsize (by omega) (by omega)
  simp only [ways, Ways.rep, Option.elim, List.flatMap_def]
  rw [List.map_congr_left hmore]

/-! ### Runs of characters -/

section Sets

variable {ascii : Bool} {c : Char}

theorem inSet_run {first last : Nat} : inSet ⟨ascii, false⟩ c [.run first last] =
    (first ≤ c.toNat && c.toNat ≤ last) := by
  simp [inSet, Item.holds, Mode.inRun]

theorem inSet_kind {m : Mode} {k : Kind} {negated : Bool} :
    inSet m c [.kind k negated] = (k.holds m.ascii c != negated) := by
  simp [inSet, Item.holds]

theorem inSet_char {code : Nat} :
    inSet ⟨ascii, false⟩ c [.char code] = decide (c.toNat = code) := by
  simp [inSet, Mode.same, Mode.alikes, Mode.lower]

end Sets

/-- So many characters from a place on are of a kind. -/
def Runs (text : Array Char) (p : Char → Bool) (first n : Nat) : Prop :=
  ∀ i < n, text[first + i]?.any p = true

section Runs

variable {text : Array Char} {p : Char → Bool} {first n : Nat} {s : Spot}

theorem runs_of_toList_eq {before run rest : List Char}
    (h : text.toList = before ++ (run ++ rest)) (hrun : ∀ c ∈ run, p c = true) :
    Runs text p before.length run.length := by
  intro i hi
  have hget : text[before.length + i]? = some run[i] := by
    rw [← Array.getElem?_toList, h, List.getElem?_append_right (Nat.le_add_right _ _),
      Nat.add_sub_cancel_left, List.getElem?_append_left hi, List.getElem?_eq_getElem hi]
  rw [hget]
  exact hrun _ (List.getElem_mem hi)

theorem Runs.tail (h : Runs text p first (n + 1)) : Runs text p (first + 1) n := fun i hi => by
  have hnext := h (i + 1) (Nat.succ_lt_succ hi)
  rwa [← Nat.add_assoc, Nat.add_right_comm] at hnext

theorem Runs.add_le (h : Runs text p first n) (hn : n ≠ 0) : first + n ≤ text.size := by
  obtain ⟨k, rfl⟩ := Nat.exists_eq_succ_of_ne_zero hn
  obtain ⟨c, hc, -⟩ := (Option.any_eq_true _ _).1 (h k (Nat.lt_succ_self k))
  exact (Array.getElem?_eq_some_iff.1 hc).1

theorem Runs.one_eq (h : Runs text p s.pos (n + 1)) : Ways.one text p s = [s.goto (s.pos + 1)] :=
  if_pos (h 0 (Nat.succ_pos n))

theorem Runs.goto_mem_times (h : Runs text p s.pos n) :
    s.goto (s.pos + n) ∈ (Ways.one text p).times n s := by
  induction n generalizing s with
  | zero => exact List.mem_singleton_self _
  | succ n ih =>
      have hmore := ih (s := s.goto (s.pos + 1)) h.tail
      rw [Ways.times, h.one_eq, List.flatMap_singleton, Nat.add_comm n 1, ← Nat.add_assoc]
      exact hmore

theorem Ways.self_mem_upTo {w : Ways} (more : Nat) (last : Option Nat) :
    s ∈ w.upTo .greedy more last s := by
  cases more with
  | zero => exact List.mem_singleton_self s
  | succ more =>
      rw [Ways.upTo]
      split
      · exact List.mem_singleton_self s
      · exact List.mem_append_right _ (List.mem_singleton_self s)

theorem Runs.goto_mem_upTo {more : Nat} {last : Option Nat} (h : Runs text p s.pos n)
    (hn : n ≤ more) (hlast : last ≠ some s.pos) :
    s.goto (s.pos + n) ∈ (Ways.one text p).upTo .greedy more last s := by
  induction n generalizing s more last with
  | zero => exact Ways.self_mem_upTo more last
  | succ n ih =>
      obtain ⟨more, rfl⟩ := Nat.exists_eq_succ_of_ne_zero (Nat.ne_zero_of_lt hn)
      have hahead : some s.pos ≠ some (s.goto (s.pos + 1)).pos := by simp [Spot.goto]
      have hmore := ih (s := s.goto (s.pos + 1)) h.tail (Nat.le_of_succ_le_succ hn) hahead
      rw [Ways.upTo, if_neg hlast]
      refine List.mem_append_left _ ?_
      rw [h.one_eq, List.flatMap_singleton, Nat.add_comm n 1, ← Nat.add_assoc]
      exact hmore

/-- A repetition may take a run of characters in whole, if there are as many as it asks for. -/
theorem Expr.goto_mem_ways_rep {m : Mode} {negated : Bool} {items : List Item} {least : Nat}
    {most : Option Nat} (hs : s.pos = first)
    (h : Runs text (fun c => inSet m c items != negated) first n) (hleast : least ≤ n)
    (hmost : ∀ m, most = some m → n ≤ m) :
    s.goto (first + n) ∈ (rep .greedy (oneOf m negated items) least most).ways text s := by
  subst hs
  obtain ⟨k, rfl⟩ := Nat.exists_eq_add_of_le hleast
  have hfirst : Runs text (fun c => inSet m c items != negated) s.pos least := fun i hi =>
    h i (Nat.lt_add_right k hi)
  have hrest : Runs text (fun c => inSet m c items != negated)
      (s.goto (s.pos + least)).pos k := by
    intro i hi
    have hnext := h (least + i) (Nat.add_lt_add_left hi least)
    rwa [← Nat.add_assoc] at hnext
  have hmore : k ≤ most.elim (text.size + 1) (· - least) := by
    cases most with
    | none =>
        by_cases hk : least + k = 0
        · exact Nat.le_trans (Nat.le_of_eq (Nat.eq_zero_of_add_eq_zero_left hk)) (Nat.zero_le _)
        · have := h.add_le hk
          simp only [Option.elim]
          omega
    | some m =>
        have := hmost m rfl
        simp only [Option.elim]
        omega
  rw [← Nat.add_assoc]
  exact List.mem_flatMap.2
    ⟨_, hfirst.goto_mem_times, hrest.goto_mem_upTo hmore (Option.some_ne_none _).symm⟩

theorem Expr.exists_mem_ways_anchor {a : Anchor} (h : a.holds text s.pos = true) :
    ∃ t, t ∈ (anchor a).ways text s := by
  refine ⟨s, ?_⟩
  rw [ways, if_pos h]
  exact List.mem_singleton_self s

theorem Expr.mem_ways_seq {left right : Expr} {t u : Spot} (ht : t ∈ left.ways text s)
    (hu : u ∈ right.ways text t) : u ∈ (seq left right).ways text s :=
  List.mem_flatMap.2 ⟨t, ht, hu⟩

theorem Expr.exists_mem_ways_seq {left right : Expr} {t : Spot} (ht : t ∈ left.ways text s)
    (h : ∃ u, u ∈ right.ways text t) : ∃ u, u ∈ (seq left right).ways text s := by
  obtain ⟨u, hu⟩ := h
  exact ⟨u, mem_ways_seq ht hu⟩

theorem Expr.mark_mem_ways_group {body : Expr} {t : Spot} (index : Nat)
    (ht : t ∈ body.ways text s) : t.mark index s.pos ∈ (group index body).ways text s :=
  List.mem_map_of_mem ht

theorem Expr.goto_mem_ways_oneOf {m : Mode} {negated : Bool} {items : List Item}
    (h : text[s.pos]?.any (fun c => inSet m c items != negated) = true) :
    s.goto (s.pos + 1) ∈ (oneOf m negated items).ways text s := by
  rw [ways, Ways.one, if_pos h]
  exact List.mem_singleton_self _

/-- What may be left out may be there once. -/
theorem Expr.mem_ways_rep_of_mem {body : Expr} {t : Spot} (ht : t ∈ body.ways text s) :
    t ∈ (rep .greedy body 0 (some 1)).ways text s := by
  refine List.mem_flatMap.2 ⟨s, List.mem_singleton_self s, List.mem_append_left _ ?_⟩
  exact List.mem_flatMap.2 ⟨t, ht, List.mem_singleton_self t⟩

/-- What need not be repeated at all can be left out. -/
theorem Expr.self_mem_ways_rep {body : Expr} {most : Option Nat} :
    s ∈ (rep .greedy body 0 most).ways text s :=
  List.mem_flatMap.2 ⟨s, List.mem_singleton_self s, Ways.self_mem_upTo _ none⟩

end Runs

end TaskAudit.Pattern
