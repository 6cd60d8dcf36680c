/-!
# Scanning

Small steps over a text that return what they took and the rest. A step that always takes something
returns the rest with the proof that it is shorter, which is what ends the loops over them.
-/

namespace TaskAudit.Text

/-- A text that is shorter than a given one. -/
abbrev Shorter (cs : List Char) := { rest : List Char // rest.length < cs.length }

/-- All but the first character. -/
def Shorter.tail {c : Char} {cs : List Char} : Shorter (c :: cs) := ⟨cs, Nat.lt_succ_self _⟩

/-- The same rest of a text with one more character in front. -/
def Shorter.under {c : Char} {cs : List Char} (rest : Shorter cs) : Shorter (c :: cs) :=
  ⟨rest.1, Nat.lt_succ_of_lt rest.2⟩

@[simp]
theorem Shorter.val_tail {c : Char} {cs : List Char} : (tail : Shorter (c :: cs)).1 = cs := rfl

@[simp]
theorem Shorter.val_under {c : Char} {cs : List Char} (rest : Shorter cs) :
    (rest.under : Shorter (c :: cs)).1 = rest.1 := rfl

/-- What follows a given character at the start of a text. -/
def next? (c : Char) : (cs : List Char) → Option (Shorter cs)
  | [] => none
  | d :: _ => if d = c then some .tail else none

/-- The characters before the first occurrence of one, and those after it. -/
def upTo? (stop : Char) : (cs : List Char) → Option (List Char × Shorter cs)
  | [] => none
  | c :: cs =>
    if c = stop then some ([], .tail)
    else (upTo? stop cs).map fun (taken, rest) => (c :: taken, rest.under)

/-- The pieces of a text between the occurrences of a character. -/
def splitOn (stop : Char) : List Char → List (List Char)
  | [] => [[]]
  | c :: cs =>
    if c = stop then [] :: splitOn stop cs
    else
      match splitOn stop cs with
      | [] => [[c]]
      | piece :: more => (c :: piece) :: more

/-- What follows a given beginning. -/
def after? : (beginning cs : List Char) → Option (List Char)
  | [], cs => some cs
  | _ :: _, [] => none
  | b :: bs, c :: cs => if b = c then after? bs cs else none

theorem upTo?_eq_some {stop : Char} {cs taken : List Char} {rest : Shorter cs}
    (h : upTo? stop cs = some (taken, rest)) :
    cs = taken ++ stop :: rest.1 ∧ stop ∉ taken := by
  induction cs generalizing taken with
  | nil => simp [upTo?] at h
  | cons c cs ih =>
    by_cases hc : c = stop
    · simp only [upTo?, hc, if_true, Option.some.injEq, Prod.mk.injEq] at h
      obtain ⟨rfl, rfl⟩ := h
      simp [hc]
    · simp only [upTo?, hc, if_false, Option.map_eq_some_iff] at h
      obtain ⟨⟨piece, tail⟩, hu, heq⟩ := h
      obtain ⟨rfl, rfl⟩ := Prod.mk.inj heq
      obtain ⟨hcs, hstop⟩ := ih hu
      exact ⟨congrArg (c :: ·) hcs, by simp [hstop, Ne.symm hc]⟩

theorem after?_eq_some_iff {beginning cs rest : List Char} :
    after? beginning cs = some rest ↔ cs = beginning ++ rest := by
  induction beginning generalizing cs with
  | nil => simp [after?]
  | cons b bs ih =>
    cases cs with
    | nil => simp [after?]
    | cons c cs =>
      by_cases h : b = c
      · simp [after?, h, ih]
      · simp [after?, h, Ne.symm h]

theorem length_of_after? {beginning cs rest : List Char} (h : after? beginning cs = some rest) :
    rest.length + beginning.length = cs.length := by
  rw [after?_eq_some_iff.1 h, List.length_append, Nat.add_comm]

end TaskAudit.Text
