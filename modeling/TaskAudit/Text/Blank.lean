/-!
# Blank characters

Which characters count as blank, and what trimming them leaves. A text is trimmed of its longest
blank run at either end and of nothing inside.
-/

namespace TaskAudit.Text

/-- The Unicode property `White_Space`. -/
def isWhiteSpace (c : Char) : Bool :=
  let n := c.toNat
  (9 ≤ n && n ≤ 13) || n == 0x20 || n == 0x85 || n == 0xA0 || n == 0x1680 ||
    (0x2000 ≤ n && n ≤ 0x200A) || n == 0x2028 || n == 0x2029 || n == 0x202F || n == 0x205F ||
    n == 0x3000

/-- White space and the four information separators, which part words and lines as well. -/
def isBlank (c : Char) : Bool :=
  isWhiteSpace c || (0x1C ≤ c.toNat && c.toNat ≤ 0x1F)

def dropEndWhile (p : Char → Bool) (cs : List Char) : List Char :=
  (cs.reverse.dropWhile p).reverse

def trimOf (p : Char → Bool) (cs : List Char) : List Char :=
  dropEndWhile p (cs.dropWhile p)

def trimStart (cs : List Char) : List Char := cs.dropWhile isBlank

def trimEnd (cs : List Char) : List Char := dropEndWhile isBlank cs

def trim (cs : List Char) : List Char := trimOf isBlank cs

def allBlank (cs : List Char) : Bool := cs.all isBlank

/-- The words between blanks. -/
def wordsOf : List Char → List (List Char)
  | [] => []
  | c :: rest =>
    if isBlank c then wordsOf rest
    else
      match rest, wordsOf rest with
      | d :: _, word :: more => if isBlank d then [c] :: word :: more else (c :: word) :: more
      | _, words => [c] :: words

/-- A string without the blanks at its ends. -/
def trimmed (s : String) : String := String.ofList (trim s.toList)

def isBlankString (s : String) : Bool := allBlank s.toList

theorem isPrefix_dropEndWhile (p : Char → Bool) (cs : List Char) : dropEndWhile p cs <+: cs := by
  rw [← List.reverse_suffix, dropEndWhile, List.reverse_reverse]
  exact List.dropWhile_suffix p

theorem dropEndWhile_append_singleton (p : Char → Bool) (cs : List Char) (c : Char) :
    dropEndWhile p (cs ++ [c]) = if p c then dropEndWhile p cs else cs ++ [c] := by
  by_cases h : p c <;> simp [dropEndWhile, h]

/-! ### The ends of texts -/

/-- A character stands at the start or at the end of a text. -/
def IsAtEnd (c : Char) (cs : List Char) : Prop := cs.head? = some c ∨ cs.getLast? = some c

section Ends

variable {p : Char → Bool} {cs : List Char}

theorem IsAtEnd.mem {c : Char} (h : IsAtEnd c cs) : c ∈ cs :=
  h.elim List.mem_of_head? List.mem_of_getLast?

theorem dropWhile_eq_self_iff : cs.dropWhile p = cs ↔ ∀ c, cs.head? = some c → p c = false := by
  cases cs with
  | nil => simp
  | cons c rest =>
      cases hc : p c with
      | false => simp [hc]
      | true =>
          have hlength := (List.dropWhile_suffix p (l := rest)).length_le
          simp only [List.dropWhile_cons, hc, if_true, List.head?_cons, Option.some.injEq,
            forall_eq', Bool.true_eq_false, iff_false]
          intro heq
          rw [heq, List.length_cons] at hlength
          omega

theorem dropEndWhile_eq_self_iff :
    dropEndWhile p cs = cs ↔ ∀ c, cs.getLast? = some c → p c = false := by
  rw [dropEndWhile, List.reverse_eq_iff, dropWhile_eq_self_iff, List.head?_reverse]

theorem isInfix_trimOf (p : Char → Bool) (cs : List Char) : trimOf p cs <:+: cs :=
  (isPrefix_dropEndWhile p _).isInfix.trans (List.dropWhile_suffix p).isInfix

theorem trimOf_eq_self_iff : trimOf p cs = cs ↔ ∀ c, IsAtEnd c cs → p c = false := by
  have hboth : trimOf p cs = cs ↔ cs.dropWhile p = cs ∧ dropEndWhile p cs = cs := by
    constructor
    · intro h
      have hstart : cs.dropWhile p = cs := by
        have hlength := (isPrefix_dropEndWhile p (cs.dropWhile p)).length_le
        rw [← trimOf, h] at hlength
        exact (List.dropWhile_suffix p).eq_of_length_le hlength
      exact ⟨hstart, by rwa [trimOf, hstart] at h⟩
    · rintro ⟨hstart, hend⟩
      rw [trimOf, hstart, hend]
  rw [hboth, dropWhile_eq_self_iff, dropEndWhile_eq_self_iff]
  simp only [IsAtEnd, or_imp, forall_and]

theorem of_head?_dropWhile {c : Char} (h : (cs.dropWhile p).head? = some c) : p c = false := by
  have hhead := List.head?_dropWhile_not p cs
  rw [h] at hhead
  simpa using hhead

theorem trimOf_trimOf (p : Char → Bool) (cs : List Char) :
    trimOf p (trimOf p cs) = trimOf p cs := by
  rw [trimOf_eq_self_iff]
  rintro c (hstart | hend)
  · obtain ⟨rest, hrest⟩ := isPrefix_dropEndWhile p (cs.dropWhile p)
    rw [← trimOf] at hrest
    have hfull : (cs.dropWhile p).head? = some c := by
      rw [← hrest, List.head?_append, hstart]
      rfl
    exact of_head?_dropWhile hfull
  · rw [trimOf, dropEndWhile, List.getLast?_reverse] at hend
    exact of_head?_dropWhile hend

theorem trim_trim (cs : List Char) : trim (trim cs) = trim cs := trimOf_trimOf isBlank cs

theorem trimStart_eq_self (h : trim cs = cs) : trimStart cs = cs :=
  dropWhile_eq_self_iff.2 fun c hc => trimOf_eq_self_iff.1 h c (Or.inl hc)

theorem trimEnd_eq_self (h : trim cs = cs) : trimEnd cs = cs :=
  dropEndWhile_eq_self_iff.2 fun c hc => trimOf_eq_self_iff.1 h c (Or.inr hc)

end Ends

/-- A text between two characters that are not blank has nothing to trim. -/
theorem trim_between {c d : Char} (hc : isBlank c = false) (hd : isBlank d = false)
    (cs : List Char) : trim (c :: cs ++ [d]) = c :: cs ++ [d] := by
  refine trimOf_eq_self_iff.2 ?_
  rintro e (he | he)
  · obtain rfl := Option.some.inj he
    exact hc
  · rw [List.getLast?_concat] at he
    obtain rfl := Option.some.inj he
    exact hd

theorem allBlank_iff_trimStart_eq_nil (cs : List Char) :
    allBlank cs = true ↔ trimStart cs = [] := by
  induction cs with
  | nil => simp [allBlank, trimStart]
  | cons c r ih =>
    by_cases h : isBlank c
    · simp only [allBlank, trimStart, List.all_cons, List.dropWhile_cons, h, Bool.true_and,
        if_true] at ih ⊢
      exact ih
    · simp [allBlank, trimStart, h]

theorem trim_eq_nil_iff (cs : List Char) : trim cs = [] ↔ allBlank cs = true := by
  have hreverse : trim cs = [] ↔ allBlank (trimStart cs).reverse = true := by
    rw [allBlank_iff_trimStart_eq_nil]
    exact List.reverse_eq_nil_iff
  rw [hreverse, allBlank, List.all_reverse, allBlank_iff_trimStart_eq_nil]
  constructor
  · intro hall
    cases hrest : trimStart cs with
    | nil => rfl
    | cons c rest =>
      have hhead := List.head?_dropWhile_not isBlank cs
      rw [show cs.dropWhile isBlank = c :: rest from hrest, List.head?_cons] at hhead
      rw [hrest, List.all_cons, Bool.and_eq_true] at hall
      exact absurd hall.1 (by simpa using hhead)
  · intro h
    rw [h, List.all_nil]

end TaskAudit.Text
