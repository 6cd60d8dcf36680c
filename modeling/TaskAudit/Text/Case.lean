import TaskAudit.Text.CaseTable

/-!
# Letter case

Lower case and title case of whole texts, and equality of words without regard to case. A capital
sigma is the one letter whose lower case depends on its neighbours: at the end of a word it is `ς`.
-/

namespace TaskAudit.Text

private def inRuns (runs : List (Nat × Nat)) (c : Char) : Bool :=
  runs.any fun run => run.1 ≤ c.toNat && c.toNat ≤ run.2

def isCased (c : Char) : Bool := inRuns casedRuns c

def isCaseIgnorable (c : Char) : Bool := inRuns caseIgnorableRuns c

private def shifted (shifts : List CaseShift) (c : Char) : Char :=
  match shifts.find? (·.covers c.toNat) with
  | some shift => Char.ofNat ((c.toNat : Int) + shift.offset).toNat
  | none => c

/-- Whether the nearest character that case rules do not look past is cased. -/
private def casedAhead (cs : List Char) : Bool :=
  match cs.dropWhile isCaseIgnorable with
  | [] => false
  | c :: _ => isCased c

/-- The lower case of a character between the text before it, nearest character first, and after
it. -/
def lowerAt (before : List Char) (c : Char) (after : List Char) : List Char :=
  if c = 'Σ' then [if casedAhead before && !casedAhead after then 'ς' else 'σ']
  else if c = 'İ' then ['i', Char.ofNat 0x307]
  else [shifted lowerShifts c]

def titleOf (c : Char) : List Char :=
  match titleExpansions.lookup c.toNat with
  | some codes => codes.map Char.ofNat
  | none => [shifted titleShifts c]

private def lowerAfter (before : List Char) : List Char → List Char
  | [] => []
  | c :: rest => lowerAt before c rest ++ lowerAfter (c :: before) rest

private def titleAfter (before : List Char) : List Char → List Char
  | [] => []
  | c :: rest =>
    (if (before.head?.map isCased).getD false then lowerAt before c rest else titleOf c) ++
      titleAfter (c :: before) rest

def lower (cs : List Char) : List Char := lowerAfter [] cs

/-- Title case: a letter that follows no letter is raised, every other one lowered. -/
def title (cs : List Char) : List Char := titleAfter [] cs

def lowered (s : String) : String := String.ofList (lower s.toList)

def titled (s : String) : String := String.ofList (title s.toList)

/-- A letter of `A` to `Z` in either case, or a space. -/
def isPlain (c : Char) : Bool := c.isAlpha || c = ' '

theorem isPlain_iff {c : Char} : isPlain c = true ↔
    (65 ≤ c.toNat ∧ c.toNat ≤ 90) ∨ (97 ≤ c.toNat ∧ c.toNat ≤ 122) ∨ c.toNat = 32 := by
  have hupper : c.isUpper = true ↔ 65 ≤ c.toNat ∧ c.toNat ≤ 90 := decide_eq_true_iff
  have hlower : c.isLower = true ↔ 97 ≤ c.toNat ∧ c.toNat ≤ 122 :=
    Bool.and_eq_true_iff.trans (and_congr decide_eq_true_iff decide_eq_true_iff)
  have hspace : c = ' ' ↔ c.toNat = 32 := by rw [← Char.toNat_inj]; rfl
  have hletter : c.isAlpha = true ↔ c.isUpper = true ∨ c.isLower = true := Bool.or_eq_true_iff
  rw [isPlain, Bool.or_eq_true, decide_eq_true_eq, hletter, hupper, hlower, hspace, or_assoc]

/-- The lower case of `A` to `Z`; every other character stays. -/
def asciiLower (c : Char) : Char :=
  if 'A' ≤ c && c ≤ 'Z' then Char.ofNat (c.toNat + 32) else c

/-- Plain characters stay plain when they are raised or lowered. -/
private theorem isPlain_shifted :
    ∀ n < 128, isPlain (Char.ofNat n) = true →
      Char.ofNat n ≠ 'Σ' ∧ Char.ofNat n ≠ 'İ' ∧
      shifted lowerShifts (Char.ofNat n) = asciiLower (Char.ofNat n) ∧
      isPlain (asciiLower (Char.ofNat n)) = true ∧
      (titleOf (Char.ofNat n)).all isPlain = true := by
  decide +kernel

private theorem isPlain_cases {c : Char} (h : isPlain c = true) :
    (∀ before after, lowerAt before c after = [asciiLower c]) ∧ isPlain (asciiLower c) = true ∧
      ∀ d ∈ titleOf c, isPlain d = true := by
  have hascii : c.toNat < 128 := by
    have := isPlain_iff.1 h
    omega
  have hshifted := isPlain_shifted c.toNat hascii
  rw [Char.ofNat_toNat] at hshifted
  obtain ⟨hsigma, hdotted, hlower, hplain, htitle⟩ := hshifted h
  refine ⟨fun before after => ?_, hplain, List.all_eq_true.1 htitle⟩
  rw [lowerAt, if_neg hsigma, if_neg hdotted, hlower]

theorem lower_of_isPlain {cs : List Char} (h : ∀ c ∈ cs, isPlain c = true) :
    lower cs = cs.map asciiLower := by
  have hall : ∀ before, lowerAfter before cs = cs.map asciiLower := by
    induction cs with
    | nil => simp [lowerAfter]
    | cons c rest ih =>
      obtain ⟨hc, hrest⟩ := List.forall_mem_cons.1 h
      intro before
      rw [lowerAfter, (isPlain_cases hc).1, ih hrest, List.map_cons, List.singleton_append]
  exact hall []

theorem isPlain_of_mem_lower {cs : List Char} (h : ∀ c ∈ cs, isPlain c = true) :
    ∀ c ∈ lower cs, isPlain c = true := by
  rw [lower_of_isPlain h, List.forall_mem_map]
  exact fun c hc => (isPlain_cases (h c hc)).2.1

theorem isPlain_of_mem_title {cs : List Char} (h : ∀ c ∈ cs, isPlain c = true) :
    ∀ c ∈ title cs, isPlain c = true := by
  have hall : ∀ before, ∀ c ∈ titleAfter before cs, isPlain c = true := by
    induction cs with
    | nil => simp [titleAfter]
    | cons c rest ih =>
      obtain ⟨hc, hrest⟩ := List.forall_mem_cons.1 h
      obtain ⟨hlower, hplain, htitle⟩ := isPlain_cases hc
      intro before
      rw [titleAfter, List.forall_mem_append]
      refine ⟨?_, ih hrest _⟩
      split
      · simpa [hlower] using hplain
      · exact htitle
  exact hall []

/-- Whether a character is a given lower-case letter without regard to case: besides the capital,
the long `ſ` counts as an `s`, the Kelvin sign as a `k`, and the dotless and dotted `ı`, `İ` as an
`i`. -/
def isLetter (letter c : Char) : Bool :=
  asciiLower c == letter || (letter == 's' && c == 'ſ') ||
    (letter == 'k' && c == Char.ofNat 0x212A) ||
    (letter == 'i' && (c == 'ı' || c == 'İ'))

/-- What follows a word written in lower-case letters, if the text starts with it in any case. -/
def dropWord? : List Char → List Char → Option (List Char)
  | [], cs => some cs
  | _ :: _, [] => none
  | letter :: word, c :: cs => if isLetter letter c then dropWord? word cs else none

end TaskAudit.Text
