import TaskAudit.Proofs.TaskLine

/-!
# The shapes of ids

An id is read as one of four shapes, by what it has behind its digits: a number behind a dash, a
small letter, or nothing. The id of a numbered subtask is that of a task, a dash and a number, and
from it the id of its parent is read back. No id of a heading has this shape, as nothing follows the
digits there.
-/

namespace TaskAudit

open Text

namespace TaskId

/-- The id of a task: two to four capitals, and three or four digits behind them. -/
def IsPlain (cs : List Char) : Prop :=
  ∃ code digits, cs = code ++ digits ∧ (∀ c ∈ code, isCapital c = true) ∧ 2 ≤ code.length ∧
    code.length ≤ 4 ∧ (∀ c ∈ digits, isDigit c = true) ∧ 3 ≤ digits.length ∧ digits.length ≤ 4

/-- The id of a numbered subtask: that of its parent, a dash and a number. -/
def IsPart (id parent : String) : Prop :=
  IsPlain parent.toList ∧ ∃ number, number ≠ [] ∧ (∀ c ∈ number, isDigit c = true) ∧
    id.toList = parent.toList ++ '-' :: number

/-- Whether the ids of a shape have a dash between code and digits. -/
def Shape.isDashed : Shape → Bool
  | numbered | lettered => false
  | dashedNumbered | dashedMain => true

/-- What the ids of a shape have behind their digits. -/
def Shape.IsTail : Shape → List Char → Prop
  | numbered, tail | dashedNumbered, tail =>
    ∃ number, number ≠ [] ∧ (∀ c ∈ number, isDigit c = true) ∧ tail = '-' :: number
  | lettered, tail => ∃ c, isSmall c = true ∧ tail = [c]
  | dashedMain, tail => tail = []

/-- A text ends with the tail of a shape, or with a line feed behind it. -/
def Shape.Ends (shape : Shape) (rest : List Char) : Prop :=
  ∃ tail ending, shape.IsTail tail ∧ (ending = [] ∨ ending = ['\n']) ∧ rest = tail ++ ending

theorem isPlain_append {code digits : List Char} (hcode : code.all isCapital = true)
    (hdigits : digits.all isDigit = true) (hlength : 2 ≤ code.length ∧ code.length ≤ 4 ∧
      3 ≤ digits.length ∧ digits.length ≤ 4) : IsPlain (code ++ digits) :=
  ⟨code, digits, rfl, List.all_eq_true.1 hcode, hlength.1, hlength.2.1, List.all_eq_true.1 hdigits,
    hlength.2.2⟩

theorem isPlain_ofNumber {code : String} {n : Nat} (hcode : IsCode code) (hn : n ≤ 9999) :
    IsPlain (ofNumber code n).toList := by
  have hdigits := Template.isNumberText_numberText hn
  refine ⟨code.toList, _, toList_ofNumber, hcode.isCapital, ?_, ?_, fun c hc => ?_, ?_, ?_⟩
  · rw [String.length_toList]
    exact hcode.least
  · rw [String.length_toList]
    exact hcode.most
  · exact isDigit_of_isDigit (hdigits.isDigit c hc)
  · rw [hdigits.length]
    decide
  · rw [hdigits.length]

/-! ### What is behind the digits -/

section Tails

variable {id : String} {shape : Shape} {h : Head} {rest : List Char}

theorem isEnd_iff : isEnd rest = true ↔ rest = [] ∨ rest = ['\n'] := by
  simp [isEnd]

theorem not_isDigit_of_isEnd (h : rest = [] ∨ rest = ['\n']) :
    ∀ c, rest.head? = some c → isDigit c = false := by
  rcases h with rfl | rfl
  · simp
  · exact stops_at_cons (by decide) []

theorem numbered_ends_iff : Shape.numbered.Ends rest ↔ isNumberedTail rest = true := by
  constructor
  · rintro ⟨_, ending, ⟨number, hne, hnumber, rfl⟩, hending, rfl⟩
    have hstop := not_isDigit_of_isEnd hending
    rw [List.cons_append, isNumberedTail, takeWhile_run hnumber hstop, dropWhile_run hnumber hstop,
      Bool.and_eq_true, isEnd_iff]
    exact ⟨by simpa using hne, hending⟩
  · intro h
    unfold isNumberedTail at h
    split at h
    · next cs =>
      rw [Bool.and_eq_true, isEnd_iff] at h
      refine ⟨'-' :: cs.takeWhile isDigit, cs.dropWhile isDigit,
        ⟨cs.takeWhile isDigit, ?_, ?_, rfl⟩, h.2, ?_⟩
      · simpa using h.1
      · exact fun c hc => List.mem_takeWhile_imp hc
      · rw [List.cons_append, List.takeWhile_append_dropWhile]
    · exact absurd h Bool.false_ne_true

theorem lettered_ends_iff : Shape.lettered.Ends rest ↔ isLetteredTail rest = true := by
  constructor
  · rintro ⟨_, ending, ⟨c, hc, rfl⟩, hending, rfl⟩
    rw [List.singleton_append, isLetteredTail, Bool.and_eq_true, isEnd_iff]
    exact ⟨hc, hending⟩
  · intro h
    cases rest with
    | nil => exact absurd h Bool.false_ne_true
    | cons c rest =>
        rw [isLetteredTail, Bool.and_eq_true, isEnd_iff] at h
        exact ⟨[c], rest, ⟨c, h.1, rfl⟩, h.2, rfl⟩

theorem dashedMain_ends_iff : Shape.dashedMain.Ends rest ↔ isEnd rest = true := by
  rw [isEnd_iff]
  constructor
  · rintro ⟨_, ending, rfl, hending, rfl⟩
    exact hending
  · exact fun h => ⟨[], rest, rfl, h, rfl⟩

/-- A tail starts with a dash or a small letter, or the id ends there. -/
theorem Shape.Ends.not_isDigit (h : shape.Ends rest) :
    ∀ c, rest.head? = some c → isDigit c = false := by
  obtain ⟨tail, ending, htail, hending, rfl⟩ := h
  cases shape with
  | numbered | dashedNumbered =>
      obtain ⟨number, -, -, rfl⟩ := htail
      exact stops_at_cons (by decide) _
  | lettered =>
      obtain ⟨c, hc, rfl⟩ := htail
      refine stops_at_cons ?_ ending
      rw [isSmall, Bool.and_eq_true, decide_eq_true_eq, decide_eq_true_eq] at hc
      have hrange : 97 ≤ c.toNat ∧ c.toNat ≤ 122 := hc
      rw [← Bool.not_eq_true]
      intro hdigit
      have := le_toNat_of_isDigit hdigit
      omega
  | dashedMain =>
      obtain rfl := htail
      exact not_isDigit_of_isEnd hending

theorem Shape.Ends.eq_dashedMain (h : shape.Ends []) : shape = .dashedMain := by
  obtain ⟨tail, ending, htail, -, hnil⟩ := h
  obtain ⟨rfl, -⟩ := List.append_eq_nil_iff.1 hnil.symm
  cases shape with
  | numbered | dashedNumbered =>
      obtain ⟨number, -, -, heq⟩ := htail
      cases heq
  | lettered =>
      obtain ⟨c, -, heq⟩ := htail
      cases heq
  | dashedMain => rfl

theorem isNumberedTail_excludes (h : isNumberedTail rest = true) :
    isLetteredTail rest = false ∧ isEnd rest = false := by
  obtain ⟨_, ending, ⟨number, hne, -, rfl⟩, -, rfl⟩ := numbered_ends_iff.2 h
  have hdash : isSmall '-' = false := by decide
  constructor
  · rw [List.cons_append, isLetteredTail, hdash, Bool.false_and]
  · simp [isEnd, hne]

theorem Head.shape?_eq_some_iff : h.shape? = some shape ↔
    h.hasNumber = true ∧ h.dashed = shape.isDashed ∧ shape.Ends h.rest := by
  have hsame : Shape.dashedNumbered.Ends h.rest ↔ isNumberedTail h.rest = true := numbered_ends_iff
  rw [Head.shape?]
  cases htail : isNumberedTail h.rest with
  | true =>
      -- A number behind a dash is neither a letter nor the end, whichever is asked first.
      obtain ⟨hletter, hend⟩ := isNumberedTail_excludes htail
      cases shape <;> cases h.hasNumber <;> cases h.dashed <;>
        simp [numbered_ends_iff, lettered_ends_iff, dashedMain_ends_iff, hsame, Shape.isDashed,
          htail, hletter, hend]
  | false =>
      cases shape <;> cases h.hasNumber <;> cases h.dashed <;>
        simp [numbered_ends_iff, lettered_ends_iff, dashedMain_ends_iff, hsame, Shape.isDashed,
          htail]

theorem shape?_eq_some_iff : shape? id = some (shape, h) ↔ IsHead id.toList h ∧
    h.hasNumber = true ∧ h.dashed = shape.isDashed ∧ shape.Ends h.rest := by
  rw [← head?_eq_some_iff, ← Head.shape?_eq_some_iff, shape?, Option.bind_eq_some_iff]
  simp only [Option.map_eq_some_iff, Prod.mk.injEq]
  constructor
  · rintro ⟨_, hhead, _, hshape, rfl, rfl⟩
    exact ⟨hhead, hshape⟩
  · rintro ⟨hhead, hshape⟩
    exact ⟨h, hhead, _, hshape, rfl, rfl⟩

end Tails

/-! ### Numbered subtasks -/

theorem numberedParent?_of_isPart {id parent : String} (h : IsPart id parent) :
    numberedParent? id = some parent := by
  obtain ⟨⟨code, digits, hparent, hcode, hleast, hmost, hdigits, hthree, hfour⟩, number, hne,
    hnumber, hid⟩ := h
  have hdash : ∀ c, ('-' :: number).head? = some c → isDigit c = false :=
    stops_at_cons (by decide) _
  have hhead : IsHead id.toList ⟨code, false, digits, '-' :: number⟩ := by
    rw [hid, hparent]
    exact isHead_append hcode hleast hmost hdigits hthree hdash
  have hshape : shape? id = some (.numbered, ⟨code, false, digits, '-' :: number⟩) :=
    shape?_eq_some_iff.2 ⟨hhead, by simp [Head.hasNumber, hthree, hfour], rfl,
      '-' :: number, [], ⟨number, hne, hnumber, rfl⟩, .inl rfl, (List.append_nil _).symm⟩
  rw [numberedParent?, hshape]
  simp [Head.id, ← hparent]

/-- An id without a dash behind a digit is not that of a numbered subtask. -/
theorem isNumbered_eq_false {id : String}
    (h : id.toList.Pairwise fun a b => isDigit a = true → b ≠ '-') : isNumbered id = false := by
  rw [← Bool.not_eq_true]
  intro hnumbered
  obtain ⟨⟨_, head⟩, hshape, rfl⟩ := Option.map_eq_some_iff.1 (of_decide_eq_true hnumbered)
  obtain ⟨hhead, hnumber, hdash, htail⟩ := shape?_eq_some_iff.1 hshape
  obtain ⟨digit, hdigit⟩ : ∃ digit, digit ∈ head.digits := by
    refine List.exists_mem_of_ne_nil _ fun hnil => ?_
    simp [Head.hasNumber, hnil] at hnumber
  obtain ⟨_, ending, ⟨number, -, -, rfl⟩, -, hrest⟩ := htail
  rw [hhead.eq, hrest, List.pairwise_append] at h
  obtain ⟨-, -, hacross⟩ := h
  have hmem : digit ∈ head.id := by simp [Head.id, hdigit]
  exact hacross digit hmem '-' List.mem_cons_self (hhead.isDigit _ hdigit) rfl

/-- The digits of a heading's id are its end. -/
theorem isNumbered_eq_false_of_isTaskHeading {line id : String}
    (h : Document.IsTaskHeading line id) : isNumbered id = false := by
  obtain ⟨code, digits, _, hid, -, hcode, -, -, hdigits, -, -⟩ := h
  have hnoDigit : ∀ c ∈ code, isDigit c ≠ true := by
    intro c hc hdigit
    have hcapital := hcode c hc
    rw [Document.isHeadingCapital_eq_false_of_isDigit hdigit] at hcapital
    exact Bool.false_ne_true hcapital
  have hnoDash : ∀ c ∈ digits, c ≠ '-' := by
    rintro c hc rfl
    exact absurd (hdigits '-' hc) (by decide)
  apply isNumbered_eq_false
  rw [hid, List.pairwise_append]
  refine ⟨?_, ?_, fun a ha _ _ hdigit => absurd hdigit (hnoDigit a ha)⟩
  · exact List.pairwise_of_forall_mem_list fun a ha _ _ hdigit => absurd hdigit (hnoDigit a ha)
  · exact List.pairwise_of_forall_mem_list fun _ _ b hb _ => hnoDash b hb

theorem ne_empty_of_isTaskHeading {line id : String} (h : Document.IsTaskHeading line id) :
    id ≠ "" := by
  obtain ⟨code, digits, _, hid, -, -, hleast, -⟩ := h
  rintro rfl
  obtain ⟨rfl, -⟩ := List.append_eq_nil_iff.1 hid.symm
  simp at hleast

end TaskId

end TaskAudit
