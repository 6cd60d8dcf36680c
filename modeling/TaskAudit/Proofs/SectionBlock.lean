import TaskAudit.Proofs.ErrorHandling
import TaskAudit.Proofs.Extent

/-!
# Blocks of sections

The block of a section begins on the line of the first heading with its name and reaches to the
first blank line or the first line with a label behind it. A section has a block exactly when lines
are said to have the section, so the two ways to look for it never disagree.
-/

namespace TaskAudit

namespace Text

/-! ### Blanks at the ends -/

theorem exists_eq_dropEndWhile_append (p : Char → Bool) (cs : List Char) :
    ∃ behind, cs = dropEndWhile p cs ++ behind ∧ ∀ c ∈ behind, p c = true := by
  refine ⟨(cs.reverse.takeWhile p).reverse, ?_, fun c hc => ?_⟩
  · rw [dropEndWhile, ← List.reverse_append, List.takeWhile_append_dropWhile, List.reverse_reverse]
  · exact List.mem_takeWhile_imp (List.mem_reverse.1 hc)

theorem trim_append {before text behind : List Char} (hbefore : ∀ c ∈ before, isBlank c = true)
    (hbehind : ∀ c ∈ behind, isBlank c = true) (hends : ∀ c, IsAtEnd c text → isBlank c = false) :
    trim (before ++ text ++ behind) = text := by
  by_cases hempty : text = []
  · rw [hempty, trim_eq_nil_iff, allBlank, List.all_eq_true]
    simpa [or_imp, forall_and] using ⟨hbefore, hbehind⟩
  · have hstart : ∀ c, (text ++ behind).head? = some c → isBlank c = false := by
      intro c hc
      rw [List.head?_append_of_ne_nil text hempty] at hc
      exact hends c (.inl hc)
    have hback : ∀ c, text.reverse.head? = some c → isBlank c = false := by
      intro c hc
      rw [List.head?_reverse] at hc
      exact hends c (.inr hc)
    have hreverse : ∀ c ∈ behind.reverse, isBlank c = true :=
      fun c hc => hbehind c (List.mem_reverse.1 hc)
    rw [trim, trimOf, List.append_assoc, dropWhile_run hbefore hstart, dropEndWhile,
      List.reverse_append, dropWhile_run hreverse hback, List.reverse_reverse]

end Text

namespace Content

open Text Document

/-- After blanks a line starts with a label in bold, with or without a colon, and goes on behind
it. -/
def IsHeading (label : List Char) (line : String) (tail : List Char) : Prop :=
  ∃ blanks colon : List Char, (∀ c ∈ blanks, isBlank c = true) ∧ (colon = [] ∨ colon = [':']) ∧
    line.toList = blanks ++ (boldMark ++ (label ++ (colon ++ (boldMark ++ tail))))

/-- What is left of a tail without the colons that it starts with, however many, and then without
the blanks at its ends. -/
structure IsInline (tail text : List Char) : Prop where
  eq : ∃ colons before behind : List Char, tail = colons ++ (before ++ text ++ behind) ∧
    (∀ c ∈ colons, c = ':') ∧ (before ++ text ++ behind).head? ≠ some ':' ∧
    (∀ c ∈ before, isBlank c = true) ∧ ∀ c ∈ behind, isBlank c = true
  ends : ∀ c, IsAtEnd c text → isBlank c = false

/-- A line without text, or one whose text starts with a label in bold. -/
def ClosesBlock (line : String) : Prop :=
  (∀ c ∈ line.toList, isBlank c = true) ∨
    ∃ label rest : List Char, label ≠ [] ∧ '*' ∉ label ∧
      trim line.toList = boldMark ++ (label ++ (boldMark ++ rest))

/-- The block of a section in lines: the text on the line of its first heading, if there is any, and
the lines behind it up to one that closes the block. -/
structure IsBlock (name : String) (lines block : List String) (start stop : Nat) : Prop where
  first : ∀ k line, k < start → lines[k]? = some line → ¬ IsHeadedBy name.toList line
  heading : ∃ line tail text, lines[start]? = some line ∧ IsHeading name.toList line tail ∧
    IsInline tail text ∧
    block = (if text = [] then [] else [String.ofList text]) ++ lines.extract (start + 1) stop
  extent : EndsAtNext ClosesBlock lines (start + 1) stop

section Blocks

variable {name line : String} {lines block : List String} {cs tail text : List Char}

/-! ### Headings -/

theorem afterName?_eq_some_iff_isHeading :
    afterName? name line = some tail ↔ IsHeading name.toList line tail := by
  simp only [afterName?_eq_some_iff, trimStart_eq_bold_iff, IsHeading]
  constructor
  · rintro ⟨colon, hcolon, blanks, hblanks, hline⟩
    exact ⟨blanks, colon, hblanks, hcolon, hline⟩
  · rintro ⟨blanks, colon, hblanks, hcolon, hline⟩
    exact ⟨colon, hcolon, blanks, hblanks, hline⟩

theorem afterName?_eq_none_iff : afterName? name line = none ↔ ¬ IsHeadedBy name.toList line := by
  rw [← isSome_afterName?_iff, Bool.not_eq_true, Option.isSome_eq_false_iff,
    Option.isNone_iff_eq_none]

/-! ### Text on the line of a heading -/

theorem isInline_trim (tail : List Char) :
    IsInline tail (trim (tail.dropWhile (· = ':'))) := by
  have hcolons := List.takeWhile_append_dropWhile (p := (· = ':')) (l := tail)
  generalize hafter : tail.dropWhile (· = ':') = after at hcolons
  have hbefore := List.takeWhile_append_dropWhile (p := isBlank) (l := after)
  obtain ⟨behind, heq, hbehind⟩ := exists_eq_dropEndWhile_append isBlank (after.dropWhile isBlank)
  have hwhole : after.takeWhile isBlank ++ trim after ++ behind = after := by
    rw [List.append_assoc, trim, trimOf, ← heq, hbefore]
  refine ⟨⟨tail.takeWhile (· = ':'), after.takeWhile isBlank, behind, ?_, fun c hc => ?_, ?_,
    fun c hc => List.mem_takeWhile_imp hc, hbehind⟩, ?_⟩
  · rw [hwhole, hcolons]
  · simpa using List.mem_takeWhile_imp hc
  · rw [hwhole, ← hafter]
    intro hhead
    simpa using of_head?_dropWhile hhead
  · exact trimOf_eq_self_iff.1 (trimOf_trimOf isBlank after)

theorem isInline_iff : IsInline tail text ↔ trim (tail.dropWhile (· = ':')) = text := by
  constructor
  · rintro ⟨⟨colons, before, behind, rfl, hcolons, hhead, hbefore, hbehind⟩, hends⟩
    have hrun : ∀ c ∈ colons, decide (c = ':') = true :=
      fun c hc => decide_eq_true (hcolons c hc)
    have hstop : ∀ c, (before ++ text ++ behind).head? = some c → decide (c = ':') = false := by
      intro c hc
      rw [decide_eq_false_iff_not]
      rintro rfl
      exact hhead hc
    rw [dropWhile_run hrun hstop, trim_append hbefore hbehind hends]
  · rintro rfl
    exact isInline_trim tail

/-! ### Lines that close a block -/

theorem startsLabel_iff : startsLabel cs = true ↔ ∃ label rest : List Char, label ≠ [] ∧
    '*' ∉ label ∧ cs = boldMark ++ (label ++ (boldMark ++ rest)) := by
  constructor
  · intro h
    unfold startsLabel at h
    split at h
    · exact absurd h Bool.false_ne_true
    · next rest hrest =>
      rw [Bool.and_eq_true, decide_eq_true_eq, Option.isSome_iff_exists] at h
      obtain ⟨hne, tail, htail⟩ := h
      refine ⟨rest.takeWhile (· ≠ '*'), tail, hne, fun hmem => ?_, ?_⟩
      · simpa using List.mem_takeWhile_imp hmem
      · rw [← after?_eq_some_iff.1 htail, List.takeWhile_append_dropWhile]
        exact after?_eq_some_iff.1 hrest
  · rintro ⟨label, rest, hne, hstar, rfl⟩
    have hrun : ∀ c ∈ label, decide (c ≠ '*') = true := by
      intro c hc
      rw [decide_eq_true_eq]
      rintro rfl
      exact hstar hc
    have hstop : ∀ c, (boldMark ++ rest).head? = some c → decide (c ≠ '*') = false :=
      stops_at_cons (by decide) _
    simp only [startsLabel, after?_append, takeWhile_run hrun hstop, dropWhile_run hrun hstop]
    simp [hne]

theorem endsBlock_iff : endsBlock line = true ↔ ClosesBlock line := by
  rw [endsBlock, Bool.or_eq_true, startsLabel_iff, decide_eq_true_eq, trim_eq_nil_iff, allBlank,
    List.all_eq_true]
  rfl

/-! ### Blocks -/

theorem sectionBlock?_eq_none_iff :
    sectionBlock? name lines = none ↔ hasSection lines name = false := by
  induction lines with
  | nil => simp [sectionBlock?, hasSection]
  | cons line lines ih =>
      rw [hasSection, List.any_cons, Bool.or_eq_false_iff, sectionBlock?]
      cases hname : afterName? name line with
      | none => simpa [hasSection] using ih
      | some tail => simp

/-- The loop over the lines stops at the first heading. -/
theorem exists_eq_append_of_sectionBlock? (h : sectionBlock? name lines = some block) :
    ∃ before line rest tail, lines = before ++ line :: rest ∧
      (∀ l ∈ before, afterName? name l = none) ∧ afterName? name line = some tail ∧
      block = (if trim (tail.dropWhile (· = ':')) = [] then []
        else [String.ofList (trim (tail.dropWhile (· = ':')))]) ++
          rest.takeWhile (!endsBlock ·) := by
  induction lines with
  | nil => cases h
  | cons line lines ih =>
      rw [sectionBlock?] at h
      cases hname : afterName? name line with
      | none =>
          rw [hname] at h
          obtain ⟨before, found, rest, tail, rfl, hbefore, hfound, hblock⟩ := ih h
          exact ⟨line :: before, found, rest, tail, rfl, List.forall_mem_cons.2 ⟨hname, hbefore⟩,
            hfound, hblock⟩
      | some tail =>
          rw [hname] at h
          exact ⟨[], line, lines, tail, rfl, by simp, hname, (Option.some.inj h).symm⟩

theorem exists_isBlock (h : sectionBlock? name lines = some block) :
    ∃ start stop, IsBlock name lines block start stop := by
  obtain ⟨before, line, rest, tail, rfl, hbefore, hname, rfl⟩ :=
    exists_eq_append_of_sectionBlock? h
  have hstart : before.length + 1 ≤ (before ++ line :: rest).length := by
    simp
  have hends : ∀ l, (!endsBlock l) = false ↔ ClosesBlock l := fun l => by
    rw [Bool.not_eq_false', endsBlock_iff]
  obtain ⟨stop, -, htake, hextent⟩ := exists_endsAtNext_takeWhile hends hstart
  have hdrop : (before ++ line :: rest).drop (before.length + 1) = rest := by
    simp
  rw [hdrop] at htake
  refine ⟨before.length, stop, fun k l hk hl => ?_, ⟨line, tail, _, ?_,
    afterName?_eq_some_iff_isHeading.1 hname, isInline_trim tail, by rw [htake]⟩, hextent⟩
  · rw [List.getElem?_append_left hk] at hl
    exact afterName?_eq_none_iff.1 (hbefore l (List.mem_of_getElem? hl))
  · simp

theorem IsHeading.isHeadedBy {label : List Char} (h : IsHeading label line tail) :
    IsHeadedBy label line := by
  obtain ⟨blanks, colon, hblanks, hcolon, hline⟩ := h
  exact ⟨blanks, colon, tail, hblanks, hcolon, hline⟩

theorem IsBlock.start_eq {block' : List String} {start stop start' stop' : Nat}
    (h : IsBlock name lines block start stop) (h' : IsBlock name lines block' start' stop') :
    start = start' := by
  obtain ⟨line, _, _, hline, hheading, -⟩ := h.heading
  obtain ⟨line', _, _, hline', hheading', -⟩ := h'.heading
  rcases Nat.lt_trichotomy start start' with hlt | heq | hlt
  · exact absurd hheading.isHeadedBy (h'.first start line hlt hline)
  · exact heq
  · exact absurd hheading'.isHeadedBy (h.first start' line' hlt hline')

/-- Lines have one block of a section at most. -/
theorem IsBlock.unique {block' : List String} {start stop start' stop' : Nat}
    (h : IsBlock name lines block start stop) (h' : IsBlock name lines block' start' stop') :
    block = block' := by
  obtain rfl := h.start_eq h'
  obtain rfl := h.extent.unique h'.extent
  obtain ⟨line, tail, text, hline, hheading, htext, hblock⟩ := h.heading
  obtain ⟨line', tail', text', hline', hheading', htext', hblock'⟩ := h'.heading
  obtain rfl := Option.some.inj (hline.symm.trans hline')
  rw [← afterName?_eq_some_iff_isHeading] at hheading hheading'
  obtain rfl := Option.some.inj (hheading.symm.trans hheading')
  obtain rfl := (isInline_iff.1 htext).symm.trans (isInline_iff.1 htext')
  rw [hblock, hblock']

/-- **The block of a section.** Lines have a block of a section exactly when they have the section,
which is when one of them is a heading with its name. The block is the text on the line of the first
such heading without the colons and blanks around it, unless nothing is left, and all lines behind
it up to the first that is blank or starts with a label, or to the end. -/
theorem sectionBlock?_exact (name : String) (lines : List String) :
    (sectionBlock? name lines = none ↔ hasSection lines name = false) ∧
    (hasSection lines name = true ↔ ∃ line ∈ lines, IsHeadedBy name.toList line) ∧
    ∀ block, sectionBlock? name lines = some block ↔
      ∃ start stop, IsBlock name lines block start stop := by
  refine ⟨sectionBlock?_eq_none_iff, hasSection_iff, fun block => ⟨exists_isBlock, ?_⟩⟩
  rintro ⟨start, stop, hblock⟩
  obtain ⟨line, _, _, hline, hheading, -⟩ := hblock.heading
  have hsection : hasSection lines name = true :=
    hasSection_iff.2 ⟨line, List.mem_of_getElem? hline, hheading.isHeadedBy⟩
  cases hfound : sectionBlock? name lines with
  | none => exact absurd (hsection.symm.trans (sectionBlock?_eq_none_iff.1 hfound)) (by decide)
  | some found =>
      obtain ⟨start', stop', hfound'⟩ := exists_isBlock hfound
      rw [hblock.unique hfound']

/-- Colons behind a blank are text, and a label in bold closes the block wherever it stands. -/
example : sectionBlock? "KPIs"
    ["**Status**: Open", " **KPIs:**:: : three ", "* Files: 2", "", "**KPIs** four"] =
      some [": three", "* Files: 2"] := by
  decide +kernel

end Blocks

end Content

end TaskAudit
