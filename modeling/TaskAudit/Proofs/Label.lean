import TaskAudit.Proofs.TaskNumber

/-!
# Labels that are written and read

The label of a name is read as the label of that name and of no other, both where fields are read
and where sections are looked up.
-/

namespace TaskAudit

open Text Document Content

namespace Template

/-- A name that a label can be made of. -/
structure IsName (name : String) : Prop where
  quiet : IsQuiet name
  noColon : ':' ∉ name.toList

theorem isName_ofList {cs : List Char} (h : cs.all isQuietChar = true)
    (hcolon : cs.contains ':' = false) : IsName (String.ofList cs) := by
  refine ⟨isQuiet_ofList h, ?_⟩
  rw [String.toList_ofList]
  simpa using hcolon

theorem toList_label (name : String) :
    (label name).toList = boldMark ++ name.toList ++ boldMark := by
  simp [label, boldMark]

section Label

variable {name other : String} (hname : IsName name)

include hname

theorem takeWhile_name : (name.toList ++ boldMark).takeWhile (· ≠ '*') = name.toList := by
  apply takeWhile_run
  · intro c hc
    rw [decide_eq_true_eq]
    rintro rfl
    exact hname.quiet.asterisk_not_mem hc
  · exact stops_at_cons (by simp) _

/-- Where a name and the end of its label can be read as another name, it is the same one. -/
theorem eq_of_bold (hother : IsName other) {rest value : List Char}
    (h : name.toList ++ boldMark = other.toList ++ rest)
    (hvalue : after? boldMark (dropColon rest).2 = some value) : other = name := by
  have hrun : ∀ c ∈ other.toList, decide (c ≠ '*') = true := by
    intro c hc
    rw [decide_eq_true_eq]
    rintro rfl
    exact hother.quiet.asterisk_not_mem hc
  have htake := takeWhile_name hname
  rw [h, List.takeWhile_append_of_pos hrun] at htake
  rw [after?_eq_some_iff] at hvalue
  cases rest with
  | nil => simp [dropColon, boldMark] at hvalue
  | cons c rest =>
      by_cases hc : c = ':'
      · subst hc
        have hmem : ':' ∈ name.toList := by
          rw [← htake]
          simp
        exact absurd hmem hname.noColon
      · have hdrop : dropColon (c :: rest) = (false, c :: rest) := by
          rw [dropColon]
          rintro _ heq
          exact hc (List.cons.inj heq).1
        rw [hdrop] at hvalue
        obtain rfl : c = '*' := (List.cons.inj hvalue).1
        rw [List.takeWhile_cons_of_neg (by simp), List.append_nil] at htake
        exact String.toList_inj.1 htake

theorem eq_of_after?_label (hother : IsName other) {rest value : List Char}
    (h : after? (boldMark ++ other.toList) (label name).toList = some rest)
    (hvalue : after? boldMark (dropColon rest).2 = some value) : other = name := by
  rw [after?_eq_some_iff, toList_label, List.append_assoc, List.append_assoc] at h
  exact eq_of_bold hname hother (List.append_cancel_left h) hvalue

theorem labelled?_label (hother : IsName other) :
    labelled? other.toList (label name).toList =
      if other = name then some (false, []) else none := by
  split
  · next heq =>
    subst heq
    rw [labelled?, toList_label, after?_append]
    rfl
  · next hne =>
    rw [Option.eq_none_iff_forall_ne_some]
    intro found hfound
    obtain ⟨rest, hrest, hfound⟩ := Option.bind_eq_some_iff.1 hfound
    generalize hdrop : dropColon rest = dropped at hfound
    obtain ⟨inner, tail⟩ := dropped
    obtain ⟨value, hvalue, -⟩ := Option.bind_eq_some_iff.1 hfound
    exact hne (eq_of_after?_label hname hother hrest (by rwa [hdrop]))

theorem afterName?_label (hother : IsName other) :
    afterName? other (label name) = if other = name then some [] else none := by
  have hstart : trimStart (label name).toList = (label name).toList := by
    rw [toList_label, trimStart, boldMark, List.append_assoc, List.cons_append]
    exact List.dropWhile_cons_of_neg (by decide)
  rw [afterName?, hstart]
  split
  · next heq =>
    subst heq
    rw [toList_label, after?_append]
    rfl
  · next hne =>
    rw [Option.eq_none_iff_forall_ne_some]
    intro found hfound
    obtain ⟨rest, hrest, hvalue⟩ := Option.bind_eq_some_iff.1 hfound
    exact hne (eq_of_after?_label hname hother hrest hvalue)

theorem isUnbroken_label : IsUnbroken (label name) := by
  rw [label, isUnbroken_append, isUnbroken_append]
  exact ⟨⟨by decide, hname.quiet.isUnbroken⟩, by decide⟩

theorem not_mem_label {c : Char} (hstar : c ≠ '*') (hc : isQuietChar c = false) :
    c ∉ (label name).toList := by
  have hnot : c ∉ name.toList := fun hmem => by simp [hname.quiet c hmem] at hc
  simp [label, hnot, hstar]

end Label

/-! ### Labels that state no complexity -/

/-- What a statement of complexity starts with. -/
def complexityWord : List Char := "complexity assessment".toList

theorem isLetter_asterisk {letter : Char} (h : letter ≠ '*') : isLetter letter '*' = false := by
  have hletter : ('*' == letter) = false := beq_eq_false_iff_ne.2 (Ne.symm h)
  simp [isLetter, asciiLower, hletter]

theorem dropWord?_append_boldMark {word cs : List Char} (hword : '*' ∉ word)
    (h : dropWord? word cs = none) :
    dropWord? word (cs ++ boldMark) = none := by
  induction word generalizing cs with
  | nil => simp [dropWord?] at h
  | cons letter word ih =>
      rw [List.mem_cons, not_or] at hword
      cases cs with
      | nil => simp [boldMark, dropWord?, isLetter_asterisk (Ne.symm hword.1)]
      | cons c cs =>
          rw [List.cons_append, dropWord?]
          split
          · next hc =>
            rw [dropWord?, if_pos hc] at h
            exact ih hword.2 h
          · rfl

theorem statedHere?_cons_of_ne {c : Char} (hc : c ≠ '*') (rest : List Char) :
    Check.Kpi.statedHere? (c :: rest) = none := by
  have hafter : after? boldMark (c :: rest) = none := by
    rw [boldMark, after?, if_neg (Ne.symm hc)]
  rw [Check.Kpi.statedHere?, hafter]
  rfl

theorem statedWord?_append_boldMark {cs : List Char} (h : '*' ∉ cs) :
    Check.Kpi.statedWord? (cs ++ boldMark) = none := by
  induction cs with
  | nil => decide +kernel
  | cons c cs ih =>
      rw [List.mem_cons, not_or] at h
      rw [List.cons_append, Check.Kpi.statedWord?, statedHere?_cons_of_ne (Ne.symm h.1)]
      exact ih h.2

theorem statedWord?_label {name : String} (hname : IsName name)
    (h : dropWord? complexityWord name.toList = none) :
    Check.Kpi.statedWord? (label name).toList = none := by
  have hstar := hname.quiet.asterisk_not_mem
  have hword : dropWord? complexityWord (name.toList ++ boldMark) = none :=
    dropWord?_append_boldMark (by decide +kernel) h
  have hfirst : Check.Kpi.statedHere? (boldMark ++ (name.toList ++ boldMark)) = none := by
    rw [Check.Kpi.statedHere?, after?_append]
    show (dropWord? complexityWord (name.toList ++ boldMark)).bind _ = none
    rw [hword]
    rfl
  have hsecond : Check.Kpi.statedHere? ('*' :: (name.toList ++ boldMark)) = none := by
    cases htext : name.toList with
    | nil => decide +kernel
    | cons c cs =>
        have hc : c ≠ '*' := by
          rintro rfl
          exact hstar (by simp [htext])
        have hafter : after? boldMark ('*' :: (c :: cs ++ boldMark)) = none := by
          rw [boldMark, after?, if_pos rfl, List.cons_append, after?, if_neg (Ne.symm hc)]
        rw [Check.Kpi.statedHere?, hafter]
        rfl
  rw [toList_label, List.append_assoc]
  rw [boldMark] at hfirst ⊢
  simp only [List.cons_append, List.nil_append] at hfirst ⊢
  rw [Check.Kpi.statedWord?, hfirst]
  simp only [Check.Kpi.statedWord?]
  rw [boldMark] at hsecond
  rw [hsecond]
  exact statedWord?_append_boldMark hstar

/-- A name whose label says nothing of dependencies, metrics or complexity. -/
structure IsCalmName (name : String) : Prop extends IsName name where
  noDependencies : name ≠ "Dependencies"
  noMetrics : name ≠ Check.Kpi.sectionName
  noComplexity : dropWord? complexityWord name.toList = none

namespace IsCalmName

theorem of_ofList {cs : List Char} (hquiet : cs.all isQuietChar = true)
    (hname : (!cs.contains ':' && cs != "Dependencies".toList &&
      cs != Check.Kpi.sectionName.toList && (dropWord? complexityWord cs).isNone) = true) :
    IsCalmName (String.ofList cs) := by
  simp only [Bool.and_eq_true, Bool.not_eq_true', bne_iff_ne, Option.isNone_iff_eq_none] at hname
  obtain ⟨⟨⟨hcolon, hdependencies⟩, hmetrics⟩, hcomplexity⟩ := hname
  refine ⟨isName_ofList hquiet hcolon, ?_, ?_, ?_⟩
  · rwa [Ne, ← String.toList_inj, String.toList_ofList]
  · rwa [Ne, ← String.toList_inj, String.toList_ofList]
  · rwa [String.toList_ofList]

theorem isCalm_label {name : String} (h : IsCalmName name) : IsCalm (label name) where
  marker? := marker?_of_not_mem (not_mem_label h.toIsName (by decide) rfl)
    (not_mem_label h.toIsName (by decide) rfl)
  dependencies := by
    have hother : IsName "Dependencies" := isName_ofList rfl rfl
    rw [labelled?_label h.toIsName hother, if_neg (Ne.symm h.noDependencies)]
  metrics := by
    have hother : IsName Check.Kpi.sectionName := isName_ofList rfl rfl
    rw [afterName?_label h.toIsName hother, if_neg (Ne.symm h.noMetrics)]
  complexity := statedWord?_label h.toIsName h.noComplexity

end IsCalmName

end Template

end TaskAudit
