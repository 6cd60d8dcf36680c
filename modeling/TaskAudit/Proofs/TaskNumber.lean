import Mathlib.Data.List.TakeWhile
import TaskAudit.Policy.Standard
import TaskAudit.Proofs.Matching
import TaskAudit.Proofs.Passing
import TaskAudit.Proofs.Quiet
import TaskAudit.Template

/-!
# Ids made of a code and a number

An id falls apart into its head and what follows it in one way only: each part of the head is as
long as it can be. A code of two to four capitals and a number of four digits make an id from which
both are read back, and which the standard policy accepts. With a dash and more digits behind it, it
is the id of a numbered subtask, and the id itself is that of its parent.
-/

namespace TaskAudit

open Text

namespace Text

/-! ### Digits -/

/-- No digit of any script is among the characters up to the small letters but those of ASCII. -/
theorem le_toNat_of_isDigit {c : Char} (h : isDigit c = true) :
    (48 ≤ c.toNat ∧ c.toNat ≤ 57) ∨ 0x660 ≤ c.toNat := by
  obtain ⟨value, hvalue⟩ := Option.isSome_iff_exists.1 h
  obtain ⟨nought, hfind, -⟩ := Option.map_eq_some_iff.1 hvalue
  have hzero : ∀ nought ∈ zeroDigits, nought = 48 ∨ 0x660 ≤ nought := by decide
  have hrange := List.find?_some hfind
  simp only [Bool.and_eq_true, decide_eq_true_eq] at hrange
  rcases hzero nought (List.mem_of_find?_eq_some hfind) with rfl | hbeyond
  · omega
  · omega

theorem digitValue?_of_isDigit {c : Char} (h : c.isDigit = true) :
    digitValue? c = some (c.toNat - 48) := by
  have hrange : 48 ≤ c.toNat ∧ c.toNat ≤ 57 := Char.isDigit_iff_toNat.1 h
  have hfind : zeroDigits.find? (fun nought => nought ≤ c.toNat && c.toNat < nought + 10) =
      some 48 := by
    rw [zeroDigits, List.find?_cons_of_pos]
    simp only [Bool.and_eq_true, decide_eq_true_eq]
    omega
  rw [digitValue?, hfind]
  rfl

theorem isDigit_of_isDigit {c : Char} (h : c.isDigit = true) : isDigit c = true := by
  rw [isDigit, digitValue?_of_isDigit h]
  rfl

theorem digitsValue_eq_ofDigitChars {cs : List Char} (h : ∀ c ∈ cs, c.isDigit = true) :
    digitsValue cs = Nat.ofDigitChars 10 cs 0 := by
  have hfold : ∀ value, cs.foldl (fun value c => value * 10 + (digitValue? c).getD 0) value =
      Nat.ofDigitChars 10 cs value := by
    induction cs with
    | nil => intro value; rfl
    | cons c cs ih =>
        obtain ⟨hc, hcs⟩ := List.forall_mem_cons.1 h
        intro value
        rw [List.foldl_cons, ih hcs, Nat.ofDigitChars_cons, digitValue?_of_isDigit hc,
          Nat.mul_comm]
        rfl
  exact hfold 0

end Text

namespace Template

/-- What the text of a number up to 9999 consists of. -/
structure IsNumberText (n : Nat) (digits : List Char) : Prop where
  length : digits.length = 4
  isDigit : ∀ c ∈ digits, c.isDigit = true
  value : digitsValue digits = n

theorem isNumberText_numberText {n : Nat} (h : n ≤ 9999) :
    IsNumberText n (numberText n).toList := by
  have htext : (numberText n).toList =
      List.replicate (4 - (Nat.toDigits 10 n).length) '0' ++ Nat.toDigits 10 n := by
    have hsign : ¬ (n : Int) < 0 := by omega
    simp [numberText, hsign]
  have hshort : (Nat.toDigits 10 n).length ≤ 4 :=
    (Nat.length_toDigits_le_iff (by decide) (by decide)).2 (by omega)
  have hdigits : ∀ c ∈ (numberText n).toList, c.isDigit = true := by
    rw [htext, List.forall_mem_append]
    constructor
    · intro c hc
      rw [List.eq_of_mem_replicate hc]
      rfl
    · exact fun c hc => Nat.isDigit_of_mem_toDigits (by decide) (by decide) hc
  refine ⟨?_, hdigits, ?_⟩
  · rw [htext, List.length_append, List.length_replicate]
    omega
  · rw [digitsValue_eq_ofDigitChars hdigits, htext, Nat.ofDigitChars_append,
      Nat.ofDigitChars_replicate_zero, Nat.mul_zero, Nat.ofDigitChars_ten_toDigits]

end Template

namespace TaskId

theorem isCapital_iff {c : Char} : isCapital c = true ↔ 65 ≤ c.toNat ∧ c.toNat ≤ 90 := by
  rw [isCapital, Bool.and_eq_true, decide_eq_true_eq, decide_eq_true_eq]
  exact Iff.rfl

theorem isCapital_eq_false_of_isDigit {c : Char} (h : isDigit c = true) : isCapital c = false := by
  rw [← Bool.not_eq_true, isCapital_iff]
  have := le_toNat_of_isDigit h
  omega

/-! ### Heads -/

/-- A head is what a text starts with: no part of it goes on behind it. -/
structure IsHead (cs : List Char) (h : Head) : Prop where
  eq : cs = h.id ++ h.rest
  isCapital : ∀ c ∈ h.code, isCapital c = true
  least : 2 ≤ h.code.length
  most : h.code.length ≤ 4
  isDigit : ∀ c ∈ h.digits, isDigit c = true
  rest : ∀ c, h.rest.head? = some c → Text.isDigit c = false
  /-- What follows the code is neither a capital nor a dash that the head left out. -/
  plain : h.dashed = false →
    ∀ c, (h.digits ++ h.rest).head? = some c → TaskId.isCapital c = false ∧ c ≠ '-'

section Heads

variable {cs : List Char} {h : Head}

theorem head?_of_isHead (hh : IsHead cs h) : head? cs = some h := by
  obtain ⟨code, dashed, digits, rest⟩ := h
  obtain ⟨heq, hcode, hleast, hmost, hdigits, hrest, hplain⟩ := hh
  simp only [Head.id, List.append_assoc] at heq hcode hleast hmost hdigits hrest hplain
  cases dashed with
  | true =>
      have hstop : ∀ c, ('-' :: (digits ++ rest)).head? = some c → isCapital c = false :=
        stops_at_cons (by decide) _
      obtain rfl : cs = code ++ '-' :: (digits ++ rest) := heq
      rw [head?, takeWhile_run hcode hstop, dropWhile_run hcode hstop, if_pos ⟨hleast, hmost⟩]
      simp only [takeWhile_run hdigits hrest, dropWhile_run hdigits hrest]
  | false =>
      have hstop : ∀ c, (digits ++ rest).head? = some c → isCapital c = false :=
        fun c hc => (hplain rfl c hc).1
      obtain rfl : cs = code ++ (digits ++ rest) := heq
      rw [head?, takeWhile_run hcode hstop, dropWhile_run hcode hstop, if_pos ⟨hleast, hmost⟩]
      split
      · next tail htail => exact absurd rfl (hplain rfl '-' (by rw [htail]; rfl)).2
      · rw [takeWhile_run hdigits hrest, dropWhile_run hdigits hrest]

theorem head?_eq_some_iff : head? cs = some h ↔ IsHead cs h := by
  refine ⟨fun hh => ?_, head?_of_isHead⟩
  have hsplit := List.takeWhile_append_dropWhile (p := isCapital) (l := cs)
  have hcode : ∀ c ∈ cs.takeWhile isCapital, isCapital c = true :=
    fun c hc => List.mem_takeWhile_imp hc
  have hdigits : ∀ tail : List Char, ∀ c ∈ tail.takeWhile isDigit, isDigit c = true :=
    fun tail c hc => List.mem_takeWhile_imp hc
  have hrest : ∀ (p : Char → Bool) (tail : List Char) (c : Char),
      (tail.dropWhile p).head? = some c → p c = false := by
    intro p tail c hc
    have hnot := List.head?_dropWhile_not p tail
    rwa [hc] at hnot
  rw [head?, Option.ite_none_right_eq_some] at hh
  obtain ⟨⟨hleast, hmost⟩, hh⟩ := hh
  split at hh
  · next tail htail =>
    obtain rfl := Option.some.inj hh
    refine ⟨?_, hcode, hleast, hmost, hdigits tail, hrest isDigit tail, fun hdash => ?_⟩
    · rw [htail] at hsplit
      simpa [Head.id] using hsplit.symm
    · simp at hdash
  · next tail hdash =>
    obtain rfl := Option.some.inj hh
    refine ⟨?_, hcode, hleast, hmost, hdigits _, hrest isDigit _, fun _ c hc => ?_⟩
    · simp [Head.id]
    · simp only [List.takeWhile_append_dropWhile] at hc
      refine ⟨hrest isCapital cs c hc, ?_⟩
      rintro rfl
      obtain ⟨tail, htail⟩ := List.head?_eq_some_iff.1 hc
      exact hdash tail htail

theorem isHead_append {code digits rest : List Char}
    (hcode : ∀ c ∈ code, isCapital c = true) (hleast : 2 ≤ code.length) (hmost : code.length ≤ 4)
    (hdigits : ∀ c ∈ digits, isDigit c = true) (hthree : 3 ≤ digits.length)
    (hrest : ∀ c, rest.head? = some c → isDigit c = false) :
    IsHead (code ++ digits ++ rest) ⟨code, false, digits, rest⟩ := by
  refine ⟨by simp [Head.id], hcode, hleast, hmost, hdigits, hrest, fun _ c hc => ?_⟩
  cases digits with
  | nil => simp at hthree
  | cons d digits =>
      obtain rfl : d = c := by simpa using hc
      have hd : isDigit d = true := hdigits d List.mem_cons_self
      refine ⟨isCapital_eq_false_of_isDigit hd, ?_⟩
      rintro rfl
      exact absurd hd (by decide)

end Heads

/-! ### Codes and numbers -/

/-- A letter code: two to four capitals. -/
structure IsCode (code : String) : Prop where
  isCapital : ∀ c ∈ code.toList, isCapital c = true
  least : 2 ≤ code.length
  most : code.length ≤ 4

instance (code : String) : Decidable (IsCode code) :=
  decidable_of_iff (code.toList.all TaskId.isCapital = true ∧ 2 ≤ code.length ∧ code.length ≤ 4)
    ⟨fun ⟨h₁, h₂, h₃⟩ => ⟨List.all_eq_true.1 h₁, h₂, h₃⟩,
      fun h => ⟨List.all_eq_true.2 h.1, h.2, h.3⟩⟩

open Pattern in
/-- The pattern of ids in the standard policy: capitals, digits, and perhaps what makes the id of a
subtask. -/
theorem idPattern_standard : Policy.standard.idPattern.expr =
    .seq (.anchor .start) (.seq (.rep .greedy (.oneOf ⟨false, false⟩ false [.run 65 90]) 2 (some 4))
      (.seq (.rep .greedy (.oneOf ⟨false, false⟩ false [.kind .digit false]) 3 (some 4))
        (.seq (.rep .greedy (.group 1 (.alt
            (.seq (.oneOf ⟨false, false⟩ false [.char 45])
              (.rep .greedy (.oneOf ⟨false, false⟩ false [.kind .digit false]) 1 none))
            (.oneOf ⟨false, false⟩ false [.run 97 122]))) 0 (some 1))
          (.anchor .finish)))) := by
  decide +kernel

open Pattern in
/-- Two to four capitals and three or four digits are accepted. -/
theorem accepts_idPattern {s : String} {code digits : List Char} (hs : s.toList = code ++ digits)
    (hcode : ∀ c ∈ code, isCapital c = true) (hleast : 2 ≤ code.length) (hmost : code.length ≤ 4)
    (hdigits : ∀ c ∈ digits, Text.isDigit c = true) (hthree : 3 ≤ digits.length)
    (hfour : digits.length ≤ 4) : Policy.standard.idPattern.accepts s = true := by
  rw [accepts_iff, idPattern_standard]
  generalize htext : s.toList.toArray = text
  have hchars : text.toList = [] ++ (code ++ digits) := by rw [← htext, hs, List.nil_append]
  have hbehind : text.toList = code ++ (digits ++ []) := by rw [hchars, List.append_nil]; rfl
  have hcapitals : ∀ c ∈ code, (inSet ⟨false, false⟩ c [.run 65 90] != false) = true := by
    intro c hc
    simpa [inSet_run] using isCapital_iff.1 (hcode c hc)
  have hnumbers : ∀ c ∈ digits, (inSet ⟨false, false⟩ c [.kind .digit false] != false) = true := by
    intro c hc
    simpa [inSet_kind, Kind.holds] using hdigits c hc
  have hfirst := runs_of_toList_eq hchars hcapitals
  have hsecond := runs_of_toList_eq hbehind hnumbers
  have hend : text.size = code.length + digits.length := by
    rw [← Array.length_toList, hchars, List.nil_append, List.length_append]
  refine Expr.exists_mem_ways_seq (List.mem_singleton_self Spot.start) ?_
  refine Expr.exists_mem_ways_seq (Expr.goto_mem_ways_rep rfl hfirst hleast ?_) ?_
  · rintro _ ⟨⟩
    exact hmost
  refine Expr.exists_mem_ways_seq
    (Expr.goto_mem_ways_rep (Nat.zero_add code.length) hsecond hthree ?_) ?_
  · rintro _ ⟨⟩
    exact hfour
  refine Expr.exists_mem_ways_seq Expr.self_mem_ways_rep (Expr.exists_mem_ways_anchor ?_)
  simp [Anchor.holds, Spot.goto, hend]

section Ids

variable {code : String} {n : Nat} {rest : List Char}

def ofNumber (code : String) (n : Nat) : String := code ++ Template.numberText n

theorem toList_ofNumber :
    (ofNumber code n).toList = code.toList ++ (Template.numberText n).toList :=
  String.toList_append

theorem exists_digit_numberText (hn : n ≤ 9999) : ∃ d ds, (Template.numberText n).toList = d :: ds ∧
    isDigit d = true := by
  have hdigits := Template.isNumberText_numberText hn
  cases htext : (Template.numberText n).toList with
  | nil => simpa [htext] using hdigits.length
  | cons d ds =>
      exact ⟨d, ds, rfl, isDigit_of_isDigit (hdigits.isDigit d (htext ▸ List.mem_cons_self))⟩

variable (hcode : IsCode code) (hn : n ≤ 9999)

include hcode hn

theorem range_of_mem_ofNumber {c : Char} (hc : c ∈ (ofNumber code n).toList) :
    48 ≤ c.toNat ∧ c.toNat ≤ 90 := by
  rw [toList_ofNumber, List.mem_append] at hc
  rcases hc with hc | hc
  · have := isCapital_iff.1 (hcode.isCapital c hc)
    omega
  · have hdigit := (Template.isNumberText_numberText hn).isDigit c hc
    have : 48 ≤ c.toNat ∧ c.toNat ≤ 57 := Char.isDigit_iff_toNat.1 hdigit
    omega

omit hcode in
theorem length_ofNumber : (ofNumber code n).toList.length = code.length + 4 := by
  rw [toList_ofNumber, List.length_append, (Template.isNumberText_numberText hn).length,
    String.length_toList]

theorem isQuiet_ofNumber : IsQuiet (ofNumber code n) := by
  intro c hc
  have := range_of_mem_ofNumber hcode hn hc
  exact isQuietChar_of_toNat (by omega)

theorem head?_append (hrest : ∀ c, rest.head? = some c → isDigit c = false) :
    head? ((ofNumber code n).toList ++ rest) =
      some ⟨code.toList, false, (Template.numberText n).toList, rest⟩ := by
  have hdigits := Template.isNumberText_numberText hn
  have hrun : ∀ c ∈ (Template.numberText n).toList, isDigit c = true := fun c hc =>
    isDigit_of_isDigit (hdigits.isDigit c hc)
  rw [toList_ofNumber]
  exact head?_of_isHead (isHead_append hcode.isCapital hcode.least hcode.most hrun
    (by rw [hdigits.length]; decide) hrest)

theorem head?_ofNumber : head? (ofNumber code n).toList =
    some ⟨code.toList, false, (Template.numberText n).toList, []⟩ := by
  have hnil : ∀ c, ([] : List Char).head? = some c → isDigit c = false := by simp
  simpa using head?_append hcode hn hnil

theorem number?_ofNumber : number? (ofNumber code n) = some n := by
  have hdigits := Template.isNumberText_numberText hn
  have htake : (Template.numberText n).toList.take 4 = (Template.numberText n).toList :=
    List.take_of_length_le (Nat.le_of_eq hdigits.length)
  simp only [number?, head?_ofNumber hcode hn, hdigits.length, htake, hdigits.value]
  rfl

theorem ofNumber_ne {m : Nat} (hm : m ≤ 9999) (hne : n ≠ m) :
    ofNumber code n ≠ ofNumber code m := by
  intro heq
  have hnumber := number?_ofNumber hcode hn
  rw [heq, number?_ofNumber hcode hm] at hnumber
  exact hne (Option.some.inj hnumber).symm

theorem code?_ofNumber : code? (ofNumber code n) = some code := by
  obtain ⟨d, ds, htext, -⟩ := exists_digit_numberText hn
  simp [code?, head?_ofNumber hcode hn, htext]

theorem isNumbered_ofNumber : isNumbered (ofNumber code n) = false := by
  have hshape : shape? (ofNumber code n) = none := by
    have hnumber := (Template.isNumberText_numberText hn).length
    simp [shape?, head?_ofNumber hcode hn, Head.shape?, Head.hasNumber, hnumber, isNumberedTail,
      isLetteredTail]
  simp [isNumbered, hshape]

theorem accepts_ofNumber : Policy.standard.idPattern.accepts (ofNumber code n) = true := by
  have hdigits := Template.isNumberText_numberText hn
  have hrun : ∀ c ∈ (Template.numberText n).toList, isDigit c = true := fun c hc =>
    isDigit_of_isDigit (hdigits.isDigit c hc)
  refine accepts_idPattern toList_ofNumber hcode.isCapital hcode.least hcode.most hrun ?_ ?_
  · rw [hdigits.length]
    decide
  · rw [hdigits.length]

/-! ### Ids of numbered subtasks -/

section Parts

variable {part : String}

theorem head?_part : head? (ofNumber code n ++ "-" ++ part).toList =
    some ⟨code.toList, false, (Template.numberText n).toList, '-' :: part.toList⟩ := by
  have hdash : ∀ c, ('-' :: part.toList).head? = some c → isDigit c = false :=
    stops_at_cons (by decide) _
  simpa using head?_append hcode hn hdash

theorem code?_part : code? (ofNumber code n ++ "-" ++ part) = some code := by
  obtain ⟨d, ds, htext, -⟩ := exists_digit_numberText hn
  simp only [code?, head?_part hcode hn, htext]
  simp

theorem parent?_part (hpart : ∀ c ∈ part.toList, isDigit c = true) (hne : part ≠ "") :
    parent? (ofNumber code n ++ "-" ++ part) = some (ofNumber code n) := by
  have hdigits := Template.isNumberText_numberText hn
  have htail : isNumberedTail ('-' :: part.toList) = true := by
    have hnil : ∀ c, ([] : List Char).head? = some c → isDigit c = false := by simp
    have htake := takeWhile_run hpart hnil
    have hdrop := dropWhile_run hpart hnil
    rw [List.append_nil] at htake hdrop
    simp [isNumberedTail, htake, hdrop, isEnd, hne]
  have hshape : shape? (ofNumber code n ++ "-" ++ part) = some (.numbered,
      ⟨code.toList, false, (Template.numberText n).toList, '-' :: part.toList⟩) := by
    simp only [shape?, head?_part hcode hn, Option.bind_some, Head.shape?, Head.hasNumber,
      hdigits.length, htail]
    rfl
  simp only [parent?, hshape, Head.id]
  simp [ofNumber, String.ofList_append]

end Parts

end Ids

end TaskId

end TaskAudit
