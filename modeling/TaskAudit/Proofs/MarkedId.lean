import TaskAudit.Document.Subtask
import TaskAudit.Proofs.IdShape

/-!
# Ids in marks

The id of a subtask stands in parentheses, in brackets or in bold. A reading of one succeeds where
such a mark is and nowhere else, so a text is searched for the first mark in it, or for a mark that
ends it. No blank is in a mark, so none is found across one.
-/

namespace TaskAudit

open Text

/-! ### Ids -/

namespace TaskId

/-- The id of a checkbox: that of a task, and perhaps a small letter behind it. -/
def IsCheckboxId (cs : List Char) : Prop :=
  ∃ (plain : List Char) (letter : Option Char), IsPlain plain ∧
    (∀ c ∈ letter, isSmall c = true) ∧ cs = plain ++ letter.toList

section Characters

variable {c : Char} (hcapital : isCapital c = false) (hdigit : isDigit c = false)

include hcapital hdigit

theorem IsPlain.not_mem {cs : List Char} (h : IsPlain cs) : c ∉ cs := by
  obtain ⟨code, digits, rfl, hcode, -, -, hdigits, -⟩ := h
  intro hc
  rcases List.mem_append.1 hc with hc | hc
  · simp [hcode c hc] at hcapital
  · simp [hdigits c hc] at hdigit

theorem IsPart.not_mem {id parent : String} (h : IsPart id parent) (hdash : c ≠ '-') :
    c ∉ id.toList := by
  obtain ⟨hparent, number, -, hnumber, hid⟩ := h
  have hnot : c ∉ number := fun hc => by simp [hnumber c hc] at hdigit
  simp [hid, hparent.not_mem hcapital hdigit, hdash, hnot]

theorem IsCheckboxId.not_mem {cs : List Char} (h : IsCheckboxId cs) (hsmall : isSmall c = false) :
    c ∉ cs := by
  obtain ⟨plain, letter, hplain, hletter, rfl⟩ := h
  have hnot : c ∉ letter.toList := fun hc => by
    simp [hletter c (Option.mem_toList.1 hc)] at hsmall
  simp [hplain.not_mem hcapital hdigit, hnot]

end Characters

end TaskId

namespace Document

open TaskId

/-! ### Marks -/

theorem plainId?_eq_some_iff {cs id rest : List Char} : plainId? cs = some (id, rest) ↔
    IsPlain id ∧ cs = id ++ rest ∧ ∀ c, rest.head? = some c → isDigit c = false := by
  rw [plainId?, Option.bind_eq_some_iff]
  simp only [Option.ite_none_right_eq_some, Option.some.injEq, Prod.mk.injEq, Head.hasNumber,
    Bool.and_eq_true, decide_eq_true_eq]
  constructor
  · rintro ⟨head, hhead, ⟨⟨hthree, hfour⟩, hdash⟩, rfl, rfl⟩
    have hhead := head?_eq_some_iff.1 hhead
    refine ⟨⟨head.code, head.digits, by simp [Head.id, hdash], hhead.isCapital, hhead.least,
      hhead.most, hhead.isDigit, hthree, hfour⟩, hhead.eq, hhead.rest⟩
  · rintro ⟨⟨code, digits, rfl, hcode, hleast, hmost, hdigits, hthree, hfour⟩, rfl, hrest⟩
    have hhead := isHead_append hcode hleast hmost hdigits hthree hrest
    exact ⟨_, head?_of_isHead hhead, ⟨⟨hthree, hfour⟩, by simp⟩, by simp [Head.id], rfl⟩

theorem parenthesized?_eq_some_iff {cs id rest : List Char} :
    parenthesized? cs = some (id, rest) ↔
      (∃ parent, IsPart (String.ofList id) parent) ∧ cs = '(' :: id ++ ')' :: rest := by
  simp only [parenthesized?, Option.bind_eq_bind, Option.bind_eq_some_iff,
    Option.ite_none_left_eq_some, Option.pure_def, Option.some.injEq, Prod.mk.injEq,
    Prod.exists, after?_eq_some_iff, plainId?_eq_some_iff]
  constructor
  · rintro ⟨inner, rfl, parent, _, ⟨hparent, rfl, -⟩, tail, rfl, hne, rest, hclose, rfl, rfl⟩
    refine ⟨⟨String.ofList parent, ?_, _, hne, fun c hc => List.mem_takeWhile_imp hc, ?_⟩, ?_⟩
    · rwa [String.toList_ofList]
    · rw [String.toList_ofList, String.toList_ofList]
    · have hsplit : tail = tail.takeWhile isDigit ++ ')' :: rest := by
        rw [← List.singleton_append, ← hclose, List.takeWhile_append_dropWhile]
      calc ['('] ++ (parent ++ (['-'] ++ tail))
          = ['('] ++ (parent ++ (['-'] ++ (tail.takeWhile isDigit ++ ')' :: rest))) := by
            rw [← hsplit]
        _ = '(' :: (parent ++ '-' :: tail.takeWhile isDigit) ++ ')' :: rest := by simp
  · rintro ⟨⟨parent, hparent, number, hne, hnumber, hid⟩, rfl⟩
    rw [String.toList_ofList] at hid
    subst hid
    have hclose : ∀ c, (')' :: rest).head? = some c → isDigit c = false :=
      stops_at_cons (by decide) rest
    refine ⟨_, rfl, parent.toList, '-' :: (number ++ ')' :: rest), ⟨hparent, by simp,
      stops_at_cons (by decide) _⟩, number ++ ')' :: rest, rfl, ?_, rest, ?_, ?_, rfl⟩
    · rwa [takeWhile_run hnumber hclose]
    · rw [dropWhile_run hnumber hclose, List.singleton_append]
    · rw [takeWhile_run hnumber hclose]

theorem parenthesized?_cons_of_ne {c : Char} (hc : c ≠ '(') (cs : List Char) :
    parenthesized? (c :: cs) = none := by
  have hafter : after? ['('] (c :: cs) = none := by rw [after?, if_neg (Ne.symm hc)]
  rw [parenthesized?, hafter]
  rfl

theorem of_checkboxId?_eq_some {cs id rest : List Char} (h : checkboxId? cs = some (id, rest)) :
    IsCheckboxId id ∧ cs = id ++ rest := by
  simp only [checkboxId?, Option.bind_eq_bind, Option.bind_eq_some_iff, Prod.exists] at h
  obtain ⟨plain, tail, hread, h⟩ := h
  obtain ⟨hplain, rfl, -⟩ := plainId?_eq_some_iff.1 hread
  cases tail with
  | nil =>
      obtain ⟨rfl, rfl⟩ := Prod.mk.inj (Option.some.inj h)
      exact ⟨⟨plain, none, hplain, by simp, by simp⟩, rfl⟩
  | cons c tail =>
      by_cases hc : isSmall c = true
      · simp only [hc, if_true] at h
        obtain ⟨rfl, rfl⟩ := Prod.mk.inj (Option.some.inj h)
        exact ⟨⟨plain, some c, hplain, by simpa using hc, by simp⟩, by simp⟩
      · simp only [hc] at h
        obtain ⟨rfl, rfl⟩ := Prod.mk.inj (Option.some.inj h)
        exact ⟨⟨plain, none, hplain, by simp, by simp⟩, rfl⟩

theorem checkboxId?_append_cons {id : List Char} {c : Char} (h : IsCheckboxId id)
    (hdigit : isDigit c = false) (hsmall : isSmall c = false) (rest : List Char) :
    checkboxId? (id ++ c :: rest) = some (id, c :: rest) := by
  obtain ⟨plain, letter, hplain, hletter, rfl⟩ := h
  cases letter with
  | none =>
      have hread : plainId? (plain ++ c :: rest) = some (plain, c :: rest) :=
        plainId?_eq_some_iff.2 ⟨hplain, rfl, stops_at_cons hdigit rest⟩
      simp [checkboxId?, hread, hsmall]
  | some l =>
      have hl : isSmall l = true := hletter l rfl
      have hnotDigit : isDigit l = false := by
        rw [← Bool.not_eq_true]
        intro hdigit
        have hrange : 97 ≤ l.toNat ∧ l.toNat ≤ 122 := by
          rw [isSmall, Bool.and_eq_true, decide_eq_true_eq, decide_eq_true_eq] at hl
          exact hl
        have := le_toNat_of_isDigit hdigit
        omega
      have hread : plainId? (plain ++ l :: c :: rest) = some (plain, l :: c :: rest) :=
        plainId?_eq_some_iff.2 ⟨hplain, rfl, stops_at_cons hnotDigit _⟩
      simp [checkboxId?, hread, hl]

theorem bracketed?_eq_some_iff {cs id rest : List Char} : bracketed? cs = some (id, rest) ↔
    IsCheckboxId id ∧ cs = '[' :: id ++ ']' :: rest := by
  simp only [bracketed?, Option.bind_eq_bind, Option.bind_eq_some_iff, Option.pure_def,
    Option.some.injEq, Prod.mk.injEq, Prod.exists, after?_eq_some_iff]
  constructor
  · rintro ⟨inner, rfl, id, _, hread, rest, rfl, rfl, rfl⟩
    obtain ⟨hid, rfl⟩ := of_checkboxId?_eq_some hread
    exact ⟨hid, by simp⟩
  · rintro ⟨hid, rfl⟩
    exact ⟨_, rfl, id, _, checkboxId?_append_cons hid (by decide) (by decide) rest, rest, rfl, rfl,
      rfl⟩

theorem bold?_eq_some_iff {cs id rest : List Char} : bold? cs = some (id, rest) ↔
    IsCheckboxId id ∧ cs = boldMark ++ id ++ boldMark ++ rest := by
  simp only [bold?, Option.bind_eq_bind, Option.bind_eq_some_iff, Option.pure_def,
    Option.some.injEq, Prod.mk.injEq, Prod.exists, after?_eq_some_iff]
  constructor
  · rintro ⟨inner, rfl, id, _, hread, rest, rfl, rfl, rfl⟩
    obtain ⟨hid, rfl⟩ := of_checkboxId?_eq_some hread
    exact ⟨hid, by simp⟩
  · rintro ⟨hid, rfl⟩
    exact ⟨_, by simp [boldMark], id, _,
      checkboxId?_append_cons hid (by decide) (by decide) ('*' :: rest), rest, rfl, rfl, rfl⟩

/-! ### The first mark -/

section Search

variable {read? : List Char → Option (List Char × List Char)} {cs found : List Char}

/-- What is found is read at the first place where anything is. -/
theorem firstFound?_eq_some_iff : firstFound? read? cs = some found ↔
    ∃ n < cs.length, (∃ rest, read? (cs.drop n) = some (found, rest)) ∧
      ∀ m < n, read? (cs.drop m) = none := by
  induction cs with
  | nil => simp [firstFound?]
  | cons c cs ih =>
      cases hread : read? (c :: cs) with
      | some here =>
          have hnone : ∀ n, (∀ m < n, read? ((c :: cs).drop m) = none) → n = 0 := by
            intro n hn
            by_contra hne
            simpa [hread] using hn 0 (Nat.pos_of_ne_zero hne)
          simp only [firstFound?, hread, Option.some.injEq]
          constructor
          · rintro rfl
            exact ⟨0, Nat.succ_pos _, ⟨here.2, hread⟩, by simp⟩
          · rintro ⟨n, -, ⟨rest, hrest⟩, hn⟩
            obtain rfl := hnone n hn
            rw [List.drop_zero, hread] at hrest
            rw [Option.some.inj hrest]
      | none =>
          simp only [firstFound?, hread, ih]
          constructor
          · rintro ⟨n, hlt, hrest, hn⟩
            refine ⟨n + 1, Nat.succ_lt_succ hlt, hrest, fun m hm => ?_⟩
            cases m with
            | zero => exact hread
            | succ m => exact hn m (Nat.lt_of_succ_lt_succ hm)
          · rintro ⟨n, hlt, ⟨rest, hrest⟩, hn⟩
            cases n with
            | zero => simp [hread] at hrest
            | succ n =>
                exact ⟨n, Nat.lt_of_succ_lt_succ hlt, ⟨rest, hrest⟩,
                  fun m hm => hn (m + 1) (Nat.succ_lt_succ hm)⟩

theorem firstFound?_eq_none_iff :
    firstFound? read? cs = none ↔ ∀ n < cs.length, read? (cs.drop n) = none := by
  induction cs with
  | nil => simp [firstFound?]
  | cons c cs ih =>
      cases hread : read? (c :: cs) with
      | some here =>
          simp only [firstFound?, hread, reduceCtorEq, false_iff, not_forall]
          exact ⟨0, Nat.succ_pos _, by simp [hread]⟩
      | none =>
          simp only [firstFound?, hread, ih, List.length_cons]
          constructor
          · intro h n hn
            cases n with
            | zero => exact hread
            | succ n => exact h n (Nat.lt_of_succ_lt_succ hn)
          · exact fun h n hn => h (n + 1) (Nat.succ_lt_succ hn)

theorem firstFound?_append {before rest : List Char}
    (h : ∀ c ∈ before, ∀ cs, read? (c :: cs) = none) :
    firstFound? read? (before ++ rest) = firstFound? read? rest := by
  induction before with
  | nil => rfl
  | cons c before ih =>
      obtain ⟨hc, hbefore⟩ := List.forall_mem_cons.1 h
      rw [List.cons_append, firstFound?, hc]
      exact ih hbefore

/-! ### A mark at the end -/

theorem endFound?_eq_none_iff : endFound? read? cs = none ↔
    ∀ tail, tail <:+ cs → tail ≠ [] → ∀ found, read? tail ≠ some (found, []) := by
  induction cs with
  | nil => simp [endFound?]
  | cons c cs ih =>
      simp only [List.suffix_cons_iff, forall_eq_or_imp]
      rw [endFound?]
      split
      · next found hread => simp [hread]
      · next hread =>
        rw [Option.map_eq_none_iff, ih]
        exact ⟨fun h => ⟨fun _ found => hread found, h⟩, fun h => h.2⟩

/-- A mark that ends a text is found there if no reading up to the end has a blank in it. -/
theorem endFound?_append_blank (hblank : ∀ cs found, read? cs = some (found, []) → ' ' ∉ cs)
    {mark : List Char} (hmark : read? mark = some (found, [])) (hne : mark ≠ [])
    (before : List Char) :
    endFound? read? (before ++ ' ' :: mark) = some (before ++ [' '], found) := by
  have hstep : ∀ (c : Char) {cs more : List Char}, ' ' ∈ c :: cs →
      endFound? read? cs = some (more, found) →
      endFound? read? (c :: cs) = some (c :: more, found) := by
    intro c cs more hmem hcs
    rw [endFound?]
    split
    · next here hread => exact absurd hmem (hblank _ _ hread)
    · rw [hcs, Option.map_some]
  have hhere : endFound? read? mark = some ([], found) := by
    cases mark with
    | nil => exact absurd rfl hne
    | cons c mark => rw [endFound?, hmark]
  induction before with
  | nil => exact hstep ' ' (by simp) hhere
  | cons c before ih => exact hstep c (by simp) ih

theorem endFound?_append_blank_eq_none (hblank : ∀ cs found, read? cs = some (found, []) → ' ' ∉ cs)
    (hnone : endFound? read? cs = none) (before : List Char) :
    endFound? read? (before ++ ' ' :: cs) = none := by
  rw [endFound?_eq_none_iff] at hnone ⊢
  intro tail htail hne found hread
  have hnot : ¬ ' ' :: cs <:+ tail := fun hsuffix =>
    hblank _ _ hread (hsuffix.subset List.mem_cons_self)
  rcases List.suffix_or_suffix_of_suffix htail (List.suffix_append before (' ' :: cs)) with
    hinner | houter
  · rcases List.suffix_cons_iff.1 hinner with rfl | hinner
    · exact hnot List.suffix_rfl
    · exact hnone tail hinner hne found hread
  · exact hnot houter

end Search

/-! ### Marks and blanks -/

theorem blank_not_mem_of_parenthesized? {cs id : List Char}
    (h : parenthesized? cs = some (id, [])) : ' ' ∉ cs := by
  obtain ⟨⟨parent, hpart⟩, rfl⟩ := parenthesized?_eq_some_iff.1 h
  have hid := hpart.not_mem (c := ' ') (by decide) (by decide) (by decide)
  rw [String.toList_ofList] at hid
  simp [hid]

theorem blank_not_mem_of_bracketed? {cs id : List Char}
    (h : bracketed? cs = some (id, [])) : ' ' ∉ cs := by
  obtain ⟨hid, rfl⟩ := bracketed?_eq_some_iff.1 h
  have hnot := hid.not_mem (c := ' ') (by decide) (by decide) (by decide)
  simp [hnot]

theorem exists_eq_append_of_not_mem {α : Type} {c : α} {xs ys mark more : List α} (hc : c ∉ mark)
    (h : xs ++ c :: ys = mark ++ more) : ∃ tail, xs = mark ++ tail ∧ more = tail ++ c :: ys := by
  rcases List.append_eq_append_iff.1 h with ⟨between, rfl, hbetween⟩ | ⟨tail, hxs, hmore⟩
  · cases between with
    | nil => exact ⟨[], by simp, by simpa using hbetween.symm⟩
    | cons d between =>
        obtain rfl : c = d := (List.cons.inj hbetween).1
        exact absurd (by simp) hc
  · exact ⟨tail, hxs, hmore⟩

/-- Whether an id in parentheses is at the start of a text is settled before the next blank. -/
theorem parenthesized?_append_blank (cs rest : List Char) :
    parenthesized? (cs ++ ' ' :: rest) =
      (parenthesized? cs).map fun (id, more) => (id, more ++ ' ' :: rest) := by
  ext ⟨id, more⟩
  simp only [parenthesized?_eq_some_iff, Option.map_eq_some_iff, Prod.mk.injEq, Prod.exists]
  constructor
  · rintro ⟨⟨parent, hpart⟩, heq⟩
    have hread : parenthesized? ('(' :: id ++ [')']) = some (id, []) :=
      parenthesized?_eq_some_iff.2 ⟨⟨parent, hpart⟩, rfl⟩
    have hsplit : cs ++ ' ' :: rest = ('(' :: id ++ [')']) ++ more := by
      rw [heq]
      simp
    obtain ⟨tail, hcs, hmore⟩ :=
      exists_eq_append_of_not_mem (blank_not_mem_of_parenthesized? hread) hsplit
    exact ⟨id, tail, ⟨⟨parent, hpart⟩, by simpa using hcs⟩, rfl, hmore.symm⟩
  · rintro ⟨_, tail, ⟨hid, rfl⟩, rfl, rfl⟩
    exact ⟨hid, by simp⟩

end Document

end TaskAudit
