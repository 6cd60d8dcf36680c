import TaskAudit.Number.Numeral
import TaskAudit.Value

/-!
# Numbers and dates of TOML

Each reader takes the longest number, date or time at the start of a text and returns the rest.
-/

namespace TaskAudit.Toml

open Numeral
open Value (Fault maxIntegerDigits)

/-! ### Numbers -/

/-- Digits that go on after a digit, single underscores between them. -/
def digitsAfter (digit? : Char → Option Nat) : List Char → List Nat × List Char
  | [] => ([], [])
  | '_' :: c :: rest =>
    match digit? c with
    | some d => (d :: (digitsAfter digit? rest).1, (digitsAfter digit? rest).2)
    | none => ([], '_' :: c :: rest)
  | c :: rest =>
    match digit? c with
    | some d => (d :: (digitsAfter digit? rest).1, (digitsAfter digit? rest).2)
    | none => ([], c :: rest)

def digitGroup? (digit? : Char → Option Nat) : List Char → Option (List Nat × List Char)
  | [] => none
  | c :: rest =>
    (digit? c).map fun d => (d :: (digitsAfter digit? rest).1, (digitsAfter digit? rest).2)

def digitIn? (base : Nat) (c : Char) : Option Nat := (hexDigit? c).filter (· < base)

private def baseOf? (c : Char) : Option Nat :=
  if c = 'x' then some 16 else if c = 'o' then some 8 else if c = 'b' then some 2 else none

def basedInteger? : List Char → Option (Int × List Char)
  | '0' :: mark :: rest => do
    let base ← baseOf? mark
    let (digits, rest) ← digitGroup? (digitIn? base) rest
    return ((valueIn base digits : Nat), rest)
  | _ => none

/-- The digits before the point: a zero alone, or any that start with another digit. -/
private def wholePart? : List Char → Option (List Nat × List Char)
  | '0' :: rest => some ([0], rest)
  | cs => digitGroup? asciiDigit? cs

private def fractionPart? : List Char → Option (List Nat × List Char)
  | '.' :: rest => digitGroup? asciiDigit? rest
  | _ => none

private def exponentPart? : List Char → Option (Int × List Char)
  | c :: rest =>
    if c = 'e' || c = 'E' then
      let (negative, rest) := takeSign rest
      (digitGroup? asciiDigit? rest).map fun (digits, rest) =>
        (if negative then -(value digits : Int) else value digits, rest)
    else none
  | [] => none

/-- A decimal number: a float when it has a fraction or an exponent, and else an integer. -/
def decimal? (cs : List Char) : Option (Except Fault Value × List Char) := do
  let (negative, rest) := takeSign cs
  let (whole, rest) ← wholePart? rest
  match fractionPart? rest, exponentPart? ((fractionPart? rest).elim rest Prod.snd) with
  | none, none =>
    if maxIntegerDigits < whole.length then some (.error (.longInteger whole.length), rest)
    else some (.ok (.int (if negative then -(value whole : Int) else value whole)), rest)
  | fraction, exponent =>
    let digits := fraction.elim [] Prod.fst
    let power := exponent.elim 0 Prod.fst
    let rest := exponent.elim (fraction.elim rest Prod.snd) Prod.snd
    some (.ok (.float (Binary64.ofDecimal negative (value (whole ++ digits))
      (power - (digits.length : Int)))), rest)

private def wordFloat? (cs : List Char) : Option (Value × List Char) :=
  let (negative, rest) := takeSign cs
  match rest with
  | 'i' :: 'n' :: 'f' :: more => some (.float (.infinite negative), more)
  | 'n' :: 'a' :: 'n' :: more => some (.float .nan, more)
  | _ => none

/-! ### Dates and times -/

/-- So many digits, within bounds. -/
private def number? (width low high : Nat) (cs : List Char) : Option (Nat × List Char) := do
  let digits ← (cs.take width).mapM asciiDigit?
  if digits.length = width ∧ low ≤ value digits ∧ value digits ≤ high then
    some (value digits, cs.drop width)
  else none

private def char? (c : Char) (cs : List Char) : Option (List Char) :=
  if cs.head? = some c then some cs.tail else none

private def clock? (cs : List Char) : Option (List Char) := do
  let (_, rest) ← number? 2 0 23 cs
  let (_, rest) ← number? 2 0 59 (← char? ':' rest)
  return rest

def time? (cs : List Char) : Option (List Char) := do
  let (_, rest) ← number? 2 0 59 (← char? ':' (← clock? cs))
  match rest with
  | '.' :: more =>
    match takeDigits asciiDigit? more with
    | ([], _) => return rest
    | (_, last) => return last
  | _ => return rest

/-- The distance of a time from universal time. -/
def offset? : List Char → Option (List Char)
  | c :: rest =>
    if c = 'Z' || c = 'z' then some rest
    else if c = '+' || c = '-' then clock? rest
    else none
  | [] => none

def isLeap (year : Nat) : Bool := year % 4 = 0 && (year % 100 != 0 || year % 400 = 0)

def daysOf (year month : Nat) : Nat :=
  if month = 2 then if isLeap year then 29 else 28
  else if [4, 6, 9, 11].contains month then 30
  else 31

/-- The year, month and day of a date, which need not be on the calendar. -/
private def date? (cs : List Char) : Option ((Nat × Nat × Nat) × List Char) := do
  let (year, rest) ← number? 4 0 9999 cs
  let (month, rest) ← number? 2 1 12 (← char? '-' rest)
  let (day, rest) ← number? 2 1 31 (← char? '-' rest)
  return ((year, month, day), rest)

/-- What follows a date: a time and its offset, as far as they are there. -/
private def afterDate (rest : List Char) : Moment × List Char :=
  match rest with
  | [] => (.localDate, rest)
  | c :: more =>
    match if c = 'T' || c = 't' || c = ' ' then time? more else none with
    | none => (.localDate, rest)
    | some last =>
      match offset? last with
      | none => (.localDateTime, last)
      | some tail => (.offsetDateTime, tail)

def moment? (cs : List Char) : Option (Except Fault Value × List Char) :=
  match date? cs with
  | some ((year, month, day), rest) =>
    let (kind, rest) := afterDate rest
    if 1 ≤ year ∧ day ≤ daysOf year month then some (.ok (.moment kind), rest)
    else some (.error .malformed, rest)
  | none => (time? cs).map fun rest => (.ok (.moment .localTime), rest)

/-! ### What is read is gone -/

theorem length_takeSign (cs : List Char) : (takeSign cs).2.length ≤ cs.length := by
  unfold takeSign
  split <;> simp

theorem length_takeDigits (digit? : Char → Option Nat) (cs : List Char) :
    (takeDigits digit? cs).2.length ≤ cs.length := by
  induction cs with
  | nil => simp [takeDigits]
  | cons c cs ih => grind [takeDigits]

theorem length_digitsAfter (digit? : Char → Option Nat) (cs : List Char) :
    (digitsAfter digit? cs).2.length ≤ cs.length := by
  fun_induction digitsAfter digit? cs <;> simp_all <;> omega

theorem length_digitGroup? {digit? : Char → Option Nat} {cs rest : List Char} {ds : List Nat}
    (h : digitGroup? digit? cs = some (ds, rest)) : rest.length < cs.length := by
  cases cs with
  | nil => simp [digitGroup?] at h
  | cons c cs =>
    have := length_digitsAfter digit? cs
    simp only [digitGroup?, Option.map_eq_some_iff, Prod.mk.injEq] at h
    grind

theorem length_basedInteger? {cs rest : List Char} {n : Int}
    (h : basedInteger? cs = some (n, rest)) : rest.length < cs.length := by
  unfold basedInteger? at h
  split at h
  · simp only [Option.bind_eq_bind, Option.bind_eq_some_iff] at h
    obtain ⟨_, _, ⟨_, _⟩, hd, h⟩ := h
    grind [length_digitGroup? hd]
  · simp at h

private theorem length_wholePart? {cs rest : List Char} {ds : List Nat}
    (h : wholePart? cs = some (ds, rest)) : rest.length < cs.length := by
  unfold wholePart? at h
  split at h
  · grind
  · exact length_digitGroup? h

private theorem length_fractionPart? {cs rest : List Char} {ds : List Nat}
    (h : fractionPart? cs = some (ds, rest)) : rest.length ≤ cs.length := by
  unfold fractionPart? at h
  split at h
  · grind [length_digitGroup? h]
  · simp at h

private theorem length_exponentPart? {cs rest : List Char} {n : Int}
    (h : exponentPart? cs = some (n, rest)) : rest.length ≤ cs.length := by
  unfold exponentPart? at h
  split at h
  · next c tail =>
    split at h
    · simp only [Option.map_eq_some_iff] at h
      obtain ⟨⟨_, _⟩, hd, h⟩ := h
      grind [length_digitGroup? hd, length_takeSign tail]
    · simp at h
  · simp at h

theorem length_decimal? {cs rest : List Char} {v : Except Fault Value}
    (h : decimal? cs = some (v, rest)) : rest.length < cs.length := by
  unfold decimal? at h
  simp only [Option.bind_eq_bind, Option.bind_eq_some_iff] at h
  obtain ⟨⟨_, tail⟩, hw, h⟩ := h
  have hs := length_takeSign cs
  have hw := length_wholePart? hw
  have hf : ((fractionPart? tail).elim tail Prod.snd).length ≤ tail.length := by
    cases hf : fractionPart? tail with
    | none => simp
    | some found => exact length_fractionPart? hf
  simp only at h
  split at h
  · grind
  · simp only [Option.some.injEq, Prod.mk.injEq] at h
    rw [← h.2]
    cases he : exponentPart? ((fractionPart? tail).elim tail Prod.snd) with
    | none => simp only [Option.elim_none]; omega
    | some found =>
      have := length_exponentPart? he
      simp only [Option.elim_some]
      omega

private theorem length_wordFloat? {cs rest : List Char} {v : Value}
    (h : wordFloat? cs = some (v, rest)) : rest.length < cs.length := by
  have := length_takeSign cs
  unfold wordFloat? at h
  grind

private theorem length_number? {width low high n : Nat} {cs rest : List Char}
    (h : number? width low high cs = some (n, rest)) : rest.length = cs.length - width := by
  simp only [number?, Option.bind_eq_bind, Option.bind_eq_some_iff,
    Option.ite_none_right_eq_some, Option.some.injEq, Prod.mk.injEq] at h
  obtain ⟨_, _, _, _, rfl⟩ := h
  exact List.length_drop

private theorem length_char? {c : Char} {cs rest : List Char} (h : char? c cs = some rest) :
    rest.length < cs.length := by
  cases cs with
  | nil => simp [char?] at h
  | cons d cs => grind [char?]

private theorem length_clock? {cs rest : List Char} (h : clock? cs = some rest) :
    rest.length < cs.length := by
  simp only [clock?, Option.bind_eq_bind, Option.bind_eq_some_iff] at h
  obtain ⟨⟨_, _⟩, h₁, _, h₂, ⟨_, _⟩, h₃, h⟩ := h
  grind [length_number? h₁, length_char? h₂, length_number? h₃]

theorem length_time? {cs rest : List Char} (h : time? cs = some rest) :
    rest.length < cs.length := by
  simp only [time?, Option.bind_eq_bind, Option.bind_eq_some_iff] at h
  obtain ⟨_, h₁, _, h₂, ⟨_, tail⟩, h₃, h⟩ := h
  have := length_clock? h₁
  have := length_char? h₂
  have := length_number? h₃
  split at h
  · next more _ =>
    have := length_takeDigits asciiDigit? more
    grind
  · grind

theorem length_offset? {cs rest : List Char} (h : offset? cs = some rest) :
    rest.length < cs.length := by
  unfold offset? at h
  split at h
  · simp only [List.length_cons]
    split at h
    · simp_all
    · split at h
      · have := length_clock? h
        omega
      · simp at h
  · simp at h

private theorem length_date? {cs rest : List Char} {day : Nat × Nat × Nat}
    (h : date? cs = some (day, rest)) : rest.length < cs.length := by
  simp only [date?, Option.bind_eq_bind, Option.bind_eq_some_iff] at h
  obtain ⟨⟨_, _⟩, h₁, _, h₂, ⟨_, _⟩, h₃, _, h₄, ⟨_, _⟩, h₅, h⟩ := h
  grind [length_number? h₁, length_char? h₂, length_number? h₃, length_char? h₄, length_number? h₅]

private theorem length_afterDate (cs : List Char) : (afterDate cs).2.length ≤ cs.length := by
  unfold afterDate
  split
  · simp
  · next c more =>
    split
    · simp
    · next last h =>
      have : last.length < more.length := by
        split at h
        · exact length_time? h
        · simp at h
      split
      · simp only [List.length_cons]; omega
      · next tail ht =>
        have := length_offset? ht
        simp only [List.length_cons]
        omega

theorem length_moment? {cs rest : List Char} {v : Except Fault Value}
    (h : moment? cs = some (v, rest)) : rest.length < cs.length := by
  unfold moment? at h
  split at h
  · next hd =>
    have := length_date? hd
    grind [length_afterDate]
  · simp only [Option.map_eq_some_iff, Prod.mk.injEq] at h
    obtain ⟨_, ht, _, rfl⟩ := h
    exact length_time? ht

/-- The value at the start of a text that is neither quoted nor in brackets. -/
def scalar? (cs : List Char) : Option (Except Fault Value × List Char) :=
  match cs with
  | 't' :: 'r' :: 'u' :: 'e' :: rest => some (.ok (.bool true), rest)
  | 'f' :: 'a' :: 'l' :: 's' :: 'e' :: rest => some (.ok (.bool false), rest)
  | _ =>
    moment? cs <|>
    ((basedInteger? cs).map fun (n, rest) => (.ok (.int n), rest)) <|>
    decimal? cs <|>
    ((wordFloat? cs).map fun (v, rest) => (.ok v, rest))

theorem length_scalar? {cs rest : List Char} {v : Except Fault Value}
    (h : scalar? cs = some (v, rest)) : rest.length < cs.length := by
  unfold scalar? at h
  split at h
  · grind
  · grind
  · simp only [Option.orElse_eq_orElse, Option.orElse_eq_or, Option.or_eq_some_iff,
      Option.map_eq_some_iff, Prod.mk.injEq] at h
    rcases h with h | ⟨_, h⟩
    · exact length_moment? h
    · rcases h with ⟨_, hb, _, rfl⟩ | ⟨_, h | ⟨_, ⟨_, hw, _, rfl⟩⟩⟩
      · exact length_basedInteger? hb
      · exact length_decimal? h
      · exact length_wordFloat? hw

end TaskAudit.Toml
