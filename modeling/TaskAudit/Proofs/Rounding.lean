import Mathlib.Algebra.Order.Field.Power
import Mathlib.Data.Rat.Floor
import Mathlib.Tactic.Linarith
import Mathlib.Tactic.Positivity
import Mathlib.Tactic.Ring
import TaskAudit.Number.Binary64

/-!
# What rounding does to sizes

A ratio is rounded to a multiple of a power of two that its size settles, so a greater ratio is
rounded to no smaller number, and beyond `2 ^ 1024` to an infinite one. Products and sums are
rounded ratios, which makes them monotone in their parts.
-/

namespace TaskAudit.Binary64

/-! ### Rounding to integers -/

/-- The nearest integer to a ratio, and the even one of two equally near. -/
structure IsNearest (n : ℤ) (q : ℚ) : Prop where
  lower : 2 * n - 1 ≤ 2 * q
  upper : 2 * q ≤ 2 * n + 1
  even : 2 * q = 2 * n - 1 ∨ 2 * q = 2 * n + 1 → n % 2 = 0

namespace IsNearest

variable {m n : ℤ} {q r : ℚ}

theorem intCast (n : ℤ) : IsNearest n n where
  lower := by linarith
  upper := by linarith
  even := by
    rintro (h | h)
    · linarith
    · linarith

theorem mono (hm : IsNearest m q) (hn : IsNearest n r) (h : q ≤ r) : m ≤ n := by
  by_contra hlt
  have hstep : (n : ℚ) + 1 ≤ m := by exact_mod_cast not_le.1 hlt
  -- Both ratios lie half way between two neighbours, of which just one is even.
  have hq : 2 * q = 2 * m - 1 := by linarith [hm.lower, hn.upper]
  have hr : 2 * r = 2 * n + 1 := by linarith [hm.lower, hn.upper]
  have hnext : (m : ℚ) = n + 1 := by linarith
  have hm' : m = n + 1 := by exact_mod_cast hnext
  have hm2 := hm.even (.inl hq)
  have hn2 := hn.even (.inr hr)
  omega

theorem below {part : ℚ} (hnonneg : 0 ≤ part) (hle : 2 * part ≤ 1)
    (htie : 2 * part = 1 → n % 2 = 0) : IsNearest n (n + part) where
  lower := by linarith
  upper := by linarith
  even := by
    rintro (h | h)
    · linarith
    · exact htie (by linarith)

theorem above {part : ℚ} (hle : 1 ≤ 2 * part) (hlt : part < 1)
    (htie : 2 * part = 1 → n % 2 = 1) : IsNearest (n + 1) (n + part) where
  lower := by push_cast; linarith
  upper := by push_cast; linarith
  even := by
    push_cast
    rintro (h | h)
    · have hodd := htie (by linarith)
      omega
    · linarith

end IsNearest

theorem roundDiv_cases (num den : Nat) :
    (roundDiv num den = num / den ∧ 2 * (num % den) ≤ den ∧
      (2 * (num % den) = den → num / den % 2 = 0)) ∨
    (roundDiv num den = num / den + 1 ∧ den ≤ 2 * (num % den) ∧
      (2 * (num % den) = den → num / den % 2 = 1)) := by
  simp only [roundDiv, Bool.or_eq_true, Bool.and_eq_true, decide_eq_true_eq, beq_iff_eq]
  split
  · exact .inr ⟨rfl, by omega, by omega⟩
  · exact .inl ⟨rfl, by omega, by omega⟩

theorem isNearest_roundDiv {num den : Nat} (hden : 0 < den) :
    IsNearest (roundDiv num den) (num / den) := by
  have hpos : (0 : ℚ) < den := by exact_mod_cast hden
  have hsum : (num / den : ℚ) = ((num / den : Nat) : ℤ) + (num % den : Nat) / (den : ℚ) := by
    rw [div_eq_iff hpos.ne', add_mul, div_mul_cancel₀ _ hpos.ne']
    rw [Int.cast_natCast, ← Nat.cast_mul, ← Nat.cast_add, Nat.div_add_mod']
  have htwice : 2 * ((num % den : Nat) / (den : ℚ)) = (2 * (num % den) : Nat) / (den : ℚ) := by
    push_cast
    ring
  have hlt : ((num % den : Nat) / (den : ℚ)) < 1 := by
    rw [div_lt_one hpos]
    exact_mod_cast Nat.mod_lt num hden
  have htie : 2 * ((num % den : Nat) / (den : ℚ)) = 1 → 2 * (num % den) = den := by
    rw [htwice, div_eq_one_iff_eq hpos.ne']
    exact_mod_cast id
  rw [hsum]
  rcases roundDiv_cases num den with ⟨hround, hle, hparity⟩ | ⟨hround, hle, hparity⟩
  · rw [hround]
    refine .below (by positivity) ?_ fun h => ?_
    · rw [htwice, div_le_one hpos]
      exact_mod_cast hle
    · exact_mod_cast hparity (htie h)
  · rw [hround, Nat.cast_succ]
    refine .above ?_ hlt fun h => ?_
    · rw [htwice, one_le_div hpos]
      exact_mod_cast hle
    · exact_mod_cast hparity (htie h)

/-! ### Powers of two -/

theorem two_zpow_pos (e : ℤ) : (0 : ℚ) < 2 ^ e := by positivity

theorem two_zpow_add (e f : ℤ) : (2 : ℚ) ^ (e + f) = 2 ^ e * 2 ^ f :=
  zpow_add₀ two_ne_zero e f

theorem two_zpow_le {e f : ℤ} (h : e ≤ f) : (2 : ℚ) ^ e ≤ 2 ^ f :=
  zpow_le_zpow_right₀ one_le_two h

theorem scale_spec (num : Nat) {den : Nat} (hden : 0 < den) (e : ℤ) :
    0 < (scale num den e).2 ∧
      ((scale num den e).1 / (scale num den e).2 : ℚ) = num / den / 2 ^ e := by
  unfold scale
  split
  · next he =>
    obtain ⟨k, rfl⟩ := Int.eq_ofNat_of_zero_le he
    refine ⟨Nat.mul_pos hden (Nat.pow_pos two_pos), ?_⟩
    simp [div_div]
  · next he =>
    obtain ⟨k, hk⟩ := Int.eq_ofNat_of_zero_le (by omega : 0 ≤ -e)
    obtain rfl : e = -k := by omega
    refine ⟨hden, ?_⟩
    simp [div_mul_eq_mul_div]

/-- The exponent of the last of 53 bits of a ratio, as far as exponents go. -/
structure IsExponent (e : ℤ) (q : ℚ) : Prop where
  least : minExponent ≤ e
  lower : e = minExponent ∨ 2 ^ (e + 52) ≤ q
  upper : q < 2 ^ (e + 53)

theorem log2_bounds {n : Nat} (hn : 0 < n) :
    (2 : ℚ) ^ (n.log2 : ℤ) ≤ n ∧ (n : ℚ) < 2 ^ ((n.log2 : ℤ) + 1) := by
  constructor
  · rw [zpow_natCast]
    exact_mod_cast Nat.log2_self_le hn.ne'
  · rw [← Nat.cast_succ, zpow_natCast]
    exact_mod_cast Nat.lt_log2_self

/-- The quotient of two numbers lies within one bit of what their lengths say. -/
theorem div_bounds {num den : Nat} (hnum : 0 < num) (hden : 0 < den) :
    (2 : ℚ) ^ ((num.log2 : ℤ) - den.log2 - 1) < num / den ∧
      (num / den : ℚ) < 2 ^ ((num.log2 : ℤ) - den.log2 + 1) := by
  obtain ⟨hnumLow, hnumHigh⟩ := log2_bounds hnum
  obtain ⟨hdenLow, hdenHigh⟩ := log2_bounds hden
  have hpos : (0 : ℚ) < den := by exact_mod_cast hden
  constructor
  · rw [lt_div_iff₀ hpos]
    calc (2 : ℚ) ^ ((num.log2 : ℤ) - den.log2 - 1) * den
        < 2 ^ ((num.log2 : ℤ) - den.log2 - 1) * 2 ^ ((den.log2 : ℤ) + 1) := by gcongr
      _ = 2 ^ (num.log2 : ℤ) := by
        rw [← two_zpow_add]
        congr 1
        ring
      _ ≤ num := hnumLow
  · rw [div_lt_iff₀ hpos]
    calc (num : ℚ) < 2 ^ ((num.log2 : ℤ) + 1) := hnumHigh
      _ = 2 ^ ((num.log2 : ℤ) - den.log2 + 1) * 2 ^ (den.log2 : ℤ) := by
        rw [← two_zpow_add]
        congr 1
        ring
      _ ≤ 2 ^ ((num.log2 : ℤ) - den.log2 + 1) * den := by gcongr

theorem scale_lt_iff {num den : Nat} (hden : 0 < den) (e : ℤ) :
    (scale num den e).1 / (scale num den e).2 < Nat.pow 2 52 ↔ (num / den : ℚ) < 2 ^ (e + 52) := by
  obtain ⟨hpos, hratio⟩ := scale_spec num hden e
  have hpos' : (0 : ℚ) < (scale num den e).2 := by exact_mod_cast hpos
  rw [Nat.div_lt_iff_lt_mul hpos, add_comm e, two_zpow_add, ← div_lt_iff₀ (two_zpow_pos e),
    ← hratio, div_lt_iff₀ hpos']
  exact_mod_cast Iff.rfl

theorem isExponent_max {e : ℤ} {q : ℚ} (hlow : 2 ^ (e + 52) ≤ q) (hhigh : q < 2 ^ (e + 53)) :
    IsExponent (max e minExponent) q where
  least := le_max_right _ _
  lower := by
    rcases le_total e minExponent with h | h
    · exact .inl (max_eq_right h)
    · exact .inr (by rwa [max_eq_left h])
  upper := hhigh.trans_le (two_zpow_le (by omega))

theorem isExponent_exponentFor {num den : Nat} (hnum : 0 < num) (hden : 0 < den) :
    IsExponent (exponentFor num den) (num / den) := by
  obtain ⟨hlow, hhigh⟩ := div_bounds hnum hden
  obtain ⟨guess, hguess⟩ : ∃ guess, guess = (num.log2 : ℤ) - den.log2 - 52 := ⟨_, rfl⟩
  have hexponent : exponentFor num den =
      max (if (scale num den guess).1 / (scale num den guess).2 < Nat.pow 2 52 then guess - 1
        else guess) minExponent := by
    rw [hguess]
    rfl
  rw [hexponent]
  split
  · next hlt =>
    rw [scale_lt_iff hden] at hlt
    refine isExponent_max ?_ ?_
    · rw [show guess - 1 + 52 = (num.log2 : ℤ) - den.log2 - 1 by omega]
      exact hlow.le
    · rwa [show guess - 1 + 53 = guess + 52 by omega]
  · next hle =>
    rw [scale_lt_iff hden, not_lt] at hle
    refine isExponent_max hle ?_
    rwa [show guess + 53 = (num.log2 : ℤ) - den.log2 + 1 by omega]

theorem IsExponent.mono {e f : ℤ} {q r : ℚ} (he : IsExponent e q) (hf : IsExponent f r)
    (h : q ≤ r) : e ≤ f := by
  by_contra hlt
  rcases he.lower with heq | hlower
  · have := hf.least
    omega
  · have hpow : (2 : ℚ) ^ (f + 53) ≤ 2 ^ (e + 52) := two_zpow_le (by omega)
    linarith [hf.upper]

/-! ### The size of a number -/

/-- What a number is worth, its sign aside; what is not finite is beyond all others. -/
def size : Binary64 → WithTop ℚ
  | nan => ⊤
  | infinite _ => ⊤
  | finite _ m e => ((m * 2 ^ e : ℚ) : WithTop ℚ)

/-- Sizes from that of the least infinite number on are one. -/
def capped (v : ℚ) : WithTop ℚ := if v < 2 ^ (1024 : ℤ) then (v : WithTop ℚ) else ⊤

theorem capped_mono {v w : ℚ} (h : v ≤ w) : capped v ≤ capped w := by
  unfold capped
  split
  · split
    · exact_mod_cast h
    · exact le_top
  · next hv =>
    rw [if_neg fun hw => hv (h.trans_lt hw)]

/-- A size is that of a ratio rounded to a multiple of a power of two. -/
structure IsRounded (e n : ℤ) (q : ℚ) : Prop where
  exponent : IsExponent e q
  nearest : IsNearest n (q / 2 ^ e)

namespace IsRounded

variable {e f m n : ℤ} {q r : ℚ}

theorem le (h : IsRounded e n q) : n ≤ 2 ^ 53 := by
  refine h.nearest.mono (.intCast _) ?_
  rw [div_le_iff₀ (two_zpow_pos e)]
  have hupper := h.exponent.upper
  rw [add_comm, two_zpow_add] at hupper
  exact_mod_cast hupper.le

theorem ge (h : IsRounded e n q) (hlower : 2 ^ (e + 52) ≤ q) : 2 ^ 52 ≤ n := by
  refine (IsNearest.intCast _).mono h.nearest ?_
  rw [le_div_iff₀ (two_zpow_pos e)]
  rw [add_comm, two_zpow_add] at hlower
  exact_mod_cast hlower

/-- Rounding is monotone. -/
theorem mono (hq : IsRounded e m q) (hr : IsRounded f n r) (h : q ≤ r) :
    (m * 2 ^ e : ℚ) ≤ n * 2 ^ f := by
  rcases (hq.exponent.mono hr.exponent h).eq_or_lt with rfl | hlt
  · have hmn : m ≤ n := hq.nearest.mono hr.nearest (by gcongr)
    gcongr
  · have hlower : 2 ^ (f + 52) ≤ r := by
      refine hr.exponent.lower.resolve_left fun heq => ?_
      have := hq.exponent.least
      omega
    calc (m * 2 ^ e : ℚ) ≤ 2 ^ 53 * 2 ^ e := by
          gcongr
          exact_mod_cast hq.le
      _ = 2 ^ (53 + e) := by rw [two_zpow_add]; rfl
      _ ≤ 2 ^ (52 + f) := two_zpow_le (by omega)
      _ = 2 ^ 52 * 2 ^ f := by rw [two_zpow_add]; rfl
      _ ≤ n * 2 ^ f := by
          gcongr
          exact_mod_cast hr.ge hlower

end IsRounded

/-- A significand of at most 53 bits overflows by its exponent alone. -/
theorem size_of_significand (s : Bool) {m : Nat} {e : ℤ} (hm : m < 2 ^ 53)
    (hlow : maxExponent < e → 2 ^ 52 ≤ m) :
    (if maxExponent < e then infinite s else finite s m e).size = capped (m * 2 ^ e) := by
  split
  · next he =>
    have hlarge : ¬ (m * 2 ^ e : ℚ) < 2 ^ (1024 : ℤ) := by
      rw [not_lt]
      calc (2 : ℚ) ^ (1024 : ℤ) ≤ 2 ^ (52 + e) :=
            two_zpow_le (by simp only [maxExponent] at he; omega)
        _ = 2 ^ 52 * 2 ^ e := by rw [two_zpow_add]; rfl
        _ ≤ m * 2 ^ e := by
            gcongr
            exact_mod_cast hlow he
    exact (if_neg hlarge).symm
  · next he =>
    have hsmall : (m * 2 ^ e : ℚ) < 2 ^ (1024 : ℤ) := by
      calc (m * 2 ^ e : ℚ) < 2 ^ 53 * 2 ^ e := by
            gcongr
            exact_mod_cast hm
        _ = 2 ^ (53 + e) := by rw [two_zpow_add]; rfl
        _ ≤ 2 ^ (1024 : ℤ) := two_zpow_le (by simp only [maxExponent] at he; omega)
    exact (if_pos hsmall).symm

theorem exists_isRounded (s : Bool) (num : Nat) {den : Nat} (hden : 0 < den) :
    ∃ e n, IsRounded e n (num / den) ∧ (ofRatio s num den).size = capped (n * 2 ^ e) := by
  rcases Nat.eq_zero_or_pos num with rfl | hnum
  · refine ⟨minExponent, 0, ⟨⟨le_rfl, .inl rfl, ?_⟩, ?_⟩, ?_⟩
    · simpa using two_zpow_pos _
    · simpa using IsNearest.intCast 0
    · simp [ofRatio, size, capped]
  obtain ⟨e, he⟩ : ∃ e, e = exponentFor num den := ⟨_, rfl⟩
  obtain ⟨k, hk⟩ : ∃ k, k = roundDiv (scale num den e).1 (scale num den e).2 := ⟨_, rfl⟩
  have hrounded : IsRounded e k (num / den) := by
    obtain ⟨hpos, hratio⟩ := scale_spec num hden e
    refine ⟨he ▸ isExponent_exponentFor hnum hden, ?_⟩
    rw [← hratio, hk]
    exact isNearest_roundDiv hpos
  have hle : k ≤ 2 ^ 53 := by exact_mod_cast hrounded.le
  have hof : ofRatio s num den =
      if maxExponent < (if k = 2 ^ 53 then (2 ^ 52, e + 1) else (k, e)).2 then infinite s
      else finite s (if k = 2 ^ 53 then (2 ^ 52, e + 1) else (k, e)).1
        (if k = 2 ^ 53 then (2 ^ 52, e + 1) else (k, e)).2 := by
    rw [hk, he, ofRatio, if_neg hnum.ne']
    rfl
  refine ⟨e, k, hrounded, ?_⟩
  by_cases htop : k = 2 ^ 53
  -- Rounding up to the next power of two takes the next exponent.
  · simp only [if_pos htop] at hof
    rw [hof, size_of_significand s (by decide) fun _ => le_rfl, htop]
    push_cast
    rw [two_zpow_add]
    ring_nf
  · simp only [if_neg htop] at hof
    rw [hof, size_of_significand s (by omega) fun hover => ?_, Int.cast_natCast]
    have hlower := hrounded.exponent.lower.resolve_left fun heq => by
      rw [heq] at hover
      exact absurd hover (by decide)
    exact_mod_cast hrounded.ge hlower

theorem size_ofRatio_mono {s t : Bool} {num den num' den' : Nat} (hden : 0 < den)
    (hden' : 0 < den') (h : (num / den : ℚ) ≤ num' / den') :
    (ofRatio s num den).size ≤ (ofRatio t num' den').size := by
  obtain ⟨e, m, hrounded, hsize⟩ := exists_isRounded s num hden
  obtain ⟨f, n, hrounded', hsize'⟩ := exists_isRounded t num' hden'
  rw [hsize, hsize']
  exact capped_mono (hrounded.mono hrounded' h)

theorem ofRatio_cases (s : Bool) (num den : Nat) :
    ofRatio s num den = infinite s ∨ ∃ m e, ofRatio s num den = finite s m e := by
  simp only [ofRatio]
  split
  · exact .inr ⟨_, _, rfl⟩
  · generalize (if _ = Nat.pow 2 precision then _ else _ : Nat × ℤ) = parts
    split
    · exact .inl rfl
    · exact .inr ⟨_, _, rfl⟩

/-! ### Products, sums and integers -/

theorem exists_ofScaled_eq (s : Bool) (m : Nat) (e : ℤ) : ∃ num den : Nat, 0 < den ∧
    (num / den : ℚ) = m * 2 ^ e ∧ ofScaled s m e = ofRatio s num den := by
  unfold ofScaled
  split
  · next he =>
    obtain ⟨k, rfl⟩ := Int.eq_ofNat_of_zero_le he
    exact ⟨m * Nat.pow 2 k, 1, one_pos, by simp, rfl⟩
  · next he =>
    obtain ⟨k, hk⟩ := Int.eq_ofNat_of_zero_le (by omega : 0 ≤ -e)
    obtain rfl : e = -k := by omega
    refine ⟨m, Nat.pow 2 k, Nat.pow_pos two_pos, ?_, by simp⟩
    simp [div_eq_mul_inv]

theorem size_ofScaled_mono {s t : Bool} {m n : Nat} {e f : ℤ} (h : (m * 2 ^ e : ℚ) ≤ n * 2 ^ f) :
    (ofScaled s m e).size ≤ (ofScaled t n f).size := by
  obtain ⟨num, den, hden, hratio, heq⟩ := exists_ofScaled_eq s m e
  obtain ⟨num', den', hden', hratio', heq'⟩ := exists_ofScaled_eq t n f
  rw [heq, heq']
  exact size_ofRatio_mono hden hden' (by rwa [hratio, hratio'])

theorem isNegative_ofRatio (s : Bool) (num den : Nat) : (ofRatio s num den).isNegative = s := by
  rcases ofRatio_cases s num den with h | ⟨m, e, h⟩
  · rw [h, isNegative]
  · rw [h, isNegative]

theorem isNegative_ofScaled (s : Bool) (m : Nat) (e : ℤ) : (ofScaled s m e).isNegative = s := by
  obtain ⟨num, den, -, -, heq⟩ := exists_ofScaled_eq s m e
  rw [heq, isNegative_ofRatio]

theorem size_ofInt_mono {m n : ℤ} (hm : 0 ≤ m) (h : m ≤ n) : (ofInt m).size ≤ (ofInt n).size := by
  refine size_ofRatio_mono one_pos one_pos ?_
  gcongr
  omega

theorem nat_mul_zpow (m : Nat) {e f : ℤ} (h : f ≤ e) :
    ((m * 2 ^ (e - f).toNat : Nat) * 2 ^ f : ℚ) = m * 2 ^ e := by
  obtain ⟨k, hk⟩ := Int.eq_ofNat_of_zero_le (by omega : 0 ≤ e - f)
  obtain rfl : e = k + f := by omega
  rw [hk, two_zpow_add]
  simp [mul_assoc]

theorem ofScaled_zero (s : Bool) (e : ℤ) : ofScaled s 0 e = finite s 0 minExponent := by
  simp [ofScaled, ofRatio]

/-- The sum of two numbers that are not negative is their exact sum, rounded. -/
theorem exists_add_eq (m n : Nat) (e f : ℤ) : ∃ (k : Nat) (g : ℤ),
    (k * 2 ^ g : ℚ) = m * 2 ^ e + n * 2 ^ f ∧
      (finite false m e).add (finite false n f) = ofScaled false k g := by
  obtain ⟨k, hk⟩ : ∃ k, k = m * 2 ^ (e - min e f).toNat + n * 2 ^ (f - min e f).toNat := ⟨_, rfl⟩
  have hunits : unitsAt (min e f) false m e + unitsAt (min e f) false n f = k := by
    rw [hk]
    rfl
  refine ⟨k, min e f, ?_, ?_⟩
  · rw [hk, Nat.cast_add, add_mul, nat_mul_zpow m (min_le_left e f),
      nat_mul_zpow n (min_le_right e f)]
  · simp only [add, hunits]
    rcases Nat.eq_zero_or_pos k with rfl | hpos
    · rw [ofScaled_zero]
      rfl
    · rw [if_neg (by omega), Int.natAbs_natCast, decide_eq_false (by omega)]

section Order

variable {x x' y y' : Binary64}

theorem exists_finite_of_size_ne_top (h : x.size ≠ ⊤) : ∃ s m e, x = finite s m e := by
  cases x with
  | nan => exact absurd rfl h
  | infinite s => exact absurd rfl h
  | finite s m e => exact ⟨s, m, e, rfl⟩

/-- A number of no greater size than a finite one is finite. -/
theorem exists_finite_of_size_le (hle : x.size ≤ x'.size) (hfinite : x'.size ≠ ⊤) :
    ∃ s m e s' m' e', x = finite s m e ∧ x' = finite s' m' e' ∧
      (m * 2 ^ e : ℚ) ≤ m' * 2 ^ e' := by
  obtain ⟨s, m, e, rfl⟩ := exists_finite_of_size_ne_top (ne_top_of_le_ne_top hfinite hle)
  obtain ⟨s', m', e', rfl⟩ := exists_finite_of_size_ne_top hfinite
  exact ⟨s, m, e, s', m', e', rfl, rfl, WithTop.coe_le_coe.1 hle⟩

theorem size_ite_eq_top {p : Prop} [Decidable p] (hx : x.size = ⊤) (hy : y.size = ⊤) :
    (if p then x else y).size = ⊤ := by
  split
  · exact hx
  · exact hy

theorem size_mul_eq_top (h : x.size = ⊤ ∨ y.size = ⊤) : (x.mul y).size = ⊤ := by
  cases x <;> cases y <;> try rfl
  case infinite.finite => exact size_ite_eq_top rfl rfl
  case finite.infinite => exact size_ite_eq_top rfl rfl
  case finite.finite => exact absurd h (not_or.2 ⟨WithTop.coe_ne_top, WithTop.coe_ne_top⟩)

theorem size_add_eq_top (h : x.size = ⊤ ∨ y.size = ⊤) : (x.add y).size = ⊤ := by
  cases x <;> cases y <;> try rfl
  case infinite.infinite => exact size_ite_eq_top rfl rfl
  case finite.finite => exact absurd h (not_or.2 ⟨WithTop.coe_ne_top, WithTop.coe_ne_top⟩)

theorem size_mul_mono (hx : x.size ≤ x'.size) (hy : y.size ≤ y'.size) :
    (x.mul y).size ≤ (x'.mul y').size := by
  by_cases htop : x'.size = ⊤ ∨ y'.size = ⊤
  · rw [size_mul_eq_top htop]
    exact le_top
  obtain ⟨hx', hy'⟩ := not_or.1 htop
  obtain ⟨s, m, e, s', m', e', rfl, rfl, hle⟩ := exists_finite_of_size_le hx hx'
  obtain ⟨t, n, f, t', n', f', rfl, rfl, hle'⟩ := exists_finite_of_size_le hy hy'
  refine size_ofScaled_mono ?_
  calc ((m * n : Nat) * 2 ^ (e + f) : ℚ) = m * 2 ^ e * (n * 2 ^ f) := by
        rw [two_zpow_add]
        push_cast
        ring
    _ ≤ m' * 2 ^ e' * (n' * 2 ^ f') := by gcongr
    _ = (m' * n' : Nat) * 2 ^ (e' + f') := by
        rw [two_zpow_add]
        push_cast
        ring

theorem size_add_mono (hnx : x.isNegative = false) (hny : y.isNegative = false)
    (hnx' : x'.isNegative = false) (hny' : y'.isNegative = false)
    (hx : x.size ≤ x'.size) (hy : y.size ≤ y'.size) : (x.add y).size ≤ (x'.add y').size := by
  by_cases htop : x'.size = ⊤ ∨ y'.size = ⊤
  · rw [size_add_eq_top htop]
    exact le_top
  obtain ⟨hx', hy'⟩ := not_or.1 htop
  obtain ⟨s, m, e, s', m', e', rfl, rfl, hle⟩ := exists_finite_of_size_le hx hx'
  obtain ⟨t, n, f, t', n', f', rfl, rfl, hle'⟩ := exists_finite_of_size_le hy hy'
  simp only [isNegative] at hnx hny hnx' hny'
  subst hnx hny hnx' hny'
  obtain ⟨k, g, hsum, hadd⟩ := exists_add_eq m n e f
  obtain ⟨k', g', hsum', hadd'⟩ := exists_add_eq m' n' e' f'
  rw [hadd, hadd']
  refine size_ofScaled_mono ?_
  rw [hsum, hsum']
  exact add_le_add hle hle'

theorem isNegative_ite {p : Prop} [Decidable p] (hx : x.isNegative = false)
    (hy : y.isNegative = false) : (if p then x else y).isNegative = false := by
  split
  · exact hx
  · exact hy

theorem isNegative_mul (hx : x.isNegative = false) (hy : y.isNegative = false) :
    (x.mul y).isNegative = false := by
  cases x <;> cases y <;> simp only [isNegative] at hx hy <;> subst_vars <;> try rfl
  case infinite.finite => exact isNegative_ite rfl rfl
  case finite.infinite => exact isNegative_ite rfl rfl
  case finite.finite => exact isNegative_ofScaled _ _ _

theorem isNegative_add (hx : x.isNegative = false) (hy : y.isNegative = false) :
    (x.add y).isNegative = false := by
  cases x <;> cases y <;> simp only [isNegative] at hx hy <;> subst_vars <;> try rfl
  case finite.finite m e n f =>
    obtain ⟨k, g, -, hadd⟩ := exists_add_eq m n e f
    rw [hadd, isNegative_ofScaled]

/-! ### The order and the floor -/

/-- The ratio that a finite number is. -/
def ratio (s : Bool) (m : Nat) (e : ℤ) : ℚ := if s then -(m * 2 ^ e) else m * 2 ^ e

theorem unitsAt_mul (s : Bool) (m : Nat) {e f : ℤ} (h : f ≤ e) :
    (unitsAt f s m e * 2 ^ f : ℚ) = ratio s m e := by
  have hunits := nat_mul_zpow m h
  cases s with
  | false => exact hunits
  | true =>
      rw [ratio, if_pos rfl, ← hunits, ← neg_mul]
      simp [unitsAt]

theorem finite_lt_iff {s t : Bool} {m n : Nat} {e f : ℤ} :
    (finite s m e).lt (finite t n f) = true ↔ ratio s m e < ratio t n f := by
  rw [← unitsAt_mul s m (min_le_left e f), ← unitsAt_mul t n (min_le_right e f),
    mul_lt_mul_iff_of_pos_right (two_zpow_pos _), Int.cast_lt]
  simp [lt]

/-- What is not above a number is not above a greater one. -/
theorem not_lt_of_size_le {z : Binary64} (hx : x.isNegative = false)
    (hy : y.isNegative = false) (hsize : x.size ≤ y.size) (h : x.lt z = false) :
    y.lt z = false := by
  cases y with
  | nan => rfl
  | infinite t =>
      obtain rfl : t = false := hy
      cases z <;> rfl
  | finite t n f =>
      have hfinite : (finite t n f).size ≠ ⊤ := WithTop.coe_ne_top
      obtain ⟨s, m, e, rfl⟩ := exists_finite_of_size_ne_top (ne_top_of_le_ne_top hfinite hsize)
      obtain rfl : s = false := hx
      obtain rfl : t = false := hy
      cases z with
      | nan => rfl
      | infinite u => exact h
      | finite u k g =>
          rw [← Bool.not_eq_true, finite_lt_iff, not_lt] at h ⊢
          exact h.trans (WithTop.coe_le_coe.1 hsize)

end Order

theorem floor?_finite (m : Nat) (e : ℤ) : (finite false m e).floor? = some ⌊(m * 2 ^ e : ℚ)⌋ := by
  rcases le_or_gt 0 e with he | he
  · obtain ⟨k, rfl⟩ := Int.eq_ofNat_of_zero_le he
    have hwhole : (m * 2 ^ (k : ℤ) : ℚ) = ((m * 2 ^ k : ℤ) : ℚ) := by
      push_cast
      rw [zpow_natCast]
    rw [hwhole, Int.floor_intCast]
    simp [floor?]
  · obtain ⟨k, hk⟩ := Int.eq_ofNat_of_zero_le (by omega : 0 ≤ -e)
    obtain rfl : e = -k := by omega
    have hquotient : (m * 2 ^ (-k : ℤ) : ℚ) = (m : ℤ) / (2 ^ k : Nat) := by
      push_cast
      rw [zpow_neg, zpow_natCast, div_eq_mul_inv]
    rw [hquotient, Rat.floor_intCast_div_natCast]
    simp only [floor?, if_neg (not_le.2 he), Bool.false_eq_true, if_false, hk, Int.toNat_natCast]
    rfl

end TaskAudit.Binary64
