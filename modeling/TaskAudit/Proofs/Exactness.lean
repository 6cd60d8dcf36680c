import TaskAudit.Number.Quantity
import TaskAudit.Proofs.Rounding

/-!
# Numbers that need no rounding

A ratio with at most 53 significant bits is the nearest number to itself, so a product or a sum that
is such a ratio is exact. Integers up to `2 ^ 53` are such ratios: they are read, compared and
written as what they are.
-/

namespace TaskAudit.Binary64

/-- A ratio of at most 53 significant bits within the range of finite numbers. -/
structure Fits (q : ℚ) : Prop where
  exists_bits : ∃ (m : ℕ) (e : ℤ), m < 2 ^ 53 ∧ minExponent ≤ e ∧ q = m * 2 ^ e
  lt : q < 2 ^ (1024 : ℤ)

/-- A number is worth a ratio that is not negative. -/
def IsWorth (x : Binary64) (q : ℚ) : Prop := ∃ (m : ℕ) (e : ℤ), x = finite false m e ∧ m * 2 ^ e = q

variable {x y : Binary64} {q r : ℚ} {n : ℕ}

/-! ### Ratios that fit -/

theorem Fits.of_bits {m : ℕ} {e : ℤ} (hm : m < 2 ^ 53) (hlow : minExponent ≤ e) (hhigh : e ≤ 971) :
    Fits (m * 2 ^ e) where
  exists_bits := ⟨m, e, hm, hlow, rfl⟩
  lt := by
    calc (m * 2 ^ e : ℚ) < 2 ^ 53 * 2 ^ e := by
          gcongr
          exact_mod_cast hm
      _ = 2 ^ (53 + e) := by rw [two_zpow_add]; rfl
      _ ≤ 2 ^ (1024 : ℤ) := two_zpow_le (by omega)

theorem fits_natCast (h : n ≤ 2 ^ 53) : Fits n := by
  rcases h.eq_or_lt with rfl | hlt
  · have htop : ((2 ^ 53 : ℕ) : ℚ) = (2 ^ 52 : ℕ) * 2 ^ (1 : ℤ) := by norm_num
    rw [htop]
    exact .of_bits (by decide) (by decide) (by decide)
  · have hwhole : (n : ℚ) = n * 2 ^ (0 : ℤ) := by simp
    rw [hwhole]
    exact .of_bits hlt (by decide) (by decide)

theorem fits_natCast_div_two (h : n < 2 ^ 53) : Fits (n / 2) := by
  have hhalf : (n / 2 : ℚ) = n * 2 ^ (-1 : ℤ) := by
    rw [zpow_neg_one, div_eq_mul_inv]
  rw [hhalf]
  exact .of_bits h (by decide) (by decide)

/-! ### Rounding what fits -/

theorem IsNearest.unique {m n : ℤ} (hm : IsNearest m q) (hn : IsNearest n q) : m = n :=
  le_antisymm (hm.mono hn le_rfl) (hn.mono hm le_rfl)

theorem IsRounded.eq_of_fits {e n : ℤ} (h : IsRounded e n q) (hfits : Fits q) : n * 2 ^ e = q := by
  obtain ⟨m, f, hm, hf, rfl⟩ := hfits.exists_bits
  -- The exponent of the last of 53 bits is at most that of the last bit there is.
  have hle : e ≤ f := by
    rcases h.exponent.lower with rfl | hlower
    · exact hf
    · have hlt : (2 : ℚ) ^ (e + 52) < 2 ^ (53 + f) := by
        calc (2 : ℚ) ^ (e + 52) ≤ m * 2 ^ f := hlower
          _ < 2 ^ 53 * 2 ^ f := by
              gcongr
              exact_mod_cast hm
          _ = 2 ^ (53 + f) := by rw [two_zpow_add]; rfl
      have := (zpow_lt_zpow_iff_right₀ one_lt_two).1 hlt
      omega
  have hwhole : (m * 2 ^ f / 2 ^ e : ℚ) = ((m * 2 ^ (f - e).toNat : ℕ) : ℤ) := by
    rw [div_eq_iff (two_zpow_pos e).ne', Int.cast_natCast, nat_mul_zpow m hle]
  have hnearest := h.nearest
  rw [hwhole] at hnearest
  rw [hnearest.unique (.intCast _), Int.cast_natCast, nat_mul_zpow m hle]

theorem isWorth_of_size (hsign : x.isNegative = false) (hsize : x.size = q) : x.IsWorth q := by
  obtain ⟨s, m, e, rfl⟩ := exists_finite_of_size_ne_top (by rw [hsize]; exact WithTop.coe_ne_top)
  obtain rfl : s = false := hsign
  exact ⟨m, e, rfl, WithTop.coe_injective hsize⟩

theorem isWorth_ofRatio {num den : ℕ} (hden : 0 < den) (h : Fits (num / den)) :
    (ofRatio false num den).IsWorth (num / den) := by
  obtain ⟨e, n, hrounded, hsize⟩ := exists_isRounded false num hden
  rw [hrounded.eq_of_fits h, capped, if_pos h.lt] at hsize
  exact isWorth_of_size (isNegative_ofRatio _ _ _) hsize

theorem isWorth_ofScaled {m : ℕ} {e : ℤ} (h : Fits (m * 2 ^ e)) :
    (ofScaled false m e).IsWorth (m * 2 ^ e) := by
  obtain ⟨num, den, hden, hratio, heq⟩ := exists_ofScaled_eq false m e
  rw [← hratio] at h ⊢
  rw [heq]
  exact isWorth_ofRatio hden h

theorem IsWorth.mul (hx : x.IsWorth q) (hy : y.IsWorth r) (h : Fits (q * r)) :
    (x.mul y).IsWorth (q * r) := by
  obtain ⟨m, e, rfl, rfl⟩ := hx
  obtain ⟨n, f, rfl, rfl⟩ := hy
  have hproduct : (m * 2 ^ e * (n * 2 ^ f) : ℚ) = (m * n : ℕ) * 2 ^ (e + f) := by
    rw [two_zpow_add]
    push_cast
    ring
  rw [hproduct] at h ⊢
  exact isWorth_ofScaled h

theorem IsWorth.add (hx : x.IsWorth q) (hy : y.IsWorth r) (h : Fits (q + r)) :
    (x.add y).IsWorth (q + r) := by
  obtain ⟨m, e, rfl, rfl⟩ := hx
  obtain ⟨n, f, rfl, rfl⟩ := hy
  obtain ⟨k, g, hsum, hadd⟩ := exists_add_eq m n e f
  rw [← hsum] at h ⊢
  rw [hadd]
  exact isWorth_ofScaled h

/-! ### Reading, comparing and writing -/

theorem isWorth_zero (e : ℤ) : (finite false 0 e).IsWorth 0 := ⟨0, e, rfl, by simp⟩

theorem isWorth_ofInt (h : n ≤ 2 ^ 53) : (ofInt n).IsWorth n := by
  have hfits : Fits ((n : ℚ) / (1 : ℕ)) := by simpa using fits_natCast h
  have hworth := isWorth_ofRatio one_pos hfits
  rwa [Nat.cast_one, div_one] at hworth

/-- An integer in digits is read as what it is. -/
theorem isWorth_ofDecimal (h : n ≤ 2 ^ 53) : (ofDecimal false n 0).IsWorth n := by
  rcases Nat.eq_zero_or_pos n with rfl | hpos
  · rw [Nat.cast_zero]
    exact isWorth_zero minExponent
  have hlength : (Nat.toDigits 10 n).length ≤ 16 :=
    (Nat.length_toDigits_le_iff (by decide) (by decide)).2 (h.trans_lt (by decide))
  have hsign : decide ((n : ℤ) < 0) = false := decide_eq_false (by omega)
  have hread : ofDecimal false n 0 = ofInt n := by
    rw [ofDecimal, if_neg hpos.ne', if_neg (by omega), if_neg (by omega), if_pos le_rfl]
    simp [ofInt, hsign]
  rw [hread]
  exact isWorth_ofInt h

theorem IsWorth.lt_iff (hx : x.IsWorth q) (hy : y.IsWorth r) : x.lt y = true ↔ q < r := by
  obtain ⟨m, e, rfl, rfl⟩ := hx
  obtain ⟨n, f, rfl, rfl⟩ := hy
  exact finite_lt_iff

theorem IsWorth.integer?_eq (h : x.IsWorth n) : x.integer? = some (n : ℤ) := by
  obtain ⟨m, e, rfl, hn⟩ := h
  have hfloor : (finite false m e).floor? = some (n : ℤ) := by
    rw [floor?_finite, hn, Int.floor_natCast]
  have hdivides : 0 ≤ e ∨ m % Nat.pow 2 (-e).toNat = 0 := by
    rcases le_or_gt 0 e with he | he
    · exact .inl he
    · obtain ⟨k, hk⟩ := Int.eq_ofNat_of_zero_le (by omega : 0 ≤ -e)
      obtain rfl : e = -k := by omega
      rw [zpow_neg, zpow_natCast, ← div_eq_mul_inv, div_eq_iff (by positivity)] at hn
      have hmultiple : m = n * 2 ^ k := by exact_mod_cast hn
      refine .inr ?_
      rw [hk, hmultiple]
      exact Nat.mul_mod_left _ _
  simp only [integer?, hfloor, Bool.or_eq_true, decide_eq_true_eq, hdivides, if_true]

/-- A whole number is written without a point. -/
theorem IsWorth.ofNumber_eq (h : x.IsWorth n) : Quantity.ofNumber x = .whole n := by
  rw [Quantity.ofNumber, h.integer?_eq]

end TaskAudit.Binary64
