import Mathlib
import Trainer.Binary64

/-!
# How near rounded numbers are

`roundDiv` gives the nearest integer, and of two equally near ones the even one (`Nearest`,
`nearest_roundDiv`).  Whatever rounds in this way keeps the order of what it rounds
(`Nearest.mono`).

A double made from a quotient is that number rounded once (`Binary64.Rounds`,
`Binary64.rounds_ofRatio`): its exponent is chosen such that the mantissa has all of its 53 bits, and
the mantissa is the nearest integer.  So it differs from the number by at most one part in `2 ^ 53`
(`Binary64.Rounds.abs_sub_le`).
-/

namespace Trainer

/-! ## The nearest integer -/

/-- The integer nearest to a number; of two equally near ones it is the even one. -/
structure Nearest (q : ℚ) (n : Nat) : Prop where
  near : |q - n| ≤ 1 / 2
  tie : |q - n| = 1 / 2 → Even n

/-- The greater number has the greater nearest integer. -/
theorem Nearest.mono {q q' : ℚ} {n n' : Nat} (h : Nearest q n) (h' : Nearest q' n')
    (hle : q ≤ q') : n ≤ n' := by
  by_contra hlt
  have hstep : (n' : ℚ) + 1 ≤ n := by exact_mod_cast Nat.lt_of_not_le hlt
  obtain ⟨hlow, -⟩ := abs_le.1 h.near
  obtain ⟨-, hhigh⟩ := abs_le.1 h'.near
  -- Both numbers are halfway between the two integers, which then cannot both be even.
  have hq : q - n = -(1 / 2) := by linarith
  have hq' : q' - n' = 1 / 2 := by linarith
  have hnext : n = n' + 1 := by
    have hcast : (n : ℚ) = n' + 1 := by linarith
    exact_mod_cast hcast
  have heven : Even n := h.tie (by rw [hq]; norm_num)
  have heven' : Even n' := h'.tie (by rw [hq']; norm_num)
  rw [hnext] at heven
  exact Nat.not_even_iff_odd.2 heven'.add_one heven

section RoundedQuotient

variable {num den : Nat}

/-- Half-way between two integers, the even one is taken. -/
theorem even_roundDiv (h : 2 * (num % den) = den) : Even (roundDiv num den) := by
  unfold roundDiv
  dsimp only
  rw [if_neg (by omega), if_pos h]
  split
  case isTrue heven => exact Nat.even_iff.2 heven
  case isFalse hodd => exact (Nat.odd_iff.2 (Nat.mod_two_ne_zero.1 hodd)).add_one

/-- The rounded quotient is the integer nearest to the exact one. -/
theorem nearest_roundDiv (num : Nat) (h : 0 < den) :
    Nearest ((num : ℚ) / den) (roundDiv num den) := by
  have hden : (0 : ℚ) < den := by exact_mod_cast h
  have hlow : 2 * ((den : ℚ) * roundDiv num den) ≤ 2 * num + den := by
    exact_mod_cast two_mul_roundDiv_le num den
  have hhigh : 2 * (num : ℚ) ≤ 2 * (den * roundDiv num den) + den := by
    exact_mod_cast two_mul_le_roundDiv num h
  -- The distance, in units of half the denominator.
  have hgap : (num : ℚ) / den - roundDiv num den =
      (2 * num - 2 * (den * roundDiv num den)) / (2 * den) := by
    field_simp
  constructor
  case near =>
    rw [hgap, abs_le]
    constructor
    · rw [le_div_iff₀ (by positivity)]
      linarith
    · rw [div_le_iff₀ (by positivity)]
      linarith
  case tie =>
    intro htie
    apply even_roundDiv
    have hdiv : den * (num / den) + num % den = num := Nat.div_add_mod num den
    have hmod : num % den < den := Nat.mod_lt num h
    have hhalf : 2 * num = 2 * (den * roundDiv num den) + den ∨
        2 * num + den = 2 * (den * roundDiv num den) := by
      rw [hgap] at htie
      rcases (abs_eq (by norm_num)).1 htie with hup | hdown
      · rw [div_eq_iff (by positivity)] at hup
        have hcast : 2 * (num : ℚ) = 2 * (den * roundDiv num den) + den := by linarith
        exact .inl (by exact_mod_cast hcast)
      · rw [div_eq_iff (by positivity)] at hdown
        have hcast : 2 * (num : ℚ) + den = 2 * (den * roundDiv num den) := by linarith
        exact .inr (by exact_mod_cast hcast)
    rcases roundDiv_eq_or num den with hround | hround
    · rw [hround] at hhalf
      omega
    · rw [hround, Nat.mul_add] at hhalf
      omega

end RoundedQuotient

namespace Binary64

/-! ## What a double stands for -/

/-- The number that a double is. -/
def value (x : Binary64) : ℚ :=
  (x.num : ℚ) / x.den

theorem den_pos (x : Binary64) : 0 < x.den :=
  twoTo_pos _

theorem cast_twoTo (n : Nat) : (twoTo n : ℚ) = 2 ^ n := by
  rw [twoTo, Nat.pow_eq]
  push_cast
  rfl

/-- A power of two as a quotient of two that have natural exponents. -/
theorem zpow_eq_twoTo_div (e : Int) :
    (2 : ℚ) ^ e = (twoTo e.toNat : ℚ) / twoTo (-e).toNat := by
  rw [cast_twoTo, cast_twoTo]
  rcases Int.eq_nat_or_neg e with ⟨n, rfl | rfl⟩
  · simp
  · simp

theorem value_eq (x : Binary64) : x.value = x.mantissa * 2 ^ x.exponent := by
  rw [value, num, den, zpow_eq_twoTo_div, Nat.cast_mul, mul_div_assoc]

theorem value_normal (m : Nat) (e : Int) : (normal m e).value = m * 2 ^ e := by
  unfold normal
  split
  case isTrue h =>
    have hcarry : (2 : ℚ) ^ (e + 1) = 2 ^ e * 2 := zpow_add_one₀ (by norm_num) e
    rw [value_eq, h, hcarry, cast_twoTo, cast_twoTo]
    ring
  case isFalse => exact value_eq _

/-! ## Rounding to a double -/

variable {num den : Nat}

/-- The mantissa is the integer nearest to the scaled quotient. -/
theorem nearest_scaled (num : Nat) (hden : 0 < den) (e : Int) :
    Nearest ((num : ℚ) / den / 2 ^ e) (scaled num den e) := by
  have h := nearest_roundDiv (num * twoTo (-e).toNat) (Nat.mul_pos hden (twoTo_pos e.toNat))
  have hquot : ((num * twoTo (-e).toNat : Nat) : ℚ) / (den * twoTo e.toNat : Nat) =
      (num : ℚ) / den / 2 ^ e := by
    rw [zpow_eq_twoTo_div, Nat.cast_mul, Nat.cast_mul, div_div_eq_mul_div, div_mul_eq_mul_div,
      div_div]
  rwa [hquot] at h

/--
A double is a number rounded once: by the exponent for which the number has 53 bits in front of the
point, its mantissa is the nearest integer.
-/
inductive Rounds (q : ℚ) (x : Binary64) : Prop where
  | zero : q = 0 → x.value = 0 → Rounds q x
  | pos {e : Int} {m : Nat} : 2 ^ 52 ≤ q / 2 ^ e → q / 2 ^ e < 2 ^ 53 → Nearest (q / 2 ^ e) m →
      x.value = m * 2 ^ e → Rounds q x

/-- With 53 bits half a unit of the mantissa is a small part of the number. -/
theorem Rounds.abs_sub_le {q : ℚ} {x : Binary64} (h : Rounds q x) :
    |x.value - q| ≤ q / 2 ^ 53 := by
  cases h with
  | zero hq hx => simp [hq, hx]
  | @pos e m hfull _ hnearest hx =>
      have hpow : (0 : ℚ) < 2 ^ e := zpow_pos (by norm_num) e
      have hunit : (2 : ℚ) ^ 52 * 2 ^ e ≤ q := (le_div_iff₀ hpow).1 hfull
      have hmul : q = q / 2 ^ e * 2 ^ e := (div_mul_cancel₀ q hpow.ne').symm
      calc |x.value - q| = |q / 2 ^ e * 2 ^ e - m * 2 ^ e| := by
            rw [hx, abs_sub_comm, ← hmul]
        _ = |q / 2 ^ e - m| * 2 ^ e := by
            rw [← sub_mul, abs_mul, abs_of_pos hpow]
        _ ≤ 1 / 2 * 2 ^ e := mul_le_mul_of_nonneg_right hnearest.near hpow.le
        _ ≤ q / 2 ^ 53 := by
            rw [le_div_iff₀ (by norm_num)]
            linarith

/-- The exponent that is tried first is right or one too large. -/
theorem quotient_bounds (hnum : num ≠ 0) (hden : 0 < den) :
    (2 : ℚ) ^ 51 ≤ (num : ℚ) / den / 2 ^ ((num.log2 : Int) - (den.log2 : Int) - 52) ∧
      (num : ℚ) / den / 2 ^ ((num.log2 : Int) - (den.log2 : Int) - 52) < 2 ^ 53 := by
  have hpos : (0 : ℚ) < den := by exact_mod_cast hden
  have hpow : (0 : ℚ) < 2 ^ ((num.log2 : Int) - (den.log2 : Int) - 52) :=
    zpow_pos (by norm_num) _
  have hnum' : (2 : ℚ) ^ num.log2 ≤ num ∧ (num : ℚ) < 2 ^ (num.log2 + 1) :=
    ⟨by exact_mod_cast Nat.log2_self_le hnum, by exact_mod_cast Nat.lt_log2_self⟩
  have hden' : (2 : ℚ) ^ den.log2 ≤ den ∧ (den : ℚ) < 2 ^ (den.log2 + 1) :=
    ⟨by exact_mod_cast Nat.log2_self_le hden.ne', by exact_mod_cast Nat.lt_log2_self⟩
  -- Both bounds are quotients of powers of two.
  have hshift (k a b : Nat) (h : (k : Int) + ((num.log2 : Int) - (den.log2 : Int) - 52) = a - b) :
      (2 : ℚ) ^ k * 2 ^ ((num.log2 : Int) - (den.log2 : Int) - 52) = 2 ^ a / 2 ^ b := by
    rw [← zpow_natCast, ← zpow_add₀ (by norm_num), h, zpow_sub₀ (by norm_num), zpow_natCast,
      zpow_natCast]
  constructor
  · rw [le_div_iff₀ hpow, hshift 51 num.log2 (den.log2 + 1) (by push_cast; ring)]
    exact div_le_div₀ (Nat.cast_nonneg _) hnum'.1 hpos hden'.2.le
  · rw [div_lt_iff₀ hpow, hshift 53 (num.log2 + 1) den.log2 (by push_cast; ring)]
    exact div_lt_div₀ hnum'.2 hden'.1 (by positivity) (by positivity)

/-- The comparison that chooses the exponent, as one of rational numbers. -/
theorem scaled_lt_iff (num : Nat) (hden : 0 < den) (e : Int) :
    num * twoTo (-e).toNat < twoTo 52 * (den * twoTo e.toNat) ↔
      (num : ℚ) / den / 2 ^ e < 2 ^ 52 := by
  have hpos : (0 : ℚ) < den := by exact_mod_cast hden
  have hone : (0 : ℚ) < twoTo e.toNat := by exact_mod_cast twoTo_pos _
  have htwo : (0 : ℚ) < twoTo (-e).toNat := by exact_mod_cast twoTo_pos _
  rw [zpow_eq_twoTo_div, div_div_eq_mul_div, div_mul_eq_mul_div, div_div,
    div_lt_iff₀ (by positivity), ← cast_twoTo]
  norm_cast

/-- The double made from a quotient is the quotient rounded once. -/
theorem rounds_ofRatio (num : Nat) (hden : 0 < den) :
    Rounds ((num : ℚ) / den) (ofRatio num den) := by
  unfold ofRatio
  split
  case isTrue h => exact .zero (by simp [h]) (by simp [value_eq])
  case isFalse h =>
    obtain ⟨hlow, hhigh⟩ := quotient_bounds h hden
    generalize (num.log2 : Int) - (den.log2 : Int) - 52 = e at hlow hhigh
    have hround (e : Int) (hfull : 2 ^ 52 ≤ (num : ℚ) / den / 2 ^ e)
        (hbelow : (num : ℚ) / den / 2 ^ e < 2 ^ 53) :
        Rounds ((num : ℚ) / den) (normal (scaled num den e) e) :=
      .pos hfull hbelow (nearest_scaled num hden e) (value_normal _ _)
    dsimp only
    split
    case isTrue hless =>
      -- Half the unit makes the quotient twice as large.
      have htwice : (num : ℚ) / den / 2 ^ (e - 1) = (num : ℚ) / den / 2 ^ e * 2 := by
        rw [zpow_sub_one₀ (by norm_num), ← div_eq_mul_inv, div_div_eq_mul_div, mul_div_right_comm]
      have hsmall := (scaled_lt_iff num hden e).1 hless
      apply hround
      · rw [htwice]
        linarith
      · rw [htwice]
        linarith
    case isFalse hmore => exact hround e (not_lt.1 ((scaled_lt_iff num hden e).not.1 hmore)) hhigh

/-- The sum of two doubles is rounded once. -/
theorem rounds_add (x y : Binary64) : Rounds (x.value + y.value) (x.add y) := by
  have hx : (x.den : ℚ) ≠ 0 := by exact_mod_cast x.den_pos.ne'
  have hy : (y.den : ℚ) ≠ 0 := by exact_mod_cast y.den_pos.ne'
  have hsum : x.value + y.value =
      ((x.num * y.den + y.num * x.den : Nat) : ℚ) / (x.den * y.den : Nat) := by
    rw [value, value, div_add_div _ _ hx hy]
    push_cast
    ring
  rw [hsum]
  exact rounds_ofRatio _ (Nat.mul_pos x.den_pos y.den_pos)

/-- The number that is shown with one place, in tenths. -/
theorem nearest_tenths (x : Binary64) :
    Nearest (10 * x.value) (roundDiv (x.num * tenTo 1) x.den) := by
  have h := nearest_roundDiv (x.num * tenTo 1) x.den_pos
  have hten : ((x.num * tenTo 1 : Nat) : ℚ) / x.den = 10 * x.value := by
    rw [value, Nat.cast_mul, show tenTo 1 = 10 from rfl]
    push_cast
    ring
  rwa [hten] at h

end Binary64
end Trainer
