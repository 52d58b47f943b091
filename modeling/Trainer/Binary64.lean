import Trainer.Number
import Trainer.Text

/-!
# Binary floating point, exactly

A non-negative finite double is a natural mantissa times a power of two.  Every operation computes
the exact rational result and rounds it once to 53 bits, to nearest and with ties to even, so the
values shown to a learner can be reasoned about in the natural numbers.

* `roundDiv` is the rounded quotient, within half a unit of the exact one (`two_mul_roundDiv_le`);
* `Binary64.ofRatio` is the double nearest to a quotient;
* `Binary64.fixed` is the decimal text of the exact value with a set number of places.

Subnormal numbers and overflow are out of reach of what is computed here: counts and durations.
-/

namespace Trainer

/-! ## The rounded quotient -/

/-- The integer nearest to `num / den`; of two equally near ones the even one. -/
def roundDiv (num den : Nat) : Nat :=
  let q := num / den
  let r := num % den
  if 2 * r < den then q
  else if 2 * r = den then (if q % 2 = 0 then q else q + 1)
  else q + 1

/-- Rounding goes down, or up by one. -/
theorem roundDiv_eq_or (num den : Nat) :
    roundDiv num den = num / den ∨ roundDiv num den = num / den + 1 := by
  unfold roundDiv
  dsimp only
  split
  · exact Or.inl rfl
  · split
    · split
      · exact Or.inl rfl
      · exact Or.inr rfl
    · exact Or.inr rfl

/-- Twice the rounded quotient exceeds twice the exact one by at most one unit. -/
theorem two_mul_roundDiv_le (num den : Nat) :
    2 * (den * roundDiv num den) ≤ 2 * num + den := by
  have hdm : den * (num / den) + num % den = num := Nat.div_add_mod num den
  unfold roundDiv
  dsimp only
  split
  · omega
  · have hs : den * (num / den + 1) = den * (num / den) + den := Nat.mul_succ _ _
    split
    · split <;> omega
    · omega

/-- Twice the exact quotient exceeds twice the rounded one by at most one unit. -/
theorem two_mul_le_roundDiv (num : Nat) {den : Nat} (h : 0 < den) :
    2 * num ≤ 2 * (den * roundDiv num den) + den := by
  have hdm : den * (num / den) + num % den = num := Nat.div_add_mod num den
  have hlt : num % den < den := Nat.mod_lt _ h
  unfold roundDiv
  dsimp only
  split
  · omega
  · have hs : den * (num / den + 1) = den * (num / den) + den := Nat.mul_succ _ _
    split
    · split <;> omega
    · omega

/-! ## Doubles -/

/-- The number `mantissa * 2 ^ exponent`; a positive one has a mantissa from `2 ^ 52` on. -/
structure Binary64 where
  mantissa : Nat
  exponent : Int
deriving DecidableEq, Repr

namespace Binary64

def num (x : Binary64) : Nat :=
  x.mantissa * twoTo x.exponent.toNat

def den (x : Binary64) : Nat :=
  twoTo (-x.exponent).toNat

/-- The quotient `num / (den * 2 ^ e)` rounded to an integer. -/
def scaled (num den : Nat) (e : Int) : Nat :=
  roundDiv (num * twoTo (-e).toNat) (den * twoTo e.toNat)

/-- Keeps the mantissa below `2 ^ 53` when rounding has carried into the next power of two. -/
def normal (m : Nat) (e : Int) : Binary64 :=
  if m = twoTo 53 then ⟨twoTo 52, e + 1⟩ else ⟨m, e⟩

/-- The double nearest to `num / den`, ties to even. -/
def ofRatio (num den : Nat) : Binary64 :=
  if num = 0 then ⟨0, 0⟩
  else
    let e : Int := (num.log2 : Int) - (den.log2 : Int) - 52
    -- The logarithms alone may give an exponent that is one too large.
    let e := if num * twoTo (-e).toNat < twoTo 52 * (den * twoTo e.toNat) then e - 1 else e
    normal (scaled num den e) e

def ofNat (n : Nat) : Binary64 :=
  ofRatio n 1

/-- The sum, rounded once. -/
def add (x y : Binary64) : Binary64 :=
  ofRatio (x.num * y.den + y.num * x.den) (x.den * y.den)

def mul (x y : Binary64) : Binary64 :=
  ofRatio (x.num * y.num) (x.den * y.den)

/-- The quotient, rounded once; the divisor is positive. -/
def div (x y : Binary64) : Binary64 :=
  ofRatio (x.num * y.den) (x.den * y.num)

/-- The 64 bits of the interchange format. -/
def bits (x : Binary64) : Nat :=
  if x.mantissa = 0 then 0
  else (x.exponent + 1075).toNat * twoTo 52 + (x.mantissa - twoTo 52)

/-- The exact value in decimal with a set number of places, ties to even. -/
def fixed (places : Nat) (x : Binary64) : String :=
  let n := roundDiv (x.num * tenTo places) x.den
  if places = 0 then toString n
  else toString (n / tenTo places) ++ "." ++ Text.padZero places (n % tenTo places)

/-- The nearest integer, a half going up. -/
def roundHalfUp (x : Binary64) : Nat :=
  (2 * x.num + x.den) / (2 * x.den)

end Binary64
end Trainer
