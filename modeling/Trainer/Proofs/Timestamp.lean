import Mathlib
import Trainer.Timestamp

/-!
# Written times are read back

`Timestamp.parse?` reads what `Timestamp.render` writes, for every moment that the calendar has
(`Timestamp.parse?_render`).

## Padded numbers

* a padded number has digits only, and as many as it was padded to if these are enough
  (`Text.isDigit_of_mem_padZero`, `Text.length_padZero`);
* its digits denote the number (`Text.digitsValue_padZero`).
-/

namespace Trainer

theorem tenTo_eq (n : Nat) : tenTo n = 10 ^ n := rfl

namespace Chars

/-- The program reads digits as the library does. -/
theorem digitsValue_eq (ds : List Char) : digitsValue ds = Nat.ofDigitChars 10 ds 0 := by
  rw [Nat.ofDigitChars_eq_foldl]
  rfl

theorem isBlank_of_isDigit {c : Char} (h : c.isDigit = true) : isBlank c = false := by
  simp only [Char.isDigit, Bool.and_eq_true, decide_eq_true_eq, ge_iff_le, UInt32.le_iff_toNat_le]
    at h
  have hlow : 48 ≤ c.toNat := h.1
  have hhigh : c.toNat ≤ 57 := h.2
  simp only [isBlank, Bool.or_eq_false_iff, Bool.and_eq_false_iff, decide_eq_false_iff_not,
    beq_eq_false_iff_ne]
  omega

end Chars

namespace Text

theorem toList_toString (n : Nat) : (toString n).toList = Nat.toDigits 10 n := by
  rw [Nat.toString_eq_repr, Nat.toList_repr]

theorem toList_padZero (width n : Nat) : (padZero width n).toList =
    List.replicate (width - (Nat.toDigits 10 n).length) '0' ++ Nat.toDigits 10 n := by
  have hlength : (toString n).length = (Nat.toDigits 10 n).length := by
    rw [← toList_toString, String.length_toList]
  have hzeros (k : Nat) : (List.replicate k ['0']).flatten = List.replicate k '0' := by
    simp
  simp only [padZero, times, String.toList_append, String.toList_ofList, toList_toString, hlength]
  exact congrArg (· ++ Nat.toDigits 10 n) (hzeros _)

theorem isDigit_of_mem_padZero {width n : Nat} {c : Char} (h : c ∈ (padZero width n).toList) :
    c.isDigit = true := by
  rw [toList_padZero, List.mem_append] at h
  rcases h with h | h
  · rw [(List.mem_replicate.1 h).2]
    decide
  · exact Nat.isDigit_of_mem_toDigits (by decide) (by decide) h

theorem padZero_ne_nil (width n : Nat) : (padZero width n).toList ≠ [] := by
  rw [toList_padZero]
  exact List.append_ne_nil_of_right_ne_nil _ Nat.toDigits_ne_nil

/-- A number that fits is padded to the width. -/
theorem length_padZero {width n : Nat} (hwidth : 0 < width) (hn : n < 10 ^ width) :
    (padZero width n).toList.length = width := by
  have hle := (Nat.length_toDigits_le_iff (b := 10) (by decide) hwidth).2 hn
  rw [toList_padZero, List.length_append, List.length_replicate]
  omega

/-- Padding does not change the number that is read. -/
theorem digitsValue_padZero (width n : Nat) : Chars.digitsValue (padZero width n).toList = n := by
  rw [Chars.digitsValue_eq, toList_padZero, Nat.ofDigitChars_append,
    Nat.ofDigitChars_replicate_zero, Nat.mul_zero, Nat.ofDigitChars_ten_toDigits]

end Text
namespace Timestamp

/-! ## Numbers -/

variable {ds rest : List Char} {most : Nat}

/-- Digits are read up to the first character that is none. -/
theorem takeWhile_isDigit_append (hds : ∀ c ∈ ds, c.isDigit = true)
    (hrest : ∀ c ∈ rest.head?, c.isDigit = false) :
    (ds ++ rest).takeWhile Char.isDigit = ds := by
  have hstop : rest.takeWhile Char.isDigit = [] := by
    cases rest with
    | nil => rfl
    | cons c rest => simp [hrest c rfl]
  rw [List.takeWhile_append_of_pos hds, hstop, List.append_nil]

/-- A number of at most so many digits is read to its end. -/
theorem digits_append (hds : ∀ c ∈ ds, c.isDigit = true) (hne : ds ≠ []) (hlen : ds.length ≤ most)
    (hrest : ∀ c ∈ rest.head?, c.isDigit = false) :
    digits most (ds ++ rest) = some (Chars.digitsValue ds, rest) := by
  have hempty : ds.isEmpty = false := by simpa using hne
  simp [digits, takeWhile_isDigit_append hds hrest, List.take_of_length_le hlen, hempty]

theorem trimStart_append (hds : ∀ c ∈ ds, c.isDigit = true) (hne : ds ≠ []) (rest : List Char) :
    Chars.trimStart (ds ++ rest) = ds ++ rest := by
  obtain ⟨c, ds', rfl⟩ := List.exists_cons_of_ne_nil hne
  exact Chars.trimStart_cons_of_not_blank (Chars.isBlank_of_isDigit (hds c (by simp)))

/-- A number padded to as many digits as may be taken is read back. -/
theorem number_padZero {n : Nat} (hmost : 0 < most) (hn : n < 10 ^ most)
    (hrest : ∀ c ∈ rest.head?, c.isDigit = false) :
    number most ((Text.padZero most n).toList ++ rest) = some (n, rest) := by
  have hds : ∀ c ∈ (Text.padZero most n).toList, c.isDigit = true :=
    fun c hc => Text.isDigit_of_mem_padZero hc
  rw [number, trimStart_append hds (Text.padZero_ne_nil most n),
    digits_append hds (Text.padZero_ne_nil most n) (Text.length_padZero hmost hn).le hrest,
    Text.digitsValue_padZero]

theorem yearNumber_minus (cs : List Char) : yearNumber ('-' :: cs) =
    (digits cs.length cs).map fun x => (-(x.1 : Int), x.2) := by
  rw [yearNumber, Chars.trimStart_cons_of_not_blank (by decide)]
  rfl

theorem yearNumber_plus (cs : List Char) : yearNumber ('+' :: cs) =
    (digits cs.length cs).map fun x => ((x.1 : Int), x.2) := by
  rw [yearNumber, Chars.trimStart_cons_of_not_blank (by decide)]
  rfl

/-- Every written year is read back, signs included. -/
theorem yearNumber_renderYear (year : Int) (hrest : ∀ c ∈ rest.head?, c.isDigit = false) :
    yearNumber ((renderYear year).toList ++ rest) = some (year, rest) := by
  have hds (n : Nat) : ∀ c ∈ (Text.padZero 4 n).toList, c.isDigit = true :=
    fun c hc => Text.isDigit_of_mem_padZero hc
  have hsigned (n : Nat) : digits ((Text.padZero 4 n).toList ++ rest).length
      ((Text.padZero 4 n).toList ++ rest) = some (n, rest) := by
    rw [digits_append (hds n) (Text.padZero_ne_nil 4 n) (by simp) hrest,
      Text.digitsValue_padZero]
  unfold renderYear
  split
  -- A year of four digits has no sign, so its first character is a digit.
  case isTrue hrange =>
    have hlt : year.toNat < 10 ^ 4 := by omega
    have hnum : digits 4 ((Text.padZero 4 year.toNat).toList ++ rest) =
        some (year.toNat, rest) := by
      rw [digits_append (hds _) (Text.padZero_ne_nil 4 _)
        (Text.length_padZero (by decide) hlt).le hrest, Text.digitsValue_padZero]
    obtain ⟨c, ds, hcons⟩ := List.exists_cons_of_ne_nil (Text.padZero_ne_nil 4 year.toNat)
    have hc : c.isDigit = true := hds _ c (by rw [hcons]; simp)
    rw [yearNumber, trimStart_append (hds _) (Text.padZero_ne_nil 4 _)]
    split
    · rename_i heq
      rw [hcons] at heq
      rw [(List.cons.inj heq).1] at hc
      exact absurd hc (by decide)
    · rename_i heq
      rw [hcons] at heq
      rw [(List.cons.inj heq).1] at hc
      exact absurd hc (by decide)
    · rw [hnum]
      simp [Int.toNat_of_nonneg hrange.1]
  -- Behind a sign any number of digits is taken.
  case isFalse hrange =>
    rw [String.toList_append, List.append_assoc]
    split
    case isTrue hneg =>
      rw [show "-".toList = ['-'] from rfl, List.singleton_append, yearNumber_minus, hsigned,
        Option.map_some, Int.ofNat_natAbs_of_nonpos (by omega), Int.neg_neg]
    case isFalse hneg =>
      rw [show "+".toList = ['+'] from rfl, List.singleton_append, yearNumber_plus, hsigned,
        Option.map_some, Int.natAbs_of_nonneg (by omega)]

/-! ## Fractions -/

/-- What follows the seconds does not begin with a digit. -/
theorem head?_renderFraction (nano : Nat) (rest : List Char) :
    ∀ c ∈ ((renderFraction nano).toList ++ 'Z' :: rest).head?, c.isDigit = false := by
  have hpoint (digits : String) :
      ∀ c ∈ (("." ++ digits).toList ++ 'Z' :: rest).head?, c.isDigit = false := by
    intro c hc
    rw [String.toList_append] at hc
    cases hc
    rfl
  unfold renderFraction
  split
  · intro c hc
    cases hc
    rfl
  split
  · exact hpoint _
  split
  · exact hpoint _
  · exact hpoint _

/-- A fraction is read back in nanoseconds. -/
theorem fraction_padZero (width n : Nat) (hwidth : 0 < width) (hnine : width ≤ 9)
    (hn : n < 10 ^ width) (hrest : ∀ c ∈ rest.head?, c.isDigit = false) :
    fraction ('.' :: ((Text.padZero width n).toList ++ rest)) =
      some (n * 10 ^ (9 - width), rest) := by
  have hds : ∀ c ∈ (Text.padZero width n).toList, c.isDigit = true :=
    fun c hc => Text.isDigit_of_mem_padZero hc
  have hlen := Text.length_padZero hwidth hn
  have hempty : (Text.padZero width n).toList.isEmpty = false := by
    simpa using Text.padZero_ne_nil width n
  simp only [fraction, takeWhile_isDigit_append hds hrest, List.drop_left]
  rw [List.take_of_length_le (by omega), hempty, Text.digitsValue_padZero, hlen, tenTo_eq]
  rfl

/-- A fraction is read back, however many digits it was written with. -/
theorem fraction_renderFraction {nano : Nat} (hnano : nano < 1000000000) (rest : List Char) :
    fraction ((renderFraction nano).toList ++ 'Z' :: rest) = some (nano, 'Z' :: rest) := by
  have hrest : ∀ c ∈ ('Z' :: rest).head?, c.isDigit = false := by
    intro c hc
    cases hc
    rfl
  unfold renderFraction
  split
  · subst_vars
    rfl
  split
  · rename_i hmod
    have hfrac := fraction_padZero 3 (nano / 1000000) (by decide) (by decide)
      (by omega) hrest
    rw [String.toList_append]
    refine hfrac.trans ?_
    rw [show nano / 1000000 * 10 ^ (9 - 3) = nano by omega]
  split
  · rename_i hmod
    have hfrac := fraction_padZero 6 (nano / 1000) (by decide) (by decide)
      (by omega) hrest
    rw [String.toList_append]
    refine hfrac.trans ?_
    rw [show nano / 1000 * 10 ^ (9 - 6) = nano by omega]
  · have hfrac := fraction_padZero 9 nano (by decide) (by decide)
      (by omega) hrest
    rw [String.toList_append]
    refine hfrac.trans ?_
    rw [show nano * 10 ^ (9 - 9) = nano by omega]

/-! ## Moments -/

/-- What the program asks of a time, field by field. -/
theorem isValid_iff (t : Timestamp) : t.isValid = true ↔
    yearInRange t.year = true ∧ 1 ≤ t.day ∧ t.day ≤ monthLength t.year t.month ∧ t.hour ≤ 23 ∧
      t.minute ≤ 59 ∧ t.second ≤ 60 ∧ t.nano < 1000000000 := by
  simp [isValid, and_assoc]

theorem monthLength_le (year : Int) (month : Nat) : monthLength year month ≤ 31 := by
  unfold monthLength
  repeat' split
  all_goals omega

theorem month_le_of_monthLength_pos {year : Int} {month : Nat} (h : 0 < monthLength year month) :
    month ≤ 12 := by
  unfold monthLength at h
  repeat' split at h
  all_goals omega

/-- A time written in UTC is its own moment. -/
theorem toUtc_zero {t : Timestamp} (hhour : t.hour ≤ 23) (hminute : t.minute ≤ 59) :
    t.toUtc 0 = t := by
  have hclock : (((t.hour : Int) * 60 + t.minute - 0) % 1440).toNat = t.hour * 60 + t.minute := by
    omega
  have hhours : (t.hour * 60 + t.minute) / 60 = t.hour := by omega
  have hminutes : (t.hour * 60 + t.minute) % 60 = t.minute := by omega
  simp only [toUtc, hclock, hhours, hminutes]
  rw [if_neg (by omega), if_neg (by omega)]

theorem separator_cons (c : Char) (hc : Chars.isBlank c = false) (rest : List Char) :
    separator c (c :: rest) = some rest := by
  rw [separator, Chars.trimStart_cons_of_not_blank hc]
  exact if_pos rfl

theorem toList_renderSeconds (t : Timestamp) : t.renderSeconds.toList =
    (renderYear t.year).toList ++ '-' :: ((Text.padZero 2 t.month).toList ++
      '-' :: ((Text.padZero 2 t.day).toList ++ 'T' :: ((Text.padZero 2 t.hour).toList ++
        ':' :: ((Text.padZero 2 t.minute).toList ++
          ':' :: (Text.padZero 2 t.second).toList)))) := by
  simp [renderSeconds]

/-- A written time is read back. -/
theorem parse?_render {t : Timestamp} (h : t.isValid = true) : parse? t.render = some t := by
  obtain ⟨hyear, hday, hlast, hhour, hminute, hsecond, hnano⟩ := (isValid_iff t).1 h
  have hlength : 0 < monthLength t.year t.month := by omega
  have hmonth := month_le_of_monthLength_pos hlength
  have hdays := monthLength_le t.year t.month
  have hform : t.render.toList = (renderYear t.year).toList ++ '-' ::
      ((Text.padZero 2 t.month).toList ++ '-' :: ((Text.padZero 2 t.day).toList ++ 'T' ::
        ((Text.padZero 2 t.hour).toList ++ ':' :: ((Text.padZero 2 t.minute).toList ++ ':' ::
          ((Text.padZero 2 t.second).toList ++ ((renderFraction t.nano).toList ++ ['Z'])))))) := by
    simp [render, toList_renderSeconds]
  have hmark {c : Char} (hc : c.isDigit = false) (rest : List Char) :
      ∀ d ∈ (c :: rest).head?, d.isDigit = false := by
    intro d hd
    cases hd
    exact hc
  have htwo : 0 < 2 := by decide
  have hthen {α β : Type} {x : Option α} {a : α} (f : α → Option β) (hx : x = some a) :
      (x >>= f) = f a := by
    rw [hx]
    rfl
  -- One line for each part of the date and the time, in the order in which they are read.
  rw [parse?, hform, parseChars]
  refine (hthen _ (yearNumber_renderYear t.year (hmark rfl _))).trans ?_
  refine (hthen _ (separator_cons '-' rfl _)).trans ?_
  refine (hthen _ (number_padZero htwo (by omega) (hmark rfl _))).trans ?_
  refine (hthen _ (separator_cons '-' rfl _)).trans ?_
  refine (hthen _ (number_padZero htwo (by omega) (hmark rfl _))).trans ?_
  refine (hthen _ (a := (Text.padZero 2 t.hour).toList ++ _) rfl).trans ?_
  refine (hthen _ (number_padZero htwo (by omega) (hmark rfl _))).trans ?_
  refine (hthen _ (separator_cons ':' rfl _)).trans ?_
  refine (hthen _ (number_padZero htwo (by omega) (hmark rfl _))).trans ?_
  refine (hthen _ (separator_cons ':' rfl _)).trans ?_
  refine (hthen _ (number_padZero htwo (by omega) (head?_renderFraction t.nano []))).trans ?_
  refine (hthen _ (fraction_renderFraction hnano [])).trans ?_
  refine (hthen _ (a := (0, [])) rfl).trans ?_
  have hlocal : Timestamp.mk t.year t.month t.day t.hour t.minute t.second t.nano = t := rfl
  simp only [hlocal, toUtc_zero hhour hminute, h, hyear]
  rfl

end Timestamp
end Trainer
