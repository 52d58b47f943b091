import Mathlib
import Trainer.Proofs.Binary64
import Trainer.Proofs.Duration

/-!
# Shown durations

A duration is shown in milliseconds below a second, in tenths of a second below a minute and in
seconds from there on (`Duration.grain`).  Read back (`Shown.ofText?`), what is shown is nearer to the
duration than one unit of its last place, and longer durations are never shown as shorter ones
(`Duration.shown_near_and_in_order`).

The tenths are rounded, after it has been decided that the duration is below a minute.  So the last
twentieth of a second before the minute is shown as `60.0s`, and everything else in a form of which
the seconds stay below sixty (`Duration.render_written_iff`).

The tenths come from a double (`Duration.IsDoubleOf`).  It takes three roundings, but below a minute
they amount to less than half a nanosecond, so durations keep their order as doubles
(`Duration.value_asSeconds_mono`).
-/

namespace Trainer

/-! ## What is shown -/

/-- The unit of the last place of a shown duration. -/
inductive Grain where
  | millisecond
  | tenth
  | second
deriving DecidableEq, Repr

def Grain.worth : Grain → ℚ
  | .millisecond => 1 / 1000
  | .tenth => 1 / 10
  | .second => 1

/-- A shown duration, read as a number of seconds. -/
structure Shown where
  seconds : ℚ
  grain : Grain

/-- Reads a shown duration: a number, and a letter or a point with what follows it. -/
def Shown.ofText? (text : String) : Option Shown :=
  let digits := text.toList.takeWhile Char.isDigit
  let number := Chars.digitsValue digits
  if digits.isEmpty then none
  else
    match text.toList.dropWhile Char.isDigit with
    | ['m', 's'] => some ⟨number / 1000, .millisecond⟩
    | ['.', tenth, 's'] => some ⟨number + Chars.digitsValue [tenth] / 10, .tenth⟩
    | ['m', ten, one, 's'] => some ⟨60 * number + Chars.digitsValue [ten, one], .second⟩
    | _ => none

namespace Duration

/-- The forms in which durations are shown, each with the unit of its last place. -/
inductive Written : Grain → String → Prop where
  | millis {n : Nat} : n < 1000 → Written .millisecond (toString n ++ "ms")
  | tenths {whole tenth : Nat} : 1 ≤ whole → whole < 60 → tenth < 10 →
      Written .tenth (toString whole ++ "." ++ toString tenth ++ "s")
  | minutes {minutes ten one : Nat} : 1 ≤ minutes → ten < 6 → one < 10 →
      Written .second (toString minutes ++ "m" ++ toString ten ++ toString one ++ "s")

def inSeconds (d : Duration) : ℚ :=
  (d.nanos : ℚ) / second

/--
A double is made of a duration: its whole seconds and what is beyond them are rounded to doubles,
and then the sum of the two.
-/
def IsDoubleOf (d : Duration) (x : Binary64) : Prop :=
  ∃ whole part : Binary64, whole.Rounds d.seconds ∧ part.Rounds ((d.subsecond : ℚ) / second) ∧
    x.Rounds (whole.value + part.value)

/-- The unit of the last place for a duration of this length. -/
def grain (d : Duration) : Grain :=
  if d.nanos < second then .millisecond
  else if d.nanos < 60 * second then .tenth
  else .second

/-- The tenths of a second to which a duration is rounded. -/
def tenths (d : Duration) : Nat :=
  roundDiv (d.asSeconds.num * tenTo 1) d.asSeconds.den

variable {d d' : Duration}

/-! ## The double of a duration -/

theorem inSeconds_nonneg (d : Duration) : 0 ≤ d.inSeconds := by
  unfold inSeconds
  positivity

theorem inSeconds_lt_iff (n : Nat) : d.inSeconds < n ↔ d.nanos < n * second := by
  have hsecond : (0 : ℚ) < second := by norm_num [second]
  rw [inSeconds, div_lt_iff₀ hsecond]
  norm_cast

/-- A duration is its whole seconds and what is beyond them. -/
theorem inSeconds_eq (d : Duration) :
    d.inSeconds = (d.seconds : ℚ) + (d.subsecond : ℚ) / second := by
  have hsplit : (second : ℚ) * d.seconds + d.subsecond = d.nanos := by
    exact_mod_cast Nat.div_add_mod d.nanos second
  have hsecond : (second : ℚ) ≠ 0 := by norm_num [second]
  rw [inSeconds, ← hsplit]
  field_simp

/-- The program's way to a double is the one that `IsDoubleOf` describes. -/
theorem isDoubleOf_asSeconds (d : Duration) : IsDoubleOf d d.asSeconds := by
  refine ⟨Binary64.ofNat d.seconds, Binary64.ofRatio d.subsecond second, ?_, ?_, ?_⟩
  · have hwhole := Binary64.rounds_ofRatio d.seconds Nat.one_pos
    rwa [Nat.cast_one, div_one] at hwhole
  · exact Binary64.rounds_ofRatio d.subsecond (by decide)
  · exact Binary64.rounds_add _ _

/-- Three roundings are off by three parts in `2 ^ 53` at most. -/
theorem IsDoubleOf.abs_sub_le {x : Binary64} (h : IsDoubleOf d x) :
    |x.value - d.inSeconds| ≤ 3 * d.inSeconds / 2 ^ 53 := by
  obtain ⟨whole, part, hwhole, hpart, hsum⟩ := h
  have hwhole' := abs_le.1 hwhole.abs_sub_le
  have hpart' := abs_le.1 hpart.abs_sub_le
  have hsum' := abs_le.1 hsum.abs_sub_le
  have hnonneg := d.inSeconds_nonneg
  rw [inSeconds_eq] at hnonneg ⊢
  rw [abs_le]
  constructor <;> linarith

/-- Below a minute the double is off by less than half a nanosecond. -/
theorem value_asSeconds_near (h : d.nanos < 60 * second) :
    |d.asSeconds.value - d.inSeconds| < 1 / (2 * second) := by
  have hlt : d.inSeconds < (60 : Nat) := (inSeconds_lt_iff 60).2 h
  refine (isDoubleOf_asSeconds d).abs_sub_le.trans_lt ?_
  norm_num [second] at hlt ⊢
  linarith

/-- The double of the longer duration is the greater one. -/
theorem value_asSeconds_mono (h : d.nanos ≤ d'.nanos) (hd' : d'.nanos < 60 * second) :
    d.asSeconds.value ≤ d'.asSeconds.value := by
  rcases h.eq_or_lt with heq | hlt
  · have hsame : d = d' := congrArg Duration.mk heq
    rw [hsame]
  · have hnext : d.inSeconds + 1 / second ≤ d'.inSeconds := by
      rw [inSeconds, inSeconds, ← add_div]
      apply div_le_div_of_nonneg_right _ (Nat.cast_nonneg _)
      exact_mod_cast hlt
    have hnear := abs_lt.1 (value_asSeconds_near (h.trans_lt hd'))
    have hnear' := abs_lt.1 (value_asSeconds_near hd')
    have hhalves : (1 : ℚ) / second = 1 / (2 * second) + 1 / (2 * second) := by
      field_simp
      norm_num
    linarith

/-! ## Tenths of a second -/

/-- Tenths are rounded from the double, not from the duration. -/
theorem nearest_tenths (d : Duration) : Nearest (10 * d.asSeconds.value) d.tenths :=
  Binary64.nearest_tenths d.asSeconds

/-- A longer duration has no fewer tenths, up to a minute. -/
theorem tenths_mono (h : d.nanos ≤ d'.nanos) (hd' : d'.nanos < 60 * second) :
    d.tenths ≤ d'.tenths :=
  (nearest_tenths d).mono (nearest_tenths d')
    (mul_le_mul_of_nonneg_left (value_asSeconds_mono h hd') (by norm_num))

theorem ten_le_tenths (h : second ≤ d.nanos) (hd : d.nanos < 60 * second) : 10 ≤ d.tenths :=
  calc 10 = tenths ⟨second⟩ := by decide +kernel
    _ ≤ d.tenths := tenths_mono h hd

/-- Below 59.95 seconds the tenths stay below a minute. -/
theorem tenths_lt (h : d.nanos < 59950000000) : d.tenths < 600 := by
  calc d.tenths ≤ tenths ⟨59949999999⟩ := tenths_mono (Nat.le_of_lt_succ h) (by decide)
    _ < 600 := by decide +kernel

/-- From 59.95 seconds on the tenths come to a minute, although the duration does not. -/
theorem tenths_eq (h : 59950000000 ≤ d.nanos) (hd : d.nanos < 60 * second) : d.tenths = 600 := by
  apply le_antisymm
  · calc d.tenths ≤ tenths ⟨60 * second - 1⟩ := tenths_mono (Nat.le_sub_one_of_lt hd) (by decide)
      _ = 600 := by decide +kernel
  · calc 600 = tenths ⟨59950000000⟩ := by decide +kernel
      _ ≤ d.tenths := tenths_mono h hd

/-! ## What is written -/

/-- A duration in the form of its length, the seconds in whole tenths. -/
inductive Rendered (d : Duration) : String → Prop where
  | millis : d.nanos < second → Rendered d (toString d.millis ++ "ms")
  | tenths : second ≤ d.nanos → d.nanos < 60 * second →
      Rendered d (toString (d.tenths / 10) ++ "." ++ toString (d.tenths % 10) ++ "s")
  | minutes : 60 * second ≤ d.nanos →
      Rendered d (toString (d.seconds / 60) ++ "m" ++ toString (d.seconds % 60 / 10) ++
        toString (d.seconds % 60 % 10) ++ "s")

theorem padZero_one {n : Nat} (h : n < 10) : Text.padZero 1 n = toString n := by
  have hall : ∀ n < 10, Text.padZero 1 n = toString n := by decide +kernel
  exact hall n h

theorem padZero_two {n : Nat} (h : n < 60) :
    Text.padZero 2 n = toString (n / 10) ++ toString (n % 10) := by
  have hall : ∀ n < 60, Text.padZero 2 n = toString (n / 10) ++ toString (n % 10) := by
    decide +kernel
  exact hall n h

/-- Which of the three forms a duration is shown in. -/
theorem rendered_render (d : Duration) : Rendered d d.render := by
  have hmillis (n : Nat) : d.millis < n * 1000 ↔ d.nanos < n * second := by
    rw [millis, Nat.div_lt_iff_lt_mul (by decide), Nat.mul_assoc]
    rfl
  unfold render
  split_ifs with hbelow hminute
  · exact .millis (by simpa using (hmillis 1).1 hbelow)
  · have htenths : d.asSeconds.fixed 1 =
        toString (d.tenths / 10) ++ "." ++ toString (d.tenths % 10) := by
      rw [← padZero_one (Nat.mod_lt d.tenths (by decide))]
      rfl
    rw [htenths]
    refine .tenths ?_ ((hmillis 60).1 hminute)
    exact Nat.not_lt.1 fun hlt => hbelow ((hmillis 1).2 (by simpa using hlt))
  · rw [padZero_two (Nat.mod_lt d.seconds (by decide)), ← String.append_assoc]
    exact .minutes (Nat.not_lt.1 fun hlt => hminute ((hmillis 60).2 hlt))

/-! ## What is read -/

theorem toList_toString_of_lt {n : Nat} (h : n < 10) : (toString n).toList = [n.digitChar] := by
  rw [Text.toList_toString, Nat.toDigits_of_lt_base h]

/-- The digits of a number end at the letter or the point behind them. -/
theorem ofText?_append (n : Nat) {behind : String} {mark : Char} {rest : List Char}
    (hbehind : behind.toList = mark :: rest) (hmark : mark.isDigit = false) :
    Shown.ofText? (toString n ++ behind) =
      match mark :: rest with
      | ['m', 's'] => some ⟨n / 1000, .millisecond⟩
      | ['.', tenth, 's'] => some ⟨n + Chars.digitsValue [tenth] / 10, .tenth⟩
      | ['m', ten, one, 's'] => some ⟨60 * n + Chars.digitsValue [ten, one], .second⟩
      | _ => none := by
  have hdigits : ∀ c ∈ Nat.toDigits 10 n, c.isDigit = true :=
    fun c hc => Nat.isDigit_of_mem_toDigits (by decide) (by decide) hc
  have hstop : ∀ c ∈ (mark :: rest).head?, c.isDigit = false := by
    intro c hc
    cases hc
    exact hmark
  obtain ⟨htake, hdrop⟩ := cut_digits hdigits hstop
  have hnumber : Chars.digitsValue (Nat.toDigits 10 n) = n := by
    rw [Chars.digitsValue_eq, Nat.ofDigitChars_ten_toDigits]
  have hne : ¬ (Nat.toDigits 10 n).isEmpty = true := by simp
  unfold Shown.ofText?
  simp only [String.toList_append, Text.toList_toString, hbehind, htake, hdrop, hnumber]
  exact if_neg hne

theorem digitsValue_digitChar {n : Nat} (h : n < 10) : Chars.digitsValue [n.digitChar] = n := by
  rw [Chars.digitsValue_eq, ← Nat.toDigits_of_lt_base h, Nat.ofDigitChars_ten_toDigits]

/-- Milliseconds are read back. -/
theorem ofText?_millis (n : Nat) :
    Shown.ofText? (toString n ++ "ms") = some ⟨n / 1000, .millisecond⟩ :=
  ofText?_append n (show "ms".toList = ['m', 's'] from rfl) rfl

/-- Seconds with tenths are read back. -/
theorem ofText?_tenths (whole : Nat) {tenth : Nat} (h : tenth < 10) :
    Shown.ofText? (toString whole ++ "." ++ toString tenth ++ "s") =
      some ⟨whole + tenth / 10, .tenth⟩ := by
  have hbehind : ("." ++ (toString tenth ++ "s")).toList = ['.', tenth.digitChar, 's'] := by
    rw [String.toList_append, String.toList_append, toList_toString_of_lt h]
    rfl
  rw [String.append_assoc, String.append_assoc, ofText?_append whole hbehind rfl]
  simp only [digitsValue_digitChar h]

/-- Minutes and seconds are read back. -/
theorem ofText?_minutes (minutes : Nat) {ten one : Nat} (hten : ten < 10) (hone : one < 10) :
    Shown.ofText? (toString minutes ++ "m" ++ toString ten ++ toString one ++ "s") =
      some ⟨60 * minutes + (10 * ten + one : Nat), .second⟩ := by
  have hbehind : ("m" ++ (toString ten ++ (toString one ++ "s"))).toList =
      ['m', ten.digitChar, one.digitChar, 's'] := by
    rw [String.toList_append, String.toList_append, String.toList_append,
      toList_toString_of_lt hten, toList_toString_of_lt hone]
    rfl
  have hvalue : Chars.digitsValue [ten.digitChar, one.digitChar] = 10 * ten + one := by
    have hten' := digitsValue_digitChar hten
    have hone' := digitsValue_digitChar hone
    simp only [Chars.digitsValue, List.foldl_cons, List.foldl_nil, Nat.mul_zero, Nat.zero_add]
      at hten' hone' ⊢
    rw [hten', hone']
  rw [String.append_assoc, String.append_assoc, String.append_assoc,
    ofText?_append minutes hbehind rfl]
  simp only [hvalue]

def shownSeconds (d : Duration) : ℚ :=
  match d.grain with
  | .millisecond => d.millis / 1000
  | .tenth => d.tenths / 10
  | .second => d.seconds

theorem grain_of_lt (h : d.nanos < second) : d.grain = .millisecond :=
  if_pos h

theorem grain_of_lt_minute (h : second ≤ d.nanos) (hd : d.nanos < 60 * second) :
    d.grain = .tenth :=
  (if_neg (Nat.not_lt.2 h)).trans (if_pos hd)

theorem grain_of_le (h : 60 * second ≤ d.nanos) : d.grain = .second := by
  have hsecond : ¬ d.nanos < second := Nat.not_lt.2 ((Nat.le_mul_of_pos_left _ (by decide)).trans h)
  exact (if_neg hsecond).trans (if_neg (Nat.not_lt.2 h))

theorem shownSeconds_of_lt (h : d.nanos < second) : d.shownSeconds = d.millis / 1000 := by
  rw [shownSeconds, grain_of_lt h]

theorem shownSeconds_of_lt_minute (h : second ≤ d.nanos) (hd : d.nanos < 60 * second) :
    d.shownSeconds = d.tenths / 10 := by
  rw [shownSeconds, grain_of_lt_minute h hd]

theorem shownSeconds_of_le (h : 60 * second ≤ d.nanos) : d.shownSeconds = d.seconds := by
  rw [shownSeconds, grain_of_le h]

/-- What is shown is read back. -/
theorem ofText?_render (d : Duration) :
    Shown.ofText? d.render = some ⟨d.shownSeconds, d.grain⟩ := by
  have h := rendered_render d
  generalize d.render = text at h
  cases h with
  | millis hlt => rw [ofText?_millis, shownSeconds_of_lt hlt, grain_of_lt hlt]
  | tenths hle hlt =>
      have hsplit : (10 : ℚ) * (d.tenths / 10 : Nat) + (d.tenths % 10 : Nat) = d.tenths := by
        exact_mod_cast Nat.div_add_mod d.tenths 10
      rw [ofText?_tenths _ (Nat.mod_lt _ (by decide)), shownSeconds_of_lt_minute hle hlt,
        grain_of_lt_minute hle hlt, ← hsplit]
      congr 2
      ring
  | minutes hle =>
      have hten : d.seconds % 60 / 10 < 10 :=
        Nat.div_lt_of_lt_mul ((Nat.mod_lt d.seconds (by decide)).trans (by decide))
      have hsplit : (60 : ℚ) * (d.seconds / 60 : Nat) + (d.seconds % 60 : Nat) = d.seconds := by
        exact_mod_cast Nat.div_add_mod d.seconds 60
      rw [ofText?_minutes _ hten (Nat.mod_lt _ (by decide)), Nat.div_add_mod,
        shownSeconds_of_le hle, grain_of_le hle, hsplit]

/-! ## Nearness and order -/

/-- A whole quotient is off by less than one. -/
theorem abs_quotient_sub_lt (n k : Nat) : |((n / k : Nat) : ℚ) - (n : ℚ) / k| < 1 := by
  have hlow : ((n / k : Nat) : ℚ) ≤ (n : ℚ) / k := Nat.cast_div_le
  have hhigh : (n : ℚ) / k < (n / k : Nat) + 1 := by
    rw [← Nat.floor_div_eq_div (K := ℚ)]
    exact Nat.lt_floor_add_one _
  rw [abs_lt]
  constructor <;> linarith

theorem millis_near (d : Duration) : |(d.millis : ℚ) / 1000 - d.inSeconds| < 1 / 1000 := by
  have hwhole := abs_lt.1 (abs_quotient_sub_lt d.nanos 1000000)
  have hunits : d.inSeconds = (d.nanos : ℚ) / (1000000 : Nat) / 1000 := by
    rw [inSeconds, div_div]
    norm_num [second]
  rw [hunits, millis, abs_lt]
  constructor <;> linarith

theorem seconds_near (d : Duration) : |(d.seconds : ℚ) - d.inSeconds| < 1 :=
  abs_quotient_sub_lt d.nanos second

/-- Two roundings and the way over doubles come to less than a tenth. -/
theorem tenths_near (h : d.nanos < 60 * second) : |(d.tenths : ℚ) / 10 - d.inSeconds| < 1 / 10 := by
  have hround := abs_le.1 (nearest_tenths d).near
  have hdouble := abs_lt.1 (value_asSeconds_near h)
  have hhalf : (1 : ℚ) / (2 * second) < 1 / 20 := by norm_num [second]
  rw [abs_lt]
  constructor <;> linarith

/-- What is shown is nearer than a unit of its last place. -/
theorem shownSeconds_near (d : Duration) : |d.shownSeconds - d.inSeconds| < d.grain.worth := by
  rcases lt_or_ge d.nanos second with hlt | hle
  · rw [shownSeconds_of_lt hlt, grain_of_lt hlt]
    exact millis_near d
  · rcases lt_or_ge d.nanos (60 * second) with hminute | hminute
    · rw [shownSeconds_of_lt_minute hle hminute, grain_of_lt_minute hle hminute]
      exact tenths_near hminute
    · rw [shownSeconds_of_le hminute, grain_of_le hminute]
      exact seconds_near d

/-- Less than a second is shown as less. -/
theorem shownSeconds_lt_one (h : d.nanos < second) : d.shownSeconds < 1 := by
  have hmillis : d.millis < 1000 := Nat.div_lt_of_lt_mul h
  rw [shownSeconds_of_lt h, div_lt_one (by norm_num)]
  exact_mod_cast hmillis

/-- From a second on up to the minute at least a second is shown, and a minute at most. -/
theorem one_le_shownSeconds (h : second ≤ d.nanos) (hd : d.nanos < 60 * second) :
    1 ≤ d.shownSeconds ∧ d.shownSeconds ≤ 60 := by
  have hlow : (10 : ℚ) ≤ d.tenths := by exact_mod_cast ten_le_tenths h hd
  have hmost : d.tenths ≤ 600 :=
    (tenths_mono (Nat.le_sub_one_of_lt hd) (by decide)).trans
      (tenths_eq (d := ⟨60 * second - 1⟩) (by decide) (by decide)).le
  have hhigh : (d.tenths : ℚ) ≤ 600 := by exact_mod_cast hmost
  rw [shownSeconds_of_lt_minute h hd]
  constructor <;> linarith

/-- From a minute on a minute is shown at least. -/
theorem sixty_le_shownSeconds (h : 60 * second ≤ d.nanos) : 60 ≤ d.shownSeconds := by
  have hseconds : 60 ≤ d.seconds := (Nat.le_div_iff_mul_le (by decide)).2 h
  rw [shownSeconds_of_le h]
  exact_mod_cast hseconds

/-- The longer duration is never shown as the shorter one. -/
theorem shownSeconds_mono (h : d.nanos ≤ d'.nanos) : d.shownSeconds ≤ d'.shownSeconds := by
  rcases lt_or_ge d'.nanos second with hlt' | hle'
  · -- Both are below a second.
    have hmillis : d.millis ≤ d'.millis := Nat.div_le_div_right h
    rw [shownSeconds_of_lt hlt', shownSeconds_of_lt (h.trans_lt hlt')]
    apply div_le_div_of_nonneg_right _ (by norm_num)
    exact_mod_cast hmillis
  · rcases lt_or_ge d'.nanos (60 * second) with hminute' | hminute'
    · rcases lt_or_ge d.nanos second with hlt | hle
      · exact (shownSeconds_lt_one hlt).le.trans (one_le_shownSeconds hle' hminute').1
      · -- Both are shown in tenths.
        rw [shownSeconds_of_lt_minute hle' hminute',
          shownSeconds_of_lt_minute hle (h.trans_lt hminute')]
        apply div_le_div_of_nonneg_right _ (by norm_num)
        exact_mod_cast tenths_mono h hminute'
    · have hsixty := sixty_le_shownSeconds hminute'
      rcases lt_or_ge d.nanos second with hlt | hle
      · exact (shownSeconds_lt_one hlt).le.trans (le_trans (by norm_num) hsixty)
      · rcases lt_or_ge d.nanos (60 * second) with hminute | hminute
        · exact (one_le_shownSeconds hle hminute).2.trans hsixty
        · -- Both are a minute long at least.
          have hseconds : d.seconds ≤ d'.seconds := Nat.div_le_div_right h
          rw [shownSeconds_of_le hminute, shownSeconds_of_le hminute']
          exact_mod_cast hseconds

/--
Every shown duration is read back as a number of seconds that differs from it by less than one unit
of the last place shown, and of two durations the longer one is not shown as the shorter one.
Between a second and a minute the tenths are those nearest to the double of the duration, with ties
to the even one.
-/
theorem shown_near_and_in_order :
    (∀ d : Duration, ∃ v, Shown.ofText? d.render = some ⟨v, d.grain⟩ ∧
      |v - d.inSeconds| < d.grain.worth) ∧
    (∀ d d' : Duration, d.nanos ≤ d'.nanos → ∃ v v',
      Shown.ofText? d.render = some ⟨v, d.grain⟩ ∧
        Shown.ofText? d'.render = some ⟨v', d'.grain⟩ ∧ v ≤ v') ∧
    (∀ d : Duration, d.grain = .tenth → ∃ n : Nat,
      Shown.ofText? d.render = some ⟨n / 10, .tenth⟩ ∧ Nearest (10 * d.asSeconds.value) n ∧
        IsDoubleOf d d.asSeconds) := by
  refine ⟨?near, ?order, ?tenths⟩
  case near =>
    intro d
    exact ⟨d.shownSeconds, ofText?_render d, shownSeconds_near d⟩
  case order =>
    intro d d' h
    exact ⟨_, _, ofText?_render d, ofText?_render d', shownSeconds_mono h⟩
  case tenths =>
    intro d hgrain
    refine ⟨d.tenths, ?_, nearest_tenths d, isDoubleOf_asSeconds d⟩
    rw [ofText?_render, shownSeconds, hgrain]

/-- The last moment before the minute and the minute itself are both shown as sixty seconds. -/
theorem shown_near_and_in_order_minute :
    (⟨59999999999⟩ : Duration).render = "60.0s" ∧ (⟨60000000000⟩ : Duration).render = "1m00s" ∧
      (⟨59999999999⟩ : Duration).nanos ≤ (⟨60000000000⟩ : Duration).nanos ∧
      (∃ v v', Shown.ofText? "60.0s" = some ⟨v, .tenth⟩ ∧
        Shown.ofText? "1m00s" = some ⟨v', .second⟩ ∧ v ≤ v') ∧
      (⟨59999999999⟩ : Duration).grain = .tenth ∧
      ∃ n : Nat, Shown.ofText? "60.0s" = some ⟨n / 10, .tenth⟩ ∧
        Nearest (10 * (⟨59999999999⟩ : Duration).asSeconds.value) n := by
  have hbefore : (⟨59999999999⟩ : Duration).render = "60.0s" := by decide +kernel
  have hminute : (⟨60000000000⟩ : Duration).render = "1m00s" := by decide +kernel
  obtain ⟨-, horder, htenths⟩ := shown_near_and_in_order
  have hinOrder := horder ⟨59999999999⟩ ⟨60000000000⟩ (by decide)
  obtain ⟨n, hshown, hnearest, -⟩ := htenths ⟨59999999999⟩ (by decide)
  rw [hbefore, hminute] at hinOrder
  rw [hbefore] at hshown
  exact ⟨hbefore, hminute, by decide, hinOrder, by decide, n, hshown, hnearest⟩

/-- A tie between two tenths goes to the even one. -/
example : (ofMillis 1250).render = "1.2s" := by
  decide +kernel

/-! ## Forms -/

/-- A form is read as what it is exact to, and its seconds are in the range of the form. -/
theorem Written.reads {g : Grain} {text : String} (h : Written g text) :
    ∃ v, Shown.ofText? text = some ⟨v, g⟩ ∧ (g = .tenth → v < 60) := by
  cases h with
  | @millis n _ => exact ⟨_, ofText?_millis n, nofun⟩
  | @tenths whole tenth _ hwhole htenth =>
      refine ⟨_, ofText?_tenths whole htenth, fun _ => ?_⟩
      have hlast : (tenth : ℚ) < 10 := by exact_mod_cast htenth
      have hbelow : (whole : ℚ) + 1 ≤ 60 := by exact_mod_cast hwhole
      linarith
  | @minutes minutes ten one _ hten hone =>
      exact ⟨_, ofText?_minutes minutes (hten.trans (by decide)) hone, nofun⟩

/-- What rounds up to a minute is shown as sixty seconds. -/
theorem render_of_gap (h : 59950000000 ≤ d.nanos) (hd : d.nanos < 60 * second) :
    d.render = "60.0s" := by
  have hrendered := rendered_render d
  generalize d.render = text at hrendered
  cases hrendered with
  | millis hlt => exact absurd (h.trans_lt hlt) (by decide)
  | tenths =>
      rw [tenths_eq h hd]
      rfl
  | minutes hle => exact absurd hd (Nat.not_lt.2 hle)

/-- Outside the last twentieth before a minute, the shown form is one of the written forms. -/
theorem written_render (h : d.nanos < 59950000000 ∨ 60 * second ≤ d.nanos) :
    Written d.grain d.render := by
  have hrendered := rendered_render d
  generalize d.render = text at hrendered
  cases hrendered with
  | millis hlt =>
      rw [grain_of_lt hlt]
      exact .millis (Nat.div_lt_of_lt_mul hlt)
  | tenths hle hlt =>
      have hbelow : d.tenths < 600 := tenths_lt (h.resolve_right (Nat.not_le.2 hlt))
      rw [grain_of_lt_minute hle hlt]
      refine .tenths ?_ (Nat.div_lt_of_lt_mul hbelow) (Nat.mod_lt _ (by decide))
      exact (Nat.le_div_iff_mul_le (by decide)).2 (ten_le_tenths hle hlt)
  | minutes hle =>
      have hseconds : 60 ≤ d.seconds := (Nat.le_div_iff_mul_le (by decide)).2 hle
      rw [grain_of_le hle]
      exact .minutes (Nat.div_pos hseconds (by decide))
        (Nat.div_lt_of_lt_mul (Nat.mod_lt d.seconds (by decide))) (Nat.mod_lt _ (by decide))

/-- No form is written `60.0s`. -/
theorem not_written_sixty (g : Grain) : ¬ Written g "60.0s" := by
  intro h
  have htext : toString 60 ++ "." ++ toString 0 ++ "s" = "60.0s" := by decide +kernel
  have hsixty := ofText?_tenths 60 (show 0 < 10 by decide)
  rw [htext] at hsixty
  obtain ⟨v, hread, hbelow⟩ := h.reads
  rw [hsixty, Option.some.injEq, Shown.mk.injEq] at hread
  obtain ⟨rfl, rfl⟩ := hread
  exact absurd (hbelow rfl) (by norm_num)

/--
A duration is shown in the form of its length and in no other, unless it is at most a twentieth of a
second short of a minute.  That is what is shown as `60.0s`, which is none of the forms.
-/
theorem render_written_iff (d : Duration) :
    (∀ g, Written g d.render ↔
      g = d.grain ∧ ¬ (59950000000 ≤ d.nanos ∧ d.nanos < 60 * second)) ∧
    (d.render = "60.0s" ↔ 59950000000 ≤ d.nanos ∧ d.nanos < 60 * second) := by
  by_cases hgap : 59950000000 ≤ d.nanos ∧ d.nanos < 60 * second
  · have hrender : d.render = "60.0s" := render_of_gap hgap.1 hgap.2
    refine ⟨fun g => ?_, iff_of_true hrender hgap⟩
    rw [hrender]
    exact iff_of_false (not_written_sixty g) fun h => h.2 hgap
  · have hwritten : Written d.grain d.render := by
      apply written_render
      rwa [not_and_or, not_le, not_lt] at hgap
    refine ⟨fun g => ⟨fun h => ⟨?_, hgap⟩, ?_⟩, iff_of_false (fun heq => ?_) hgap⟩
    · -- What is shown is read in one way only.
      obtain ⟨v, hread, -⟩ := h.reads
      cases (ofText?_render d).symm.trans hread
      rfl
    · rintro ⟨rfl, -⟩
      exact hwritten
    · rw [heq] at hwritten
      exact not_written_sixty _ hwritten

/-- Not every duration is shown in one of the three forms. -/
theorem render_not_written : ¬ ∃ g, Written g (⟨59960000000⟩ : Duration).render := by
  rintro ⟨g, hg⟩
  rw [render_of_gap (by decide) (by decide)] at hg
  exact not_written_sixty g hg

end Duration
end Trainer
