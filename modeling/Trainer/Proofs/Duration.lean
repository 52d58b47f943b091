import Mathlib
import Trainer.Duration
import Trainer.Proofs.Text.Trimming
import Trainer.Proofs.Timestamp

/-!
# Written durations

A duration is written as a number, blanks and a unit, with blanks around (`Duration.Denotes`), and
`Duration.parse` reads exactly these texts (`Duration.parse_eq_ok_iff`).  Of any other text it says
what is wrong (`Duration.Refused`, `Duration.parse_decides`).

Both cuts of a text, behind its digits and behind the blanks, are where the writing has them: no
blank is a digit, and no unit begins with either.
-/

namespace Trainer
namespace Duration

/-- So many of the unit with this word last so long; no word means seconds. -/
inductive Lasts (n : Nat) : List Char → Duration → Prop where
  | bare : Lasts n [] (ofSeconds n)
  | seconds : Lasts n ['s'] (ofSeconds n)
  | millis : Lasts n ['m', 's'] (ofMillis n)
  | minutes : Lasts n ['m'] (ofSeconds (n * 60))
  | hours : Lasts n ['h'] (ofSeconds (n * 3600))

/-- Decimal digits of a number that fits in 64 bits. -/
structure IsNumber (digits : List Char) : Prop where
  ne_nil : digits ≠ []
  isDigit : ∀ c ∈ digits, c.isDigit = true
  fits : Chars.digitsValue digits < 2 ^ 64

/-- A text is a written duration. -/
def Denotes (s : String) (d : Duration) : Prop :=
  ∃ digits gap word, Chars.trim s.toList = digits ++ (gap ++ word) ∧ IsNumber digits ∧
    (∀ c ∈ gap, Chars.isBlank c = true) ∧ Lasts (Chars.digitsValue digits) word d

/--
What is wrong with a text.  A number that is too large is complained of whatever follows it, and the
word behind a number that fits is what the blanks leave.
-/
inductive Refused (s : String) : ParseError → Prop where
  | empty : Chars.trim s.toList = [] → Refused s .empty
  | noDigits {c : Char} {rest : List Char} : Chars.trim s.toList = c :: rest →
      c.isDigit = false → Refused s (.noDigits (Text.trim s))
  | tooLarge {digits rest : List Char} : Chars.trim s.toList = digits ++ rest →
      (∀ c ∈ digits, c.isDigit = true) → (∀ c ∈ rest.head?, c.isDigit = false) →
      2 ^ 64 ≤ Chars.digitsValue digits → Refused s (.tooLarge (Text.trim s))
  | unknownUnit {digits gap word : List Char} : Chars.trim s.toList = digits ++ (gap ++ word) →
      IsNumber digits → (∀ c ∈ (gap ++ word).head?, c.isDigit = false) →
      (∀ c ∈ gap, Chars.isBlank c = true) → (∀ c ∈ word.head?, Chars.isBlank c = false) →
      (∀ n d, ¬ Lasts n word d) →
      Refused s (.unknownUnit (String.ofList word) (Text.trim s))

variable {n : Nat} {word : List Char} {d : Duration}

/-! ## Units -/

theorem lasts_iff : Lasts n word d ↔ ∃ u, TimeUnit.ofChars? word = some u ∧ d = u.times n := by
  constructor
  · intro h
    cases h with
    | bare => exact ⟨.second, rfl, rfl⟩
    | seconds => exact ⟨.second, rfl, rfl⟩
    | millis => exact ⟨.millisecond, rfl, rfl⟩
    | minutes => exact ⟨.minute, rfl, rfl⟩
    | hours => exact ⟨.hour, rfl, rfl⟩
  · rintro ⟨u, hword, rfl⟩
    unfold TimeUnit.ofChars? at hword
    split at hword
    · cases hword
      exact .bare
    · cases hword
      exact .seconds
    · cases hword
      exact .millis
    · cases hword
      exact .minutes
    · cases hword
      exact .hours
    · cases hword

/-- A unit has letters only. -/
theorem Lasts.plain (h : Lasts n word d) :
    ∀ c ∈ word, Chars.isBlank c = false ∧ c.isDigit = false := by
  have hletters : ∀ c, c = 's' ∨ c = 'm' ∨ c = 'h' →
      Chars.isBlank c = false ∧ c.isDigit = false := by
    rintro c (rfl | rfl | rfl) <;> decide
  intro c hc
  refine hletters c ?_
  cases h with
  | bare => cases hc
  | seconds => exact .inl (List.mem_singleton.1 hc)
  | millis =>
      rcases List.mem_pair.1 hc with rfl | rfl
      · exact .inr (.inl rfl)
      · exact .inl rfl
  | minutes => exact .inr (.inl (List.mem_singleton.1 hc))
  | hours => exact .inr (.inr (List.mem_singleton.1 hc))

/-! ## Reading -/

theorem isDigit_of_isBlank {c : Char} (h : Chars.isBlank c = true) : c.isDigit = false := by
  cases hdigit : c.isDigit with
  | false => rfl
  | true =>
      rw [Chars.isBlank_of_isDigit hdigit] at h
      exact absurd h Bool.false_ne_true

variable {digits gap rest : List Char}

/-- The digits of a text end where something else begins. -/
theorem cut_digits (hdigits : ∀ c ∈ digits, c.isDigit = true)
    (hrest : ∀ c ∈ rest.head?, c.isDigit = false) :
    (digits ++ rest).takeWhile Char.isDigit = digits ∧
      (digits ++ rest).dropWhile Char.isDigit = rest := by
  constructor
  · exact Timestamp.takeWhile_isDigit_append hdigits hrest
  · rw [List.dropWhile_append_of_pos hdigits, List.dropWhile_eq_self_iff]
    intro hpos
    have hfirst : rest[0] ∈ rest.head? := by
      rw [List.head?_eq_getElem?, Option.mem_def, List.getElem?_eq_getElem hpos]
    simpa using hrest _ hfirst

/-- Neither the blanks nor what follows them begins with a digit. -/
theorem head?_gap_append (hgap : ∀ c ∈ gap, Chars.isBlank c = true)
    (hword : ∀ c ∈ word.head?, c.isDigit = false) :
    ∀ c ∈ (gap ++ word).head?, c.isDigit = false := by
  cases gap with
  | nil => exact hword
  | cons b gap =>
      intro c hc
      cases hc
      exact isDigit_of_isBlank (hgap b List.mem_cons_self)

theorem Lasts.head? (h : Lasts n word d) :
    ∀ c ∈ word.head?, Chars.isBlank c = false ∧ c.isDigit = false :=
  fun c hc => h.plain c (List.mem_of_mem_head? hc)

/-- The blanks in front of a word do not count. -/
theorem trimStart_gap_append (hgap : ∀ c ∈ gap, Chars.isBlank c = true)
    (hword : ∀ c ∈ word.head?, Chars.isBlank c = false) :
    Chars.trimStart (gap ++ word) = word := by
  rw [Chars.trimStart, List.dropWhile_append_of_pos hgap]
  cases word with
  | nil => rfl
  | cons c word => exact Chars.trimStart_cons_of_not_blank (hword c rfl)

/-- Behind the digits of a trimmed text only the blanks in front of the word do not count. -/
theorem trim_unit (h : Chars.Trimmed (digits ++ (gap ++ word)))
    (hgap : ∀ c ∈ gap, Chars.isBlank c = true)
    (hword : ∀ c ∈ word.head?, Chars.isBlank c = false) : Chars.trim (gap ++ word) = word :=
  h.trim_suffix.trans (trimStart_gap_append hgap hword)

/-- What is made of a text that begins with a number. -/
theorem parseTrimmed_append (hne : digits ≠ []) (hdigits : ∀ c ∈ digits, c.isDigit = true)
    (hrest : ∀ c ∈ rest.head?, c.isDigit = false) : parseTrimmed (digits ++ rest) =
      if twoTo 64 ≤ Chars.digitsValue digits then
        .error (.tooLarge (String.ofList (digits ++ rest)))
      else
        match TimeUnit.ofChars? (Chars.trim rest) with
        | some u => .ok (u.times (Chars.digitsValue digits))
        | none => .error (.unknownUnit (String.ofList (Chars.trim rest))
            (String.ofList (digits ++ rest))) := by
  obtain ⟨htake, hdrop⟩ := cut_digits hdigits hrest
  have htext : ¬ (digits ++ rest).isEmpty = true := by simp [hne]
  have hnumber : ¬ digits.isEmpty = true := by simp [hne]
  unfold parseTrimmed
  simp only [htake, hdrop]
  exact (if_neg htext).trans (if_neg hnumber)

/-- Every written duration is read, and as what it means. -/
theorem parse_of_denotes {s : String} (h : Denotes s d) : parse s = .ok d := by
  obtain ⟨digits, gap, word, htext, hnumber, hgap, hlasts⟩ := h
  have htrimmed := Chars.trimmed_trim s.toList
  rw [htext] at htrimmed
  have hunit : Chars.trim (gap ++ word) = word :=
    trim_unit htrimmed hgap fun c hc => (hlasts.head? c hc).1
  obtain ⟨u, hu, rfl⟩ := lasts_iff.1 hlasts
  rw [parse, htext, parseTrimmed_append hnumber.ne_nil hnumber.isDigit
    (head?_gap_append hgap fun c hc => (hlasts.head? c hc).2), hunit, hu]
  exact if_neg (Nat.not_le.2 hnumber.fits)

/-- Every other text is refused, and for what is wrong with it. -/
theorem parse_of_refused {s : String} {e : ParseError} (h : Refused s e) :
    parse s = .error e := by
  have htrimmed := Chars.trimmed_trim s.toList
  cases h with
  | empty htext => simp [parse, htext, parseTrimmed]
  | noDigits htext hc => simp [parse, Text.trim, htext, parseTrimmed, hc]
  | @tooLarge digits rest htext hdigits hrest hlarge =>
      -- No digits would be too small a number.
      have hne : digits ≠ [] := by
        rintro rfl
        exact absurd hlarge (by decide)
      rw [parse, Text.trim, htext, parseTrimmed_append hne hdigits hrest]
      exact if_pos hlarge
  | @unknownUnit digits gap word htext hnumber hbehind hgap hword hunknown =>
      rw [htext] at htrimmed
      have hunit : Chars.trim (gap ++ word) = word := trim_unit htrimmed hgap hword
      have hnone : TimeUnit.ofChars? word = none := by
        cases hu : TimeUnit.ofChars? word with
        | none => rfl
        | some u => exact absurd (lasts_iff.2 ⟨u, hu, rfl⟩) (hunknown 0 _)
      rw [parse, Text.trim, htext, parseTrimmed_append hnumber.ne_nil hnumber.isDigit hbehind,
        hunit, hnone]
      exact if_neg (Nat.not_le.2 hnumber.fits)

/-- Every text is a written duration, or something is wrong with it. -/
theorem denotes_or_refused (s : String) : (∃ d, Denotes s d) ∨ ∃ e, Refused s e := by
  cases htext : Chars.trim s.toList with
  | nil => exact .inr ⟨_, .empty htext⟩
  | cons c rest =>
      cases hc : c.isDigit with
      | false => exact .inr ⟨_, .noDigits htext hc⟩
      | true =>
          -- The text as its first digits, the blanks behind them and what is left.
          let digits := (c :: rest).takeWhile Char.isDigit
          let behind := (c :: rest).dropWhile Char.isDigit
          let gap := behind.takeWhile Chars.isBlank
          let word := behind.dropWhile Chars.isBlank
          have hcut : Chars.trim s.toList = digits ++ behind :=
            htext.trans List.takeWhile_append_dropWhile.symm
          have hparts : behind = gap ++ word := List.takeWhile_append_dropWhile.symm
          have hdigits : ∀ d ∈ digits, d.isDigit = true := fun _ => List.mem_takeWhile_imp
          have hbehind : ∀ d ∈ behind.head?, d.isDigit = false :=
            Chars.first_dropWhile Char.isDigit _
          have hgap : ∀ d ∈ gap, Chars.isBlank d = true := fun _ => List.mem_takeWhile_imp
          by_cases hfits : Chars.digitsValue digits < 2 ^ 64
          · have hnumber : IsNumber digits := ⟨by simp [digits, hc], hdigits, hfits⟩
            rw [hparts] at hcut hbehind
            cases hu : TimeUnit.ofChars? word with
            | some u =>
                exact .inl ⟨_, digits, gap, word, hcut, hnumber, hgap, lasts_iff.2 ⟨u, hu, rfl⟩⟩
            | none =>
                refine .inr ⟨_, .unknownUnit hcut hnumber hbehind hgap
                  (Chars.first_dropWhile Chars.isBlank _) fun n d hlasts => ?_⟩
                obtain ⟨u, hsome, -⟩ := lasts_iff.1 hlasts
                rw [hu] at hsome
                cases hsome
          · exact .inr ⟨_, .tooLarge hcut hdigits hbehind (Nat.not_lt.1 hfits)⟩

/-- A text is read as a duration exactly when it is a written one. -/
theorem parse_eq_ok_iff {s : String} : parse s = .ok d ↔ Denotes s d := by
  refine ⟨fun h => ?_, parse_of_denotes⟩
  rcases denotes_or_refused s with ⟨d', hd'⟩ | ⟨e, he⟩
  · rw [parse_of_denotes hd'] at h
    cases h
    exact hd'
  · rw [parse_of_refused he] at h
    cases h

/-- A text is refused exactly for what is wrong with it. -/
theorem parse_eq_error_iff {s : String} {e : ParseError} :
    parse s = .error e ↔ Refused s e := by
  refine ⟨fun h => ?_, parse_of_refused⟩
  rcases denotes_or_refused s with ⟨d, hd⟩ | ⟨e', he'⟩
  · rw [parse_of_denotes hd] at h
    cases h
  · rw [parse_of_refused he'] at h
    cases h
    exact he'

/--
A text is read as a duration exactly if it is a number of at least one digit that fits in 64 bits,
blanks, and at most one unit, with blanks around, and what is read is so many of the unit.  Every
other text is refused, and exactly for what is wrong with it.  Minutes and hours of more seconds
than fit in 64 bits are left aside (`TimeUnit.times`).
-/
theorem parse_decides (s : String) :
    (∀ d, parse s = .ok d ↔ Denotes s d) ∧
    (∀ e, parse s = .error e ↔ Refused s e) ∧
    ((∀ d, ¬ Denotes s d) ↔ ∃ e, parse s = .error e) := by
  refine ⟨fun d => parse_eq_ok_iff, fun e => parse_eq_error_iff, ?_⟩
  constructor
  · intro hno
    rcases denotes_or_refused s with ⟨d, hd⟩ | ⟨e, he⟩
    · exact absurd hd (hno d)
    · exact ⟨e, parse_of_refused he⟩
  · rintro ⟨e, he⟩ d hd
    rw [parse_of_denotes hd] at he
    cases he

/-- Behind the first number there is room for one unit only. -/
example : parse " 1 5s" = .error (.unknownUnit "5s" "1 5s") := by
  decide +kernel

end Duration
end Trainer
