import Mathlib
import Trainer.Proofs.Toml.OneLine

/-!
# TOML text on several lines

The reader of a text on several lines looks ahead whenever it meets a quote.  A written body never
has more than two quotes in a row that are not escaped (`longBasicBody_shortRun`), so the reader
either sees a short run, or the run that ends the body together with the closing quotes
(`quoteRun_cases`).
-/

namespace Trainer
namespace Toml

/-! ## Runs of quotes -/

/-- The quotes at the front, with `run` more directly before them, are at most two. -/
def ShortRun (q : Char) (run : Nat) (cs : List Char) : Prop :=
  ∃ k, run + k ≤ 2 ∧
    (cs = List.replicate k q ∨ ∃ x tail, x ≠ q ∧ cs = List.replicate k q ++ x :: tail)

theorem ShortRun.cons {q : Char} {run : Nat} {cs : List Char} (h : ShortRun q (run + 1) cs) :
    ShortRun q run (q :: cs) := by
  obtain ⟨k, hk, hcs | ⟨x, tail, hx, hcs⟩⟩ := h
  · exact ⟨k + 1, by omega, .inl (by rw [hcs, List.replicate_succ])⟩
  · refine ⟨k + 1, by omega, .inr ⟨x, tail, hx, ?_⟩⟩
    rw [hcs, List.replicate_succ, List.cons_append]

theorem shortRun_cons_of_ne {q x : Char} {run : Nat} (hrun : run ≤ 2) (hx : x ≠ q)
    (tail : List Char) : ShortRun q run (x :: tail) :=
  ⟨0, hrun, .inr ⟨x, tail, hx, rfl⟩⟩

theorem ShortRun.mono {q : Char} {a b : Nat} {cs : List Char} (hab : a ≤ b)
    (h : ShortRun q b cs) : ShortRun q a cs := by
  obtain ⟨k, hk, hcs⟩ := h
  exact ⟨k, by omega, hcs⟩

/-- All quotes of a run are counted, up to five. -/
theorem quoteRun_replicate {q : Char} {n : Nat} {tail : List Char} (hn : n ≤ 5)
    (htail : tail.head? ≠ some q) : quoteRun q (List.replicate n q ++ tail) = n := by
  have hstop : tail.takeWhile (· == q) = [] := by
    cases tail with
    | nil => rfl
    | cons x tail =>
        have hx : x ≠ q := fun heq => htail (by simp [heq])
        simp [hx]
  rw [quoteRun, List.takeWhile_append_of_pos (by simp), hstop]
  simp [hn]

/-- At a quote before a short run and closing quotes, the reader sees how the text goes on. -/
theorem quoteRun_cases {q : Char} {cs rest : List Char} (h : ShortRun q 1 cs)
    (hrest : rest.head? ≠ some q) :
    (∃ k, cs = List.replicate k q ∧ quoteRun q (q :: (cs ++ q :: q :: q :: rest)) = k + 4) ∨
      quoteRun q (q :: (cs ++ q :: q :: q :: rest)) < 3 := by
  obtain ⟨k, hk, rfl | ⟨x, tail, hx, rfl⟩⟩ := h
  -- The text ends here, so its quotes and the closing ones make one run.
  · refine .inl ⟨k, rfl, ?_⟩
    have heq : q :: (List.replicate k q ++ q :: q :: q :: rest) =
        List.replicate (k + 4) q ++ rest := by
      rw [show k + 4 = (k + 1) + 3 by omega, List.replicate_add, List.append_assoc]
      rfl
    rw [heq, quoteRun_replicate (by omega) hrest]
  -- The run ends within the text.
  · refine .inr ?_
    have heq : q :: (List.replicate k q ++ x :: tail ++ q :: q :: q :: rest) =
        List.replicate (k + 1) q ++ x :: (tail ++ q :: q :: q :: rest) := by
      simp [List.replicate_succ]
    rw [heq, quoteRun_replicate (by omega) (by simpa using hx)]
    omega

/-- The three quotes at the end are no part of the text. -/
theorem quoteRun_closing {q : Char} {rest : List Char} (hrest : rest.head? ≠ some q) :
    quoteRun q (q :: q :: q :: rest) = 3 :=
  quoteRun_replicate (n := 3) (by omega) hrest

/-- A longer run before a text makes no run in it shorter. -/
theorem longestRun_mono (q : Char) (cs : List Char) : ∀ {a b : Nat}, a ≤ b →
    longestRun q a cs ≤ longestRun q b cs := by
  induction cs with
  | nil => exact id
  | cons c cs ih =>
      intro a b hab
      simp only [longestRun]
      split
      · exact ih (by omega)
      · omega

/-- A text whose longest run is short has short runs only. -/
theorem shortRun_of_longestRun {q : Char} {cs : List Char} : ∀ {run : Nat},
    longestRun q run cs ≤ 2 → ShortRun q run cs := by
  induction cs with
  | nil => exact fun h => ⟨0, h, .inl rfl⟩
  | cons c cs ih =>
      intro run h
      by_cases hc : c = q
      · subst hc
        simp only [longestRun, if_true] at h
        exact (ih h).cons
      · simp only [longestRun, if_neg hc] at h
        exact shortRun_cons_of_ne (by omega) hc cs

/-! ## Text on several lines -/

theorem readLongBasic_skip {e : List Char} (hne : e ≠ []) (tail : List Char) :
    readLongBasic (.skip e.length) (e ++ tail) = readLongBasic .read tail := by
  induction e with
  | nil => exact absurd rfl hne
  | cons c e ih =>
      cases e with
      | nil => rfl
      | cons d e => exact ih (by simp)

/-- Quotes before the closing three belong to the text. -/
theorem readLongBasic_quotes (k : Nat) (rest : List Char) :
    readLongBasic (.quotes k) (List.replicate k '"' ++ '"' :: '"' :: '"' :: rest) =
      some (List.replicate k '"', rest) := by
  induction k with
  | zero => rfl
  | succ k ih =>
      rw [List.replicate_succ, List.cons_append, readLongBasic, ih]
      rfl

/-- Single quotes before the closing three belong to the text. -/
theorem readLongLiteral_quotes (k : Nat) (rest : List Char) :
    readLongLiteral (some k) (List.replicate k '\'' ++ '\'' :: '\'' :: '\'' :: rest) =
      some (List.replicate k '\'', rest) := by
  induction k with
  | zero => rfl
  | succ k ih =>
      rw [List.replicate_succ, List.cons_append, readLongLiteral, ih]
      rfl

/-- How the next character of a text on several lines is read. -/
theorem readLongBasic_read (c : Char) (rest : List Char) : readLongBasic .read (c :: rest) =
    if c = '"' then
      if quoteRun '"' (c :: rest) < 3 then consText c (readLongBasic .read rest)
      else if quoteRun '"' (c :: rest) = 3 then some ([], rest.drop 2)
      else consText c (readLongBasic (.quotes (quoteRun '"' (c :: rest) - 4)) rest)
    else if c = '\\' then
      if atNewline (rest.dropWhile fun d => d == ' ' || d == '\t') then readLongBasic .join rest
      else
        match escape? rest with
        | some (d, n) => consText d (readLongBasic (.skip n) rest)
        | none => none
    else if isPlain c || c == '\n' || (c == '\r' && rest.head? == some '\n') then
      consText c (readLongBasic .read rest)
    else none := rfl

/-- An escape does not start with what may stand between a backslash and the end of its line. -/
def Inked (e : List Char) : Prop :=
  ∃ x e', e = x :: e' ∧ x ≠ ' ' ∧ x ≠ '\t' ∧ x ≠ '\n' ∧ x ≠ '\r'

theorem inked_controlCode (c : Char) : Inked (controlCode c) := by
  unfold controlCode escapeControl
  repeat' split
  all_goals exact ⟨_, _, rfl, by decide, by decide, by decide, by decide⟩

theorem atNewline_of_inked {e : List Char} (h : Inked e) (tail : List Char) :
    atNewline ((e ++ tail).dropWhile fun d => d == ' ' || d == '\t') = false := by
  obtain ⟨x, e', rfl, hspace, htab, hnewline, hreturn⟩ := h
  have hkeep : (x == ' ' || x == '\t') = false := by simp [hspace, htab]
  rw [List.cons_append, List.dropWhile_cons, hkeep]
  simp only [Bool.false_eq_true, if_false]
  unfold atNewline
  split
  · rename_i heq
    exact absurd (List.cons.inj heq).1 hnewline
  · rename_i heq
    exact absurd (List.cons.inj heq).1 hreturn
  · rfl

/-- In a text of several lines, a code is read as the character it stands for. -/
theorem readLongBasic_escape {e : List Char} {c : Char} (tail : List Char) (hinked : Inked e)
    (h : escape? (e ++ tail) = some (c, e.length)) :
    readLongBasic .read ('\\' :: (e ++ tail)) = consText c (readLongBasic .read tail) := by
  have hne : e ≠ [] := by
    obtain ⟨x, e', rfl, -⟩ := hinked
    simp
  have hquote : ('\\' : Char) ≠ '"' := by decide
  rw [readLongBasic_read, if_neg hquote, if_pos rfl, atNewline_of_inked hinked]
  simp only [Bool.false_eq_true, if_false, h, readLongBasic_skip hne]

/-- In a text of several lines, plain characters and newlines are read as themselves. -/
theorem readLongBasic_plain {c : Char} (hquote : c ≠ '"') (hback : c ≠ '\\')
    (hplain : isPlain c = true ∨ c = '\n') (tail : List Char) :
    readLongBasic .read (c :: tail) = consText c (readLongBasic .read tail) := by
  have hread : (isPlain c || c == '\n' || (c == '\r' && tail.head? == some '\n')) = true := by
    rcases hplain with hplain | rfl
    · simp [hplain]
    · simp
  rw [readLongBasic_read, if_neg hquote, if_neg hback, if_pos hread]

/-- The writer breaks up runs of quotes before they can close the text. -/
theorem longBasicBody_shortRun (cs : List Char) : ∀ {run : Nat}, run ≤ 2 →
    ShortRun '"' run (longBasicBody run cs) := by
  induction cs with
  | nil => exact fun h => ⟨0, h, .inl rfl⟩
  | cons c cs ih =>
      intro run hrun
      unfold longBasicBody
      split
      · split
        · exact shortRun_cons_of_ne hrun (by decide) _
        · exact (ih (by omega)).cons
      split
      · exact shortRun_cons_of_ne hrun (by decide) _
      split
      · rename_i hquote _ _
        exact shortRun_cons_of_ne hrun hquote _
      split
      · rw [escapeControl_eq]
        exact shortRun_cons_of_ne hrun (by decide) _
      · rename_i hquote _ _ _
        exact shortRun_cons_of_ne hrun hquote _

/-- A body of nothing but quotes stands for just these quotes. -/
theorem eq_replicate_of_longBasicBody (k : Nat) : ∀ {run : Nat} {cs : List Char},
    longBasicBody run cs = List.replicate k '"' → cs = List.replicate k '"' := by
  induction k with
  | zero =>
      intro run cs h
      cases cs with
      | nil => rfl
      | cons c cs =>
          simp only [longBasicBody, List.replicate_zero] at h
          split_ifs at h
          rw [escapeControl_eq] at h
          simp at h
  | succ k ih =>
      intro run cs h
      cases cs with
      | nil => simp [longBasicBody, List.replicate_succ] at h
      | cons c cs =>
          -- Whatever is not written as a bare quote starts with another character.
          simp only [longBasicBody, List.replicate_succ] at h
          split_ifs at h with hc hrun hback hnewline hcontrol
          · exact absurd (List.cons.inj h).1 (by decide)
          · rw [ih (List.cons.inj h).2, hc, List.replicate_succ]
          · exact absurd (List.cons.inj h).1 (by decide)
          · exact absurd (List.cons.inj h).1 hc
          · rw [escapeControl_eq] at h
            exact absurd (List.cons.inj h).1 (by decide)
          · exact absurd (List.cons.inj h).1 hc

/-- A basic body between its marks is read back. -/
theorem readLongBasic_longBasicBody {rest : List Char} (hrest : rest.head? ≠ some '"')
    (cs : List Char) : ∀ {run : Nat}, run ≤ 2 →
      readLongBasic .read (longBasicBody run cs ++ '"' :: '"' :: '"' :: rest) =
        some (cs, rest) := by
  induction cs with
  | nil =>
      intro run _
      rw [longBasicBody, List.nil_append, readLongBasic_read, if_pos rfl, quoteRun_closing hrest]
      rfl
  | cons c cs ih =>
      intro run hrun
      unfold longBasicBody
      split
      case isTrue hquote =>
        subst hquote
        split
        -- The third quote in a row is written as an escape.
        case isTrue =>
          have hinked : Inked ['"'] :=
            ⟨'"', [], rfl, by decide, by decide, by decide, by decide⟩
          have hread := readLongBasic_escape (longBasicBody 0 cs ++ '"' :: '"' :: '"' :: rest)
            hinked rfl
          rw [ih (by omega)] at hread
          exact hread
        case isFalse htwo =>
          -- What is seen from this quote decides whether the closing ones are in sight.
          have hbody : ShortRun '"' (run + 1) (longBasicBody (run + 1) cs) :=
            longBasicBody_shortRun cs (by omega)
          have hshort : ShortRun '"' 1 (longBasicBody (run + 1) cs) := hbody.mono (by omega)
          rw [List.cons_append, readLongBasic_read, if_pos rfl]
          rcases quoteRun_cases hshort hrest with ⟨k, hquotes, hseen⟩ | hfew
          · rw [hseen, if_neg (by omega), if_neg (by omega), hquotes, Nat.add_sub_cancel,
              readLongBasic_quotes, eq_replicate_of_longBasicBody k hquotes]
            rfl
          · rw [if_pos hfew, ih (by omega)]
            rfl
      case isFalse hquote =>
        split
        case isTrue hback =>
          subst hback
          have hinked : Inked ['\\'] :=
            ⟨'\\', [], rfl, by decide, by decide, by decide, by decide⟩
          have hread := readLongBasic_escape (longBasicBody 0 cs ++ '"' :: '"' :: '"' :: rest)
            hinked rfl
          rw [ih (by omega)] at hread
          exact hread
        case isFalse hback =>
          split
          case isTrue hnewline =>
            rw [List.cons_append, readLongBasic_plain hquote hback (.inr hnewline),
              ih (by omega)]
            rfl
          case isFalse =>
            split
            case isTrue hcontrol =>
              rw [escapeControl_eq, List.append_assoc, List.cons_append,
                readLongBasic_escape _ (inked_controlCode c) (escape?_controlCode hcontrol _),
                ih (by omega)]
              rfl
            case isFalse hcontrol =>
              rw [List.cons_append,
                readLongBasic_plain hquote hback (.inl (by simp [isPlain, hcontrol])),
                ih (by omega)]
              rfl

/-- A literal body between its marks is read back. -/
theorem readLongLiteral_append {rest : List Char} (hrest : rest.head? ≠ some '\'')
    (cs : List Char) : longestRun '\'' 0 cs ≤ 2 →
      (∀ c ∈ cs, isPlain c = true ∨ c = '\n') →
      readLongLiteral none (cs ++ '\'' :: '\'' :: '\'' :: rest) = some (cs, rest) := by
  induction cs with
  | nil =>
      intro _ _
      rw [List.nil_append, readLongLiteral, if_pos rfl, quoteRun_closing hrest]
      rfl
  | cons c cs ih =>
      intro hrun hplain
      have hplain' : ∀ d ∈ cs, isPlain d = true ∨ d = '\n' :=
        fun d hd => hplain d (List.mem_cons_of_mem c hd)
      by_cases hquote : c = '\''
      · subst hquote
        have hrun₁ : longestRun '\'' 1 cs ≤ 2 := by simpa [longestRun] using hrun
        have hrun₀ := (longestRun_mono '\'' cs (a := 0) (b := 1) (by omega)).trans hrun₁
        rw [List.cons_append, readLongLiteral, if_pos rfl]
        rcases quoteRun_cases (shortRun_of_longestRun hrun₁) hrest with ⟨k, rfl, hseen⟩ | hfew
        -- As for basic text, what is seen from this quote decides.
        · rw [hseen, if_neg (by omega), if_neg (by omega), Nat.add_sub_cancel,
            readLongLiteral_quotes]
          rfl
        · rw [if_pos hfew, ih hrun₀ hplain']
          rfl
      · have hrun₀ : longestRun '\'' 0 cs ≤ 2 := by
          simp only [longestRun, if_neg hquote] at hrun
          omega
        have hread : (isPlain c || c == '\n' || (c == '\r' &&
            (cs ++ '\'' :: '\'' :: '\'' :: rest).head? == some '\n')) = true := by
          rcases hplain c (by simp) with hc | rfl
          · simp [hc]
          · simp
        rw [List.cons_append, readLongLiteral, if_neg hquote, if_pos hread, ih hrun₀ hplain']
        rfl

end Toml
end Trainer
