import Mathlib
import Trainer.Proofs.Toml.SeveralLines

/-!
# Written TOML text is read back

Whatever form `Toml.writeString` and `Toml.writeKey` choose for a text, it is read as that text
again, whatever characters the text has (`readString_writeString`, `keyPart_writeKey`).
-/

namespace Trainer
namespace Toml

/-! ## Values -/

theorem dropNewline_eq_self {cs : List Char} (hnewline : cs.head? ≠ some '\n')
    (hreturn : cs.head? ≠ some '\r') : dropNewline cs = cs := by
  unfold dropNewline
  split
  · exact absurd rfl hnewline
  · exact absurd rfl hreturn
  · rfl

/-- The newline that a form on several lines starts with is not part of its text. -/
theorem dropNewline_body {body text rest : List Char}
    (hnewline : '\n' ∉ text → (body ++ rest).head? ≠ some '\n')
    (hreturn : '\n' ∉ text → (body ++ rest).head? ≠ some '\r') :
    dropNewline ((if text.contains '\n' then ['\n'] else []) ++ body ++ rest) = body ++ rest := by
  split
  · rfl
  · rename_i hno
    have hmem : '\n' ∉ text := by simpa using hno
    exact dropNewline_eq_self (hnewline hmem) (hreturn hmem)

theorem readString_basic {cs : List Char} (h : ∀ t, cs ≠ '"' :: '"' :: t) :
    readString ('"' :: cs) = readBasic 0 cs := by
  unfold readString
  split
  · rename_i heq
    exact absurd (List.cons.inj heq).2 (h _)
  · rename_i heq
    rw [(List.cons.inj heq).2]
  · rename_i heq
    exact absurd (List.cons.inj heq).1 (by decide)
  · rename_i heq
    exact absurd (List.cons.inj heq).1 (by decide)
  · rename_i hno _ _
    exact absurd rfl (hno cs)

theorem readString_literal {cs : List Char} (h : ∀ t, cs ≠ '\'' :: '\'' :: t) :
    readString ('\'' :: cs) = readLiteral cs := by
  unfold readString
  split
  · rename_i heq
    exact absurd (List.cons.inj heq).1 (by decide)
  · rename_i heq
    exact absurd (List.cons.inj heq).1 (by decide)
  · rename_i heq
    exact absurd (List.cons.inj heq).2 (h _)
  · rename_i heq
    rw [(List.cons.inj heq).2]
  · rename_i hno
    exact absurd rfl (hno cs)

theorem head?_escapeBasic (c : Char) : (escapeBasic c).head? ≠ some '"' ∧ escapeBasic c ≠ [] := by
  unfold escapeBasic
  split
  · simp
  split
  · simp
  split
  · rw [escapeControl_eq]
    simp
  · rename_i hquote _ _
    simpa using hquote

/-- A text that is written between quotes is read back. -/
theorem readString_writeBasic {rest : List Char} (hrest : rest.head? ≠ some '"')
    (cs : List Char) : readString (writeBasic cs ++ rest) = some (cs, rest) := by
  have hform : writeBasic cs ++ rest = '"' :: (cs.flatMap escapeBasic ++ '"' :: rest) := by
    simp [writeBasic]
  rw [hform, readString_basic, readBasic_flatMap]
  -- Two more quotes would open a text on several lines; no written character starts with one.
  intro t heq
  cases cs with
  | nil =>
      rw [List.flatMap_nil, List.nil_append] at heq
      exact hrest (by rw [(List.cons.inj heq).2]; rfl)
  | cons c cs =>
      obtain ⟨hhead, hne⟩ := head?_escapeBasic c
      obtain ⟨x, e, he⟩ := List.exists_cons_of_ne_nil hne
      rw [List.flatMap_cons, he] at heq
      rw [he] at hhead
      exact hhead (by rw [(List.cons.inj heq).1]; rfl)

/-- A text that is written between single quotes is read back. -/
theorem readString_encloseLiteral {rest : List Char} (hrest : rest.head? ≠ some '\'')
    {cs : List Char} (hquote : '\'' ∉ cs) (hplain : ∀ c ∈ cs, isPlain c = true) :
    readString (enclose ['\''] cs ++ rest) = some (cs, rest) := by
  have hform : enclose ['\''] cs ++ rest = '\'' :: (cs ++ '\'' :: rest) := by
    simp [enclose]
  rw [hform, readString_literal, readLiteral_append hquote hplain]
  intro t heq
  cases cs with
  | nil => exact hrest (by rw [(List.cons.inj heq).2]; rfl)
  | cons c cs =>
      have hc : c = '\'' := (List.cons.inj heq).1
      exact hquote (by simp [hc])

theorem head?_longBasicBody {cs : List Char} (hnewline : '\n' ∉ cs) (rest : List Char) :
    (longBasicBody 0 cs ++ '"' :: rest).head? ≠ some '\n' ∧
      (longBasicBody 0 cs ++ '"' :: rest).head? ≠ some '\r' := by
  cases cs with
  | nil => simp [longBasicBody]
  | cons c cs =>
      have hc : c ≠ '\n' := fun heq => hnewline (by simp [heq])
      simp only [longBasicBody, if_neg hc]
      split
      · simp
      split
      · simp
      split
      · rw [escapeControl_eq]
        simp
      · rename_i hcontrol
        refine ⟨by simpa using hc, ?_⟩
        have hreturn : c ≠ '\r' := by
          rintro rfl
          exact hcontrol (by decide)
        simpa using hreturn

/-- A text that is written between three quotes is read back. -/
theorem readString_encloseLongBasic {rest : List Char} (hrest : rest.head? ≠ some '"')
    (cs : List Char) :
    readString (encloseLong ['"', '"', '"'] (longBasicBody 0 cs) cs ++ rest) =
      some (cs, rest) := by
  have hform : encloseLong ['"', '"', '"'] (longBasicBody 0 cs) cs ++ rest =
      '"' :: '"' :: '"' :: ((if cs.contains '\n' then ['\n'] else []) ++ longBasicBody 0 cs ++
        '"' :: '"' :: '"' :: rest) := by
    simp [encloseLong]
  rw [hform]
  change readLongBasic .read (dropNewline _) = _
  rw [dropNewline_body (fun h => (head?_longBasicBody h _).1)
    (fun h => (head?_longBasicBody h _).2)]
  exact readLongBasic_longBasicBody hrest cs (by omega)

/-- A text that is written between three single quotes is read back. -/
theorem readString_encloseLongLiteral {rest : List Char} (hrest : rest.head? ≠ some '\'')
    {cs : List Char} (hrun : longestRun '\'' 0 cs ≤ 2)
    (hplain : ∀ c ∈ cs, isPlain c = true ∨ c = '\n') :
    readString (encloseLong ['\'', '\'', '\''] cs cs ++ rest) = some (cs, rest) := by
  have hform : encloseLong ['\'', '\'', '\''] cs cs ++ rest =
      '\'' :: '\'' :: '\'' :: ((if cs.contains '\n' then ['\n'] else []) ++ cs ++
        '\'' :: '\'' :: '\'' :: rest) := by
    simp [encloseLong]
  -- A text without newlines starts with nothing that the reader would drop.
  have hhead (x : Char) (hx : isPlain x = false) (hne : x ≠ '\'') (hno : '\n' ∉ cs) :
      (cs ++ '\'' :: '\'' :: '\'' :: rest).head? ≠ some x := by
    cases cs with
    | nil => simpa using hne.symm
    | cons c cs =>
        have hc : isPlain c = true := by
          rcases hplain c (by simp) with hc | rfl
          · exact hc
          · exact absurd (by simp) hno
        intro heq
        rw [List.cons_append, List.head?_cons, Option.some.injEq] at heq
        rw [heq, hx] at hc
        exact absurd hc (by simp)
  rw [hform]
  change readLongLiteral none (dropNewline _) = _
  rw [dropNewline_body (hhead '\n' (by decide) (by decide))
    (hhead '\r' (by decide) (by decide))]
  exact readLongLiteral_append hrest cs hrun hplain

/-- What needs no code is plain or a newline. -/
theorem isPlain_of_not_isCode {c : Char} (h : isCode c = false) : isPlain c = true ∨ c = '\n' := by
  by_cases htab : c = '\t'
  · exact .inl (by simp [isPlain, htab])
  · by_cases hnewline : c = '\n'
    · exact .inr hnewline
    · refine .inl ?_
      have hcontrol : isControl c = false := by simpa [isCode, htab, hnewline] using h
      simp [isPlain, hcontrol]

/-- A written string value is read back, whatever follows on its line but another quote. -/
theorem readString_writeString {rest : List Char} (hbasic : rest.head? ≠ some '"')
    (hliteral : rest.head? ≠ some '\'') (cs : List Char) :
    readString (writeString cs ++ rest) = some (cs, rest) := by
  have hplain (hcodes : cs.any isCode = false) : ∀ c ∈ cs, isPlain c = true ∨ c = '\n' := by
    intro c hc
    refine isPlain_of_not_isCode ?_
    simpa using List.any_eq_false.1 hcodes c hc
  -- The forms, in the order in which the writer tries them.
  simp only [writeString]
  split
  · exact readString_writeBasic hbasic cs
  split
  · rename_i h
    simp only [Bool.and_eq_true, Bool.not_eq_true', List.contains_eq_mem,
      decide_eq_false_iff_not] at h
    refine readString_encloseLiteral hliteral h.2 fun c hc => ?_
    rcases hplain h.1.1 c hc with hc' | rfl
    · exact hc'
    · exact absurd hc h.1.2
  split
  · exact readString_encloseLongBasic hbasic cs
  split
  · rename_i h
    simp only [Bool.and_eq_true, Bool.not_eq_true', decide_eq_true_eq] at h
    exact readString_encloseLongLiteral hliteral h.2 (hplain h.1)
  split
  · exact readString_encloseLongBasic hbasic cs
  · exact readString_writeBasic hbasic cs

/-! ## Keys -/

theorem takeWhile_isBare_append {cs rest : List Char} (hcs : cs.all isBare = true)
    (hrest : ∀ c ∈ rest.head?, isBare c = false) : (cs ++ rest).takeWhile isBare = cs := by
  have hstop : rest.takeWhile isBare = [] := by
    cases rest with
    | nil => rfl
    | cons c rest => simp [hrest c rfl]
  rw [List.takeWhile_append_of_pos (by simpa using hcs), hstop, List.append_nil]

/-- A bare key is read up to its end. -/
theorem keyPart_bare {cs rest : List Char} (hne : cs ≠ []) (hcs : cs.all isBare = true)
    (hrest : ∀ c ∈ rest.head?, isBare c = false) :
    keyPart (cs ++ rest) = some (String.ofList cs, rest) := by
  have hhead : ∀ t, cs ++ rest ≠ '"' :: t ∧ cs ++ rest ≠ '\'' :: t := by
    intro t
    cases cs with
    | nil => exact absurd rfl hne
    | cons c cs =>
        simp only [List.all_cons, Bool.and_eq_true] at hcs
        constructor
        · intro heq
          rw [(List.cons.inj heq).1] at hcs
          exact absurd hcs.1 (by decide)
        · intro heq
          rw [(List.cons.inj heq).1] at hcs
          exact absurd hcs.1 (by decide)
  unfold keyPart
  split
  · rename_i t heq
    exact absurd heq (hhead t).1
  · rename_i t heq
    exact absurd heq (hhead t).2
  · have hempty : cs.isEmpty = false := by simpa using hne
    simp [takeWhile_isBare_append hcs hrest, hempty]

/-- A written key is read back, whatever follows that could not go on with it. -/
theorem keyPart_writeKey {rest : List Char} (hrest : ∀ c ∈ rest.head?, isBare c = false)
    (cs : List Char) : keyPart (writeKey cs ++ rest) = some (String.ofList cs, rest) := by
  have hbasic : keyPart (writeBasic cs ++ rest) = some (String.ofList cs, rest) := by
    have hform : writeBasic cs ++ rest = '"' :: (cs.flatMap escapeBasic ++ '"' :: rest) := by
      simp [writeBasic]
    rw [hform, keyPart, readBasic_flatMap]
    rfl
  simp only [writeKey]
  split
  · rename_i h
    simp only [Bool.and_eq_true, Bool.not_eq_true', List.isEmpty_eq_false_iff] at h
    exact keyPart_bare h.1 h.2 hrest
  split
  · exact hbasic
  split
  · rename_i h
    simp only [Bool.and_eq_true, Bool.not_eq_true', List.contains_eq_mem,
      decide_eq_false_iff_not, List.any_eq_false] at h
    have hplain : ∀ c ∈ cs, isPlain c = true := by
      intro c hc
      have hcode := h.1 c hc
      by_cases htab : c = '\t'
      · simp [isPlain, htab]
      · have hcontrol : isControl c = false := by simpa [htab] using hcode
        simp [isPlain, hcontrol]
    have hform : enclose ['\''] cs ++ rest = '\'' :: (cs ++ '\'' :: rest) := by
      simp [enclose]
    rw [hform, keyPart, readLiteral_append h.2 hplain]
    rfl
  · exact hbasic

end Toml
end Trainer
