import Mathlib
import Trainer.Shell.Evaluation

/-!
# Words in command lines

How the shell reads a word that is made of characters only, with and without quotes, and adds it to
the command in which it stands.

* A reader that has taken some characters is `Reader.skipped`; all lemmas say how far the reader gets
  and what it makes of what it has passed.
* `ReadsAs` says that a text is read as a word wherever it stands.  There is one lemma for each way
  of quoting, and `readWord` has one equation for each.
* Behind the first word of a command, a text that begins a word, and no redirection, adds a word
  (`readSimple_word`).
-/

namespace Trainer
namespace Shell

/-! ## The reader -/

namespace Reader

variable {r : Reader} {c : Char} {cs : Bytes}

def advanced (r : Reader) : Reader :=
  match r.rest with
  | [] => r
  | '\n' :: cs => ⟨cs, r.line + 1 + r.taken, 0⟩
  | _ :: cs => { r with rest := cs }

def skipped : Nat → Reader → Reader
  | 0, r => r
  | n + 1, r => r.advanced.skipped n

theorem rest_advanced (r : Reader) : r.advanced.rest = r.rest.drop 1 := by
  unfold advanced
  split
  case h_1 hrest => simp [hrest]
  case h_2 cs hrest => simp [hrest]
  case h_3 c cs _ hrest => simp [hrest]

theorem rest_skipped (n : Nat) (r : Reader) : (r.skipped n).rest = r.rest.drop n := by
  induction n generalizing r with
  | zero => rfl
  | succ n ih =>
      rw [skipped, ih, rest_advanced, List.drop_drop, Nat.add_comm]

theorem rest_skipped_of_append {front : Bytes} (hrest : r.rest = front ++ cs) :
    (r.skipped front.length).rest = cs := by
  rw [rest_skipped, hrest, List.drop_left]

theorem skipped_add (m n : Nat) (r : Reader) : r.skipped (m + n) = (r.skipped m).skipped n := by
  induction m generalizing r with
  | zero => rw [Nat.zero_add, skipped]
  | succ m ih => rw [Nat.succ_add, skipped, ih, skipped]

end Reader

namespace Read

variable {α β : Type} {x : Read α} {a : α} {r r' : Reader}

theorem bind_ok (f : α → Read β) (hx : x r = .ok (a, r')) : (x >>= f) r = f a r' := by
  show (x r >>= fun p => f p.1 p.2) = f a r'
  rw [hx]
  rfl

theorem rest_bind (f : Bytes → Read β) (r : Reader) : (rest >>= f) r = f r.rest r := rfl

theorem peek_bind (f : Option Char → Read β) (r : Reader) :
    (peek >>= f) r = f r.rest.head? r := rfl

theorem advance_bind (f : Unit → Read β) (r : Reader) :
    (advance >>= f) r = f () r.advanced := rfl

theorem skip_eq_ok (n : Nat) (r : Reader) : skip n r = .ok ((), r.skipped n) := by
  induction n generalizing r with
  | zero => rfl
  | succ n ih => exact ih r.advanced

theorem skip_bind (n : Nat) (f : Unit → Read β) (r : Reader) :
    (skip n >>= f) r = f () (r.skipped n) :=
  bind_ok f (skip_eq_ok n r)

end Read

/-! ## Reading a word -/

/-- A character that means itself where nothing is quoted. -/
structure Ordinary (c : Char) : Prop where
  /-- It does not end a word. -/
  inside : isMeta c = false
  not_quoting : c ≠ '\\' ∧ c ≠ '\'' ∧ c ≠ '"'
  not_expanding : c ≠ '$' ∧ c ≠ '\x60'
  not_pattern : c ≠ '*' ∧ c ≠ '?' ∧ c ≠ '['
  /-- It begins neither a comment nor the name of a home directory. -/
  not_first : c ≠ '#' ∧ c ≠ '~'

variable {c : Char} {cs text inner after : Bytes} {w acc : Word} {fuel : Nat} {r r' : Reader}

theorem readWord_end (hend : ∀ c ∈ r.rest.head?, isMeta c = true) :
    readWord false fuel acc r = .ok (acc.reverse, r) := by
  cases fuel with
  | zero => rfl
  | succ fuel =>
      rw [readWord, Read.rest_bind]
      change _ = (pure acc.reverse : Read Word) r
      refine congrFun ?_ r
      split
      case h_1 => rfl
      case h_8 hrest =>
        rw [hrest] at hend
        simp [hend _ rfl]
      -- What begins something else does not end a word.
      all_goals
        rename_i hrest
        rw [hrest] at hend
        exact absurd (hend _ rfl) (by decide)

theorem readWord_plain (hc : Ordinary c) (hrest : r.rest = c :: cs) :
    readWord false (fuel + 1) acc r = readWord false fuel (.char c false :: acc) r.advanced := by
  obtain ⟨hmeta, ⟨hback, hsingle, hdouble⟩, ⟨hdollar, htick⟩, -, -⟩ := hc
  rw [readWord, Read.rest_bind, hrest]
  refine (congrFun ?_ r).trans
    (Read.advance_bind (fun _ => readWord false fuel (.char c false :: acc)) r)
  split
  -- The last equation of the reader is for what nothing else is said of.
  case h_8 heq =>
    cases heq
    simp [hmeta]
  all_goals simp_all

theorem readWord_escaped (hc : c ≠ '\n') (hrest : r.rest = '\\' :: c :: cs) :
    readWord false (fuel + 1) acc r = readWord false fuel (.char c true :: acc) (r.skipped 2) := by
  rw [readWord, Read.rest_bind, hrest]
  simp only
  rw [Read.skip_bind]

theorem readWord_quoted (hinner : '\'' ∉ inner) (hrest : r.rest = '\'' :: (inner ++ '\'' :: cs)) :
    readWord false (fuel + 1) acc r =
      readWord false fuel ((inner.map (Part.char · true)).reverse ++ .quotes :: acc)
        (r.skipped (inner.length + 2)) := by
  have htake : (inner ++ '\'' :: cs).takeWhile (· != '\'') = inner := by
    rw [List.takeWhile_append_of_pos]
    · simp
    · intro d hd
      simpa using ne_of_mem_of_not_mem hd hinner
  rw [readWord, Read.rest_bind, hrest]
  simp only [htake]
  rw [if_neg (by simp), Read.skip_bind]

/-- A text is read as a word, as far as nothing comes behind it that belongs to the word. -/
def ReadsAs (text : Bytes) (w : Word) : Prop :=
  ∀ {fuel : Nat} {acc : Word} {r : Reader} {after : Bytes}, r.rest = text ++ after →
    (∀ c ∈ after.head?, isMeta c = true) → text.length ≤ fuel →
    readWord false fuel acc r = .ok (acc.reverse ++ w, r.skipped text.length)

namespace ReadsAs

theorem nil : ReadsAs [] [] := by
  intro fuel acc r after hrest hafter _
  rw [readWord_end (by simpa [hrest] using hafter), List.append_nil]
  rfl

theorem plain (hc : Ordinary c) (h : ReadsAs text w) :
    ReadsAs (c :: text) (.char c false :: w) := by
  intro fuel acc r after hrest hafter hfuel
  obtain ⟨fuel, rfl⟩ : ∃ k, fuel = k + 1 := Nat.exists_eq_add_one.2 (by simp at hfuel; omega)
  have hrest' : (r.skipped 1).rest = text ++ after := by simp [Reader.rest_skipped, hrest]
  rw [readWord_plain hc hrest]
  refine (h hrest' hafter (by simpa using hfuel)).trans ?_
  rw [← Reader.skipped_add, List.reverse_cons, List.append_assoc, List.singleton_append,
    List.length_cons, Nat.add_comm]

theorem escaped (hc : c ≠ '\n') (h : ReadsAs text w) :
    ReadsAs ('\\' :: c :: text) (.char c true :: w) := by
  intro fuel acc r after hrest hafter hfuel
  obtain ⟨fuel, rfl⟩ : ∃ k, fuel = k + 1 := Nat.exists_eq_add_one.2 (by simp at hfuel; omega)
  have hrest' : (r.skipped 2).rest = text ++ after := by simp [Reader.rest_skipped, hrest]
  rw [readWord_escaped hc hrest, h hrest' hafter (by simp at hfuel; omega), ← Reader.skipped_add,
    List.reverse_cons, List.append_assoc, List.singleton_append, Nat.add_comm]
  rfl

theorem quoted (hinner : '\'' ∉ inner) (h : ReadsAs text w) :
    ReadsAs ('\'' :: (inner ++ '\'' :: text)) (.quotes :: (inner.map (Part.char · true) ++ w)) := by
  intro fuel acc r after hrest hafter hfuel
  simp only [List.length_cons, List.length_append] at hfuel ⊢
  obtain ⟨fuel, rfl⟩ : ∃ k, fuel = k + 1 := Nat.exists_eq_add_one.2 (by omega)
  have hopen : r.rest = '\'' :: (inner ++ '\'' :: (text ++ after)) := by simpa using hrest
  have hrest' : (r.skipped (inner.length + 2)).rest = text ++ after := by
    simp [Reader.rest_skipped, hopen]
  have hlength : inner.length + (text.length + 1) + 1 = inner.length + 2 + text.length := by omega
  rw [readWord_quoted hinner hopen, h hrest' hafter (by omega), ← Reader.skipped_add, hlength]
  simp

end ReadsAs

/-! ## Reading the words of a command -/

/-- A text that begins a word, and neither a comment nor a joined line. -/
def BeginsWord (cs : Bytes) : Prop :=
  ∃ c rest, cs = c :: rest ∧ isMeta c = false ∧ c ≠ '#' ∧ ¬ (c = '\\' ∧ rest.head? = some '\n')

theorem skipBlanks_of_beginsWord (h : BeginsWord r.rest) : skipBlanks fuel r = .ok ((), r) := by
  obtain ⟨c, rest, hrest, hmeta, hcomment, hjoin⟩ := h
  cases fuel with
  | zero => rfl
  | succ fuel =>
      rw [skipBlanks, Read.rest_bind, hrest]
      change _ = (pure () : Read Unit) r
      refine congrFun ?_ r
      split
      case h_5 => rfl
      case h_3 heq =>
        cases heq
        exact absurd ⟨rfl, rfl⟩ hjoin
      case h_4 heq =>
        cases heq
        exact absurd rfl hcomment
      all_goals
        rename_i heq
        cases heq
        exact absurd hmeta (by decide)

/-- Blanks before a word are dropped. -/
theorem skipBlanks_append {blanks : Bytes} (hblanks : ∀ c ∈ blanks, c = ' ' ∨ c = '\t')
    (hrest : r.rest = blanks ++ cs) (hcs : BeginsWord cs) (hfuel : blanks.length ≤ fuel) :
    skipBlanks fuel r = .ok ((), r.skipped blanks.length) := by
  induction blanks generalizing fuel r with
  | nil => exact skipBlanks_of_beginsWord (by simpa [hrest] using hcs)
  | cons c blanks ih =>
      rw [List.forall_mem_cons] at hblanks
      obtain ⟨fuel, rfl⟩ : ∃ k, fuel = k + 1 := Nat.exists_eq_add_one.2 (by simp at hfuel; omega)
      have hrest' : (r.skipped 1).rest = blanks ++ cs := by simp [Reader.rest_skipped, hrest]
      have hskip := ih hblanks.2 hrest' (by simpa using hfuel)
      rw [← Reader.skipped_add, Nat.add_comm] at hskip
      rw [List.length_cons, ← hskip, skipBlanks, Read.rest_bind, hrest]
      -- A space and a tab are dropped alike, by an equation each.
      rcases hblanks.1 with rfl | rfl
      · rfl
      · rfl

/-- A text that begins no redirection: not even behind a digit is there a sign of one. -/
def NoRedirect (cs : Bytes) : Prop :=
  ∀ c ∈ (cs.drop ((cs.take 1).takeWhile Char.isDigit).length).head?, c ≠ '<' ∧ c ≠ '>'

theorem readRedirect_none (h : NoRedirect r.rest) : readRedirect fuel r = .ok (none, r) := by
  cases fuel with
  | zero => rfl
  | succ fuel =>
      rw [readRedirect, Read.rest_bind]
      change _ = (pure none : Read (Option Redirect)) r
      refine congrFun ?_ r
      simp only
      split
      case h_10 => rfl
      -- All other equations are for a sign of a redirection.
      all_goals
        rename_i heq
        rw [NoRedirect, heq] at h
        simp at h

variable {line : Nat} {assigned : List (Bytes × Word)} {words : List Word}
  {redirects : List Redirect} {blanks : Bytes}

/-- A word behind other ones is added to them. -/
theorem readSimple_word (hwords : words ≠ []) (hblanks : ∀ c ∈ blanks, c = ' ' ∨ c = '\t')
    (hrest : r.rest = blanks ++ cs) (hbegins : BeginsWord cs) (hredirect : NoRedirect cs)
    (hword : readWord false fuel [] (r.skipped blanks.length) = .ok (w, r'))
    (hfuel : blanks.length ≤ fuel) :
    readSimple (fuel + 1) line assigned words redirects r =
      readSimple fuel line assigned (w :: words) redirects r' := by
  have hrest' : (r.skipped blanks.length).rest = cs := Reader.rest_skipped_of_append hrest
  have hskip := skipBlanks_append hblanks hrest hbegins hfuel
  have hnone : readRedirect fuel (r.skipped blanks.length) =
      .ok (none, r.skipped blanks.length) :=
    readRedirect_none (by rwa [hrest'])
  obtain ⟨c, rest, heq, hmeta, -, -⟩ := hbegins
  rw [readSimple.eq_def]
  simp only
  rw [Read.bind_ok _ hskip, Read.bind_ok _ hnone]
  simp only
  rw [Read.peek_bind, hrest', heq]
  refine Eq.trans (congrFun ?_ _)
    (Read.bind_ok (fun w => readSimple fuel line assigned (w :: words) redirects) hword)
  split
  -- A parenthesis would make a function of the command, but it ends words.
  case h_1 hparen =>
    cases hparen
    cases hmeta
  -- With a word before it, the new one is no assignment.
  case h_2 =>
    obtain ⟨first, words, rfl⟩ := List.exists_cons_of_ne_nil hwords
    simp [hmeta]

end Shell
end Trainer
