import Mathlib
import Trainer.Proofs.Shell.Reading

/-!
# Words that are expanded to themselves

A word without expansions, of which the unquoted characters are ordinary (`Inert`), is expanded to
the text of its characters, whatever the variables of the shell, its options and the files around it
are (`Inert.expandsTo`): no tilde in front is replaced, nothing in it is split, and it is no pattern
for file names.
-/

namespace Trainer
namespace Shell

variable {value : Bytes} {w : Word} {fuel : Nat}

/-- A word of characters that mean themselves, and its text. -/
inductive Inert : Word → Bytes → Prop where
  | nil : Inert [] []
  | char {c : Char} {q : Bool} {w : Word} {value : Bytes} : (q = false → Ordinary c) →
      Inert w value → Inert (.char c q :: w) (c :: value)
  | quotes {w : Word} {value : Bytes} : Inert w value → Inert (.quotes :: w) value

/-- Quoted characters in front stand for themselves. -/
theorem Inert.quoted_append (inner : Bytes) (h : Inert w value) :
    Inert (inner.map (Part.char · true) ++ w) (inner ++ value) := by
  induction inner with
  | nil => exact h
  | cons c inner ih => exact .char (fun hq => by cases hq) ih

/-- The elements of a word that holds no expansions. -/
def elements (w : Word) : List Element :=
  w.map fun p => match p with
    | .char c q => .fixed c q
    | _ => .quotes

theorem Sh.bind_ok {α β : Type} {x : Sh α} {a : α} {s s' : Session} (f : α → Sh β)
    (hx : x s = .ok a s') : (x >>= f) s = f a s' := by
  show EStateM.bind x f s = f a s'
  rw [EStateM.bind, hx]

namespace Inert

variable {s : Session}

/-- An inert word has nothing to be expanded. -/
theorem expandParts_eq (h : Inert w value) (hfuel : w.length < fuel) :
    expandParts fuel w s = .ok (elements w) s := by
  induction h generalizing fuel with
  | nil =>
      obtain ⟨fuel, rfl⟩ : ∃ k, fuel = k + 1 := Nat.exists_eq_add_one.2 (by omega)
      rw [expandParts]
      rfl
  | char _ _ ih =>
      obtain ⟨fuel, rfl⟩ : ∃ k, fuel = k + 1 := Nat.exists_eq_add_one.2 (by omega)
      rw [expandParts]
      exact Sh.bind_ok _ (ih (by simpa using hfuel))
  | quotes _ ih =>
      obtain ⟨fuel, rfl⟩ : ∃ k, fuel = k + 1 := Nat.exists_eq_add_one.2 (by omega)
      rw [expandParts]
      exact Sh.bind_ok _ (ih (by simpa using hfuel))

theorem tilde_eq (h : Inert w value) : tilde w s = .ok w s := by
  unfold tilde
  change _ = (pure w : Sh Word) s
  refine congrFun ?_ s
  split
  case h_1 =>
    cases h with
    | char hc _ => exact absurd rfl (hc rfl).not_first.2
  case h_2 => rfl

theorem plainChars_eq (h : Inert w value) : plainChars (joinElements (elements w)) = value := by
  induction h with
  | nil => rfl
  | char _ _ ih => exact congrArg (_ :: ·) ih
  | quotes _ ih => exact ih

/-- All of an inert word goes into the field that is being made. -/
theorem splitFields_eq (h : Inert w value) {ifs : Bytes} {f : FieldState} {ended : Bool}
    (hvoid : f.void = false) (hthere : f.chars ≠ [] ∨ f.present = true ∨ w ≠ []) :
    splitFields ifs f ended (elements w) = [f.chars.reverse ++ joinElements (elements w)] := by
  -- The field grows at its end, so the induction is over any field that has been begun.
  induction h generalizing f ended with
  | nil =>
      have hfield : (!f.chars.isEmpty || (f.present && !f.void)) = true := by
        rcases hthere with hchars | hpresent | hword
        · simp [hchars]
        · simp [hpresent, hvoid]
        · exact absurd rfl hword
      have hfinish : f.finish = [f.chars.reverse] := if_pos hfield
      exact hfinish.trans (congrArg (fun cs => [cs]) (List.append_nil _).symm)
  | @char c q w _ _ _ ih =>
      let f' : FieldState := { f with chars := (c, q) :: f.chars, present := f.present || q }
      calc
        splitFields ifs f ended (.fixed c q :: elements w)
            = [f'.chars.reverse ++ joinElements (elements w)] :=
              ih hvoid (Or.inl (List.cons_ne_nil _ _))
        _ = [f.chars.reverse ++ (c, q) :: joinElements (elements w)] := by
              rw [List.reverse_cons, List.append_assoc, List.singleton_append]
  | quotes _ ih => exact ih hvoid (Or.inr (Or.inl rfl))

/-- Nothing of an inert word is a pattern. -/
theorem isActive_eq_false (h : Inert w value) (fuel : Nat) :
    Glob.isActive (Glob.parse fuel (joinElements (elements w))) = false := by
  induction h generalizing fuel with
  | nil =>
      cases fuel with
      | zero => rfl
      | succ fuel => rfl
  | @char c q w _ hc _ ih =>
      cases fuel with
      | zero => rfl
      | succ fuel =>
          -- Quoted, the signs of patterns stand for themselves.
          have hpattern {d : Char} (hd : d = '*' ∨ d = '?' ∨ d = '[') : (c, q) ≠ (d, false) := by
            rintro ⟨⟩
            obtain ⟨hstar, hmark, hopen⟩ := (hc rfl).not_pattern
            rcases hd with rfl | rfl | rfl
            · exact hstar rfl
            · exact hmark rfl
            · exact hopen rfl
          have hparse : Glob.parse (fuel + 1) ((c, q) :: joinElements (elements w)) =
              .literal c :: Glob.parse fuel (joinElements (elements w)) := by
            rw [Glob.parse]
            · exact fun hfst hsnd => hpattern (Or.inl rfl) (by rw [hfst, hsnd])
            · exact fun hfst hsnd => hpattern (Or.inr (Or.inl rfl)) (by rw [hfst, hsnd])
            · exact fun hfst hsnd => hpattern (Or.inr (Or.inr rfl)) (by rw [hfst, hsnd])
          exact (congrArg Glob.isActive hparse).trans (ih fuel)
  | quotes _ ih => exact ih fuel

/-- An inert word is no pattern for file names. -/
theorem globField_eq (h : Inert w value) (t : FileTree) :
    globField t (joinElements (elements w)) = [value] := by
  rw [globField, Glob.items, h.isActive_eq_false, h.plainChars_eq]
  rfl

end Inert

/-- A word is expanded to one argument, whatever state the shell is in, and does not change it. -/
def ExpandsTo (w : Word) (value : Bytes) : Prop :=
  ∀ (fuel : Nat) (rest : List Word) (s : Session), w.length < fuel →
    expandWords (fuel + 1) (w :: rest) s = ((value :: ·) <$> expandWords fuel rest) s

theorem Inert.expandsTo (h : Inert w value) (hne : w ≠ []) : ExpandsTo w value := by
  intro fuel rest s hfuel
  obtain ⟨ifs, hifs⟩ : ∃ ifs, fieldSeparators s = .ok ifs s := ⟨_, rfl⟩
  obtain ⟨t, htree⟩ : ∃ t, Sh.tree s = .ok t s := ⟨_, rfl⟩
  have hprocess : Sh.process s = .ok s.process s := rfl
  have hsplit : splitFields ifs FieldState.start false (elements w) =
      [joinElements (elements w)] :=
    h.splitFields_eq rfl (Or.inr (Or.inr hne))
  -- With and without patterns for file names, the field is one argument.
  have hhere : (if s.process.options.contains 'f' then [joinElements (elements w)].map plainChars
      else [joinElements (elements w)].flatMap (globField t)) = [value] := by
    simp [h.plainChars_eq, h.globField_eq]
  rw [expandWords, Sh.bind_ok _ h.tilde_eq, Sh.bind_ok _ (h.expandParts_eq hfuel),
    Sh.bind_ok _ hifs]
  simp only [hsplit]
  rw [Sh.bind_ok _ htree, Sh.bind_ok _ hprocess]
  simp only [hhere]
  rfl

end Shell
end Trainer
