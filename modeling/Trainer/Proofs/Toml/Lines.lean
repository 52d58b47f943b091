import Mathlib
import Trainer.Proofs.Toml.Written

/-!
# Written TOML lines are read back

A document is read line by line.  Here are the lines that a writer puts down, an assignment and a
header, with what each of them does to the tables read so far.

* a key, an equals sign and a value make one assignment (`readLine_assignment`);
* a key in a table that does not have it goes to the end of that table (`assign_eq`,
  `modify_opened_eq`);
* a text is read as soon as its lines are (`Reads`).
-/

namespace Trainer
namespace Toml

/-! ## The first character -/

/-- Characters that may stand at the front of a key. -/
def StartsKey (c : Char) : Prop :=
  isBare c = true ∨ c = '"' ∨ c = '\''

theorem StartsKey.ne {c d : Char} (h : StartsKey c)
    (hd : isBare d = false ∧ d ≠ '"' ∧ d ≠ '\'') : c ≠ d := by
  rintro rfl
  rcases h with h | h | h
  · exact absurd h (by simp [hd.1])
  · exact hd.2.1 h
  · exact hd.2.2 h

theorem exists_cons_writeKey (cs : List Char) :
    ∃ c rest, writeKey cs = c :: rest ∧ StartsKey c := by
  have hbasic : ∃ c rest, writeBasic cs = c :: rest ∧ StartsKey c :=
    ⟨'"', _, rfl, .inr (.inl rfl)⟩
  simp only [writeKey]
  split
  · rename_i h
    simp only [Bool.and_eq_true, Bool.not_eq_true', List.isEmpty_eq_false_iff,
      List.all_eq_true] at h
    obtain ⟨c, rest, hcs⟩ := List.exists_cons_of_ne_nil h.1
    exact ⟨c, rest, hcs, .inl (h.2 c (by simp [hcs]))⟩
  split
  · exact hbasic
  split
  · exact ⟨'\'', _, rfl, .inr (.inr rfl)⟩
  · exact hbasic

theorem exists_cons_writeString (cs : List Char) :
    ∃ c rest, writeString cs = c :: rest ∧ (c = '"' ∨ c = '\'') := by
  simp only [writeString]
  split
  · exact ⟨'"', _, rfl, .inl rfl⟩
  split
  · exact ⟨'\'', _, rfl, .inr rfl⟩
  split
  · exact ⟨'"', _, rfl, .inl rfl⟩
  split
  · exact ⟨'\'', _, rfl, .inr rfl⟩
  split
  · exact ⟨'"', _, rfl, .inl rfl⟩
  · exact ⟨'"', _, rfl, .inl rfl⟩

theorem dropBlanks_cons {c : Char} (hspace : c ≠ ' ') (htab : c ≠ '\t') (rest : List Char) :
    dropBlanks (c :: rest) = c :: rest := by
  simp [dropBlanks, hspace, htab]

/-! ## Values -/

/-- A written text is read as a value. -/
theorem readValue_writeString (cs rest : List Char) :
    readValue (writeString cs ++ '\n' :: rest) =
      some (.string (String.ofList cs), '\n' :: rest) := by
  have hread : readString (writeString cs ++ '\n' :: rest) = some (cs, '\n' :: rest) :=
    readString_writeString (by simp) (by simp) cs
  obtain ⟨c, tail, hform, hquote⟩ := exists_cons_writeString cs
  rw [hform, List.cons_append] at hread ⊢
  rcases hquote with rfl | rfl
  · exact congrArg (Option.map fun x : List Char × List Char =>
      (Value.string (String.ofList x.1), x.2)) hread
  · exact congrArg (Option.map fun x : List Char × List Char =>
      (Value.string (String.ofList x.1), x.2)) hread

/-- The written form of a truth value. -/
def writeBool (b : Bool) : List Char :=
  if b then ['t', 'r', 'u', 'e'] else ['f', 'a', 'l', 's', 'e']

/-- A truth value is read back. -/
theorem readValue_writeBool (b : Bool) (rest : List Char) :
    readValue (writeBool b ++ '\n' :: rest) = some (.boolean b, '\n' :: rest) := by
  cases b with
  | true => rfl
  | false => rfl

/-! ## Assignments -/

/-- A key and its equals sign are read back. -/
theorem keyEquals_writeKey (cs : List Char) {c : Char} (hspace : c ≠ ' ') (htab : c ≠ '\t')
    (rest : List Char) :
    keyEquals (writeKey cs ++ ' ' :: '=' :: ' ' :: c :: rest) =
      some ([], String.ofList cs, c :: rest) := by
  obtain ⟨k, key, hform, hk⟩ := exists_cons_writeKey cs
  have hpart : keyPart (writeKey cs ++ ' ' :: '=' :: ' ' :: c :: rest) =
      some (String.ofList cs, ' ' :: '=' :: ' ' :: c :: rest) :=
    keyPart_writeKey (by simp [isBare]) cs
  have hdrop : dropBlanks (writeKey cs ++ ' ' :: '=' :: ' ' :: c :: rest) =
      writeKey cs ++ ' ' :: '=' :: ' ' :: c :: rest := by
    rw [hform, List.cons_append]
    exact dropBlanks_cons (hk.ne (by decide)) (hk.ne (by decide)) _
  -- A blank ends the key, and the first character that is none starts the value.
  have hequals : dropBlanks (' ' :: '=' :: ' ' :: c :: rest) = '=' :: ' ' :: c :: rest := rfl
  have hvalue : dropBlanks (' ' :: c :: rest) = c :: rest := by
    change dropBlanks (c :: rest) = c :: rest
    exact dropBlanks_cons hspace htab rest
  have hkey : dottedKey keyLimit (writeKey cs ++ ' ' :: '=' :: ' ' :: c :: rest) =
      some ([], String.ofList cs, '=' :: ' ' :: c :: rest) := by
    rw [keyLimit, dottedKey, hdrop, hpart]
    simp only [hequals]
    rfl
  rw [keyEquals, hkey]
  simp only [hvalue]

/-- A line with a key and a value gives the key that value in the open table. -/
theorem readLine_assignment {s : State} {key value rest : List Char} {v : Value} {root : Table}
    (hhead : ∃ c tail, value = c :: tail ∧ c ≠ ' ' ∧ c ≠ '\t')
    (hvalue : readValue (value ++ '\n' :: rest) = some (v, '\n' :: rest))
    (hroot : s.root.modify false (fun t => t.assign [] (String.ofList key) v) s.opened =
      some root) :
    readLine s (writeKey key ++ ' ' :: '=' :: ' ' :: (value ++ '\n' :: rest)) =
      some (⟨root, s.opened⟩, rest) := by
  obtain ⟨c, tail, rfl, hspace, htab⟩ := hhead
  obtain ⟨k, key', hform, hk⟩ := exists_cons_writeKey key
  have hkey := keyEquals_writeKey key hspace htab (tail ++ '\n' :: rest)
  rw [hform, List.cons_append] at hkey ⊢
  -- The line is neither a header, nor a comment, nor empty.
  have hbracket : k ≠ '[' := hk.ne (by decide)
  have hnewline : k ≠ '\n' := hk.ne (by decide)
  have hreturn : k ≠ '\r' := hk.ne (by decide)
  have hcomment : k ≠ '#' := hk.ne (by decide)
  have hline : ¬ (k = '#' ∨ atNewline
      (k :: (key' ++ ' ' :: '=' :: ' ' :: (c :: tail ++ '\n' :: rest))) = true) := by
    simp [atNewline, hcomment, hnewline, hreturn]
  rw [readLine, dropBlanks_cons (hk.ne (by decide)) (hk.ne (by decide))]
  split
  · rename_i heq
    exact absurd (List.cons.inj heq).1 hbracket
  · rename_i heq
    exact absurd (List.cons.inj heq).1 hbracket
  · rename_i heq
    exact absurd heq (by simp)
  · rename_i heq
    obtain ⟨rfl, rfl⟩ := List.cons.inj heq
    rw [if_neg hline]
    simp only [List.cons_append] at hkey hvalue ⊢
    simp only [hkey, hvalue, hroot]
    rfl

/-- A header in brackets opens its table. -/
theorem readLine_openHeader {s : State} {cs after rest : List Char} {path : List String}
    {key : String} {root : Table} (hhead : cs.head? ≠ some '[')
    (hkey : dottedKey keyLimit cs = some (path, key, ']' :: after))
    (hroot : s.root.openHeader path key = some root) (hend : lineEnd after = some rest) :
    readLine s ('[' :: cs) = some (⟨root, path ++ [key]⟩, rest) := by
  rw [readLine, dropBlanks_cons (by decide) (by decide)]
  split
  · rename_i heq
    rw [(List.cons.inj heq).2] at hhead
    exact absurd rfl hhead
  · rename_i heq
    rw [← (List.cons.inj heq).2, hkey]
    simp only [hroot, hend]
  · rename_i heq
    exact absurd heq (by simp)
  · rename_i hno heq
    exact absurd (List.cons.inj heq).1.symm hno

/-! ## Tables -/

variable {key : String} {v w : Value} {entries : List (String × Value)}

theorem putIn_of_lookup_eq_none (h : entries.lookup key = none) :
    Table.putIn key v entries = entries ++ [(key, v)] := by
  induction entries with
  | nil => rfl
  | cons x rest ih =>
      obtain ⟨k, u⟩ := x
      rw [List.lookup_cons] at h
      split at h
      · exact absurd h (by simp)
      · rename_i hk
        have hne : k ≠ key := by
          rintro rfl
          simp at hk
        rw [Table.putIn, if_neg hne, ih h]
        rfl

theorem putIn_last (h : entries.lookup key = none) :
    Table.putIn key v (entries ++ [(key, w)]) = entries ++ [(key, v)] := by
  induction entries with
  | nil => simp [Table.putIn]
  | cons x rest ih =>
      obtain ⟨k, u⟩ := x
      rw [List.lookup_cons] at h
      split at h
      · exact absurd h (by simp)
      · rename_i hk
        have hne : k ≠ key := by
          rintro rfl
          simp at hk
        rw [List.cons_append, Table.putIn, if_neg hne, ih h]
        rfl

theorem lookup_last (h : entries.lookup key = none) :
    (entries ++ [(key, w)]).lookup key = some w := by
  induction entries with
  | nil => simp
  | cons x rest ih =>
      rw [List.lookup_cons] at h
      split at h
      · exact absurd h (by simp)
      · rename_i hk
        rw [List.cons_append, List.lookup_cons, hk]
        exact ih h

/-- A new key goes to the end of a table with a header. -/
theorem assign_eq (h : entries.lookup key = none) :
    Table.assign [] key v ⟨.header, entries⟩ = some ⟨.header, entries ++ [(key, v)]⟩ := by
  have hkind : (TableKind.header == TableKind.dotted) = false := by decide
  simp [Table.assign, Table.modify, Table.add, Table.set, h, hkind, putIn_of_lookup_eq_none]

/-- A header that has not been used opens an empty table at the end. -/
theorem openHeader_eq (h : entries.lookup key = none) :
    Table.openHeader [] key ⟨.header, entries⟩ =
      some ⟨.header, entries ++ [(key, .table .header [])]⟩ := by
  simp [Table.openHeader, Table.modify, Table.set, h, putIn_of_lookup_eq_none]

/-- A change to the table that was opened last. -/
theorem modify_opened_eq {inner inner' : List (String × Value)} {change : Table → Option Table}
    (h : entries.lookup key = none)
    (hchange : change ⟨.header, inner⟩ = some ⟨.header, inner'⟩) :
    Table.modify false change [key] ⟨.header, entries ++ [(key, .table .header inner)]⟩ =
      some ⟨.header, entries ++ [(key, .table .header inner')]⟩ := by
  simp [Table.modify, Table.set, Table.toValue, lookup_last h, hchange, putIn_last h]

/-! ## Texts -/

/-- Reading on from a state gives a table in the end, with any amount of fuel that suffices. -/
def Reads (s : State) (cs : List Char) (t : Table) : Prop :=
  ∀ fuel, cs.length < fuel → readLines fuel s cs = some t

theorem reads_nil (s : State) : Reads s [] s.root := by
  intro fuel _
  cases fuel with
  | zero => rfl
  | succ fuel => rfl

/-- A line that is read goes before what is read of the rest. -/
theorem Reads.line {s s' : State} {line rest : List Char} {t : Table} (h : Reads s' rest t)
    (hline : readLine s (line ++ rest) = some (s', rest)) (hne : line ≠ []) :
    Reads s (line ++ rest) t := by
  intro fuel hfuel
  obtain ⟨c, line, rfl⟩ := List.exists_cons_of_ne_nil hne
  cases fuel with
  | zero => exact absurd hfuel (by simp)
  | succ fuel =>
      rw [List.cons_append] at hline hfuel ⊢
      have hrest : rest.length < fuel := by
        simp only [List.length_cons, List.length_append] at hfuel
        omega
      rw [readLines, hline]
      exact h fuel hrest

/-- A text that does not start with a byte order mark is read line by line. -/
theorem Reads.parseChars_eq {cs : List Char} {t : Table} (h : Reads ⟨⟨.header, []⟩, []⟩ cs t)
    (hmark : cs.head? ≠ some '\ufeff') : parseChars cs = some t := by
  have hdrop : dropMark cs = cs := by
    unfold dropMark
    split
    · exact absurd rfl hmark
    · rfl
  rw [parseChars, hdrop]
  exact h _ (Nat.lt_succ_self _)

/-- An assignment in a table that does not have its key. -/
theorem readLine_top {key value rest : List Char} {v : Value}
    (hhead : ∃ c tail, value = c :: tail ∧ c ≠ ' ' ∧ c ≠ '\t')
    (hvalue : readValue (value ++ '\n' :: rest) = some (v, '\n' :: rest))
    (hnew : entries.lookup (String.ofList key) = none) :
    readLine ⟨⟨.header, entries⟩, []⟩ (writeKey key ++ ' ' :: '=' :: ' ' :: (value ++ '\n' :: rest)) =
      some (⟨⟨.header, entries ++ [(String.ofList key, v)]⟩, []⟩, rest) :=
  readLine_assignment hhead hvalue (assign_eq hnew)

/-- An assignment below a header, in a table that does not have its key. -/
theorem readLine_below {header : String} {inner : List (String × Value)}
    {key value rest : List Char} {v : Value}
    (hhead : ∃ c tail, value = c :: tail ∧ c ≠ ' ' ∧ c ≠ '\t')
    (hvalue : readValue (value ++ '\n' :: rest) = some (v, '\n' :: rest))
    (hopened : entries.lookup header = none) (hnew : inner.lookup (String.ofList key) = none) :
    readLine ⟨⟨.header, entries ++ [(header, .table .header inner)]⟩, [header]⟩
        (writeKey key ++ ' ' :: '=' :: ' ' :: (value ++ '\n' :: rest)) =
      some (⟨⟨.header, entries ++ [(header, .table .header (inner ++ [(String.ofList key, v)]))]⟩,
        [header]⟩, rest) :=
  readLine_assignment hhead hvalue (modify_opened_eq hopened (assign_eq hnew))

end Toml
end Trainer
