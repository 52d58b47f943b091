import Mathlib
import Trainer.Proofs.Progress.Record
import Trainer.Proofs.Timestamp
import Trainer.Proofs.Toml.Lines

/-!
# Stored progress is read back

The document that `Progress.render` writes is read as the same progress (`Progress.parse?_render`),
whatever names it has, as long as its time is one that the calendar has and its names are in order.
-/

namespace Trainer
namespace Progress

open Toml

/-! ## The document -/

def headValues (p : Progress) : List (String × Value) :=
  (match p.currentExercise with
    | some name => [("current_exercise", .string name)]
    | none => []) ++
  (match p.lastUpdated with
    | some t => [("last_updated", .string t.render)]
    | none => [])

def entryValue (x : String × Bool) : String × Value :=
  (x.1, .boolean x.2)

/-- The table that the stored form denotes. -/
def document (p : Progress) : Table :=
  ⟨.header, p.headValues ++ [("exercises", .table .header (p.exercises.map entryValue))]⟩

theorem lookup_headValues (p : Progress) : p.headValues.lookup "exercises" = none := by
  unfold headValues
  cases p.currentExercise with
  | none =>
      cases p.lastUpdated with
      | none => rfl
      | some t => rfl
  | some name =>
      cases p.lastUpdated with
      | none => rfl
      | some t => rfl

theorem lookup_entryValues {l : List (String × Bool)} {name : String}
    (h : name ∉ l.map (·.1)) : (l.map entryValue).lookup name = none := by
  rw [List.lookup_eq_none_iff]
  intro x hx
  obtain ⟨y, hy, rfl⟩ := List.mem_map.1 hx
  have hne : name ≠ y.1 := by
    rintro rfl
    exact h (List.mem_map_of_mem hy)
  simpa [entryValue] using hne

theorem Ordered.nodup {l : List (String × Bool)} (h : Ordered l) : (l.map (·.1)).Nodup := by
  refine List.pairwise_map.2 (h.imp fun {a b} hlt heq => ?_)
  rw [heq] at hlt
  exact String.lt_irrefl _ hlt

/-! ## Its lines -/

/-- Written values do not start with a blank. -/
theorem head_writeString (cs : List Char) :
    ∃ c tail, writeString cs = c :: tail ∧ c ≠ ' ' ∧ c ≠ '\t' := by
  obtain ⟨c, tail, hform, rfl | rfl⟩ := exists_cons_writeString cs
  · exact ⟨'"', tail, hform, by decide, by decide⟩
  · exact ⟨'\'', tail, hform, by decide, by decide⟩

theorem head_writeBool (b : Bool) :
    ∃ c tail, writeBool b = c :: tail ∧ c ≠ ' ' ∧ c ≠ '\t' := by
  cases b with
  | true => exact ⟨'t', _, rfl, by decide, by decide⟩
  | false => exact ⟨'f', _, rfl, by decide, by decide⟩

theorem entryLine_append (x : String × Bool) (rest : List Char) : entryLine x ++ rest =
    writeKey x.1.toList ++ ' ' :: '=' :: ' ' :: (writeBool x.2 ++ '\n' :: rest) := by
  simp [entryLine, writeBool]

theorem textLine_append {key : List Char} (hkey : writeKey key = key) (value rest : List Char) :
    textLine key value ++ rest =
      writeKey key ++ ' ' :: '=' :: ' ' :: (writeString value ++ '\n' :: rest) := by
  simp [textLine, hkey]

/-- The lines of the entries are read one by one into the table, by induction on those to come. -/
theorem reads_entryLines {head : List (String × Value)} (hhead : head.lookup "exercises" = none)
    (rest : List (String × Bool)) : ∀ done : List (String × Bool),
      ((done ++ rest).map (·.1)).Nodup →
      Reads ⟨⟨.header, head ++ [("exercises", .table .header (done.map entryValue))]⟩,
          ["exercises"]⟩ (rest.flatMap entryLine)
        ⟨.header, head ++ [("exercises", .table .header ((done ++ rest).map entryValue))]⟩ := by
  -- The entries read so far move from the text into the open table.
  induction rest with
  | nil =>
      intro done _
      rw [List.append_nil]
      exact reads_nil _
  | cons x rest ih =>
      intro done hnodup
      have hassoc : done ++ [x] ++ rest = done ++ x :: rest := by simp
      -- A name that comes up again would be refused.
      have hnew : x.1 ∉ done.map (·.1) := by
        rw [List.map_append, List.map_cons] at hnodup
        exact fun hmem => (List.nodup_append.1 hnodup).2.2 _ hmem x.1 List.mem_cons_self rfl
      have hnext := ih (done ++ [x]) (by rw [hassoc]; exact hnodup)
      rw [hassoc] at hnext
      rw [List.flatMap_cons]
      refine hnext.line ?_ (by simp [entryLine])
      have hlookup : (done.map entryValue).lookup (String.ofList x.1.toList) = none := by
        rw [String.ofList_toList]
        exact lookup_entryValues hnew
      rw [entryLine_append, readLine_below (head_writeBool x.2) (readValue_writeBool x.2 _) hhead
        hlookup, String.ofList_toList, List.map_append]
      rfl

theorem readLine_header {head : List (String × Value)} (hhead : head.lookup "exercises" = none)
    (rest : List Char) :
    readLine ⟨⟨.header, head⟩, []⟩ ("[exercises]\n".toList ++ rest) =
      some (⟨⟨.header, head ++ [("exercises", .table .header [])]⟩, ["exercises"]⟩, rest) := by
  have hkey : dottedKey keyLimit ("exercises]\n".toList ++ rest) =
      some ([], "exercises", ']' :: '\n' :: rest) := rfl
  have hline : "[exercises]\n".toList ++ rest = '[' :: ("exercises]\n".toList ++ rest) := rfl
  rw [hline]
  exact readLine_openHeader (by simp) hkey (openHeader_eq hhead) rfl

/-- Heading and entries are read as the whole table. -/
theorem reads_table {head : List (String × Value)} (hhead : head.lookup "exercises" = none)
    {l : List (String × Bool)} (hl : Ordered l) :
    Reads ⟨⟨.header, head⟩, []⟩ ("[exercises]\n".toList ++ l.flatMap entryLine)
      ⟨.header, head ++ [("exercises", .table .header (l.map entryValue))]⟩ :=
  (reads_entryLines hhead l [] hl.nodup).line (readLine_header hhead _) (by simp)

/-- A line with a text above the table is read as one more value. -/
theorem reads_textLine (head : List (String × Value)) {key rest : List Char}
    (value : List Char) {t : Table} (hkey : writeKey key = key)
    (hnew : head.lookup (String.ofList key) = none)
    (h : Reads ⟨⟨.header, head ++ [(String.ofList key, .string (String.ofList value))]⟩, []⟩
      rest t) :
    Reads ⟨⟨.header, head⟩, []⟩ (textLine key value ++ rest) t := by
  refine h.line ?_ (by simp [textLine])
  rw [textLine_append hkey]
  exact readLine_top (head_writeString value) (readValue_writeString value rest) hnew

theorem reads_blank {s : State} {rest : List Char} {t : Table} (h : Reads s rest t) :
    Reads s ('\n' :: rest) t := by
  have hline : readLine s (['\n'] ++ rest) = some (s, rest) := rfl
  exact h.line hline (by simp)

/-- The stored form is read as the table it stands for. -/
theorem reads_renderChars {p : Progress} (hp : Ordered p.exercises) :
    Reads ⟨⟨.header, []⟩, []⟩ p.renderChars p.document := by
  obtain ⟨current, updated, l⟩ := p
  have hcurrent : writeKey "current_exercise".toList = "current_exercise".toList := by decide
  have hupdated : writeKey "last_updated".toList = "last_updated".toList := by decide
  have htable (head : List (String × Value)) (hhead : head.lookup "exercises" = none) :=
    reads_table hhead hp
  -- From the table back to the first line, each line adds its value to the root.
  cases current with
  | none =>
      cases updated with
      | none => exact htable [] rfl
      | some time =>
          have hrest := reads_blank (htable [("last_updated", .string time.render)] rfl)
          have hread := reads_textLine [] time.render.toList hupdated rfl
            (by simpa using hrest)
          simpa [renderChars, headLines, document, headValues, textLine] using hread
  | some name =>
      cases updated with
      | none =>
          have hrest := reads_blank (htable [("current_exercise", .string name)] rfl)
          have hread := reads_textLine [] name.toList hcurrent rfl
            (by simpa using hrest)
          simpa [renderChars, headLines, document, headValues, textLine] using hread
      | some time =>
          have hrest := reads_blank (htable
            [("current_exercise", .string name), ("last_updated", .string time.render)] rfl)
          have hread := reads_textLine [("current_exercise", .string name)]
            time.render.toList hupdated rfl (by simpa using hrest)
          have hread' := reads_textLine [] name.toList hcurrent rfl
            (by simpa using hread)
          simpa [renderChars, headLines, document, headValues, textLine] using hread'

theorem head?_renderChars (p : Progress) : p.renderChars.head? ≠ some '\ufeff' := by
  obtain ⟨current, updated, l⟩ := p
  cases current with
  | none =>
      cases updated with
      | none => simp [renderChars, headLines]
      | some time => simp [renderChars, headLines, textLine]
  | some name => simp [renderChars, headLines, textLine]

/-- A written record is read as the document it was written from. -/
theorem toml_parse?_render {p : Progress} (hp : Ordered p.exercises) :
    Toml.parse? p.render = some p.document := by
  rw [Toml.parse?, render, String.toList_ofList]
  exact (reads_renderChars hp).parseChars_eq p.head?_renderChars

/-! ## Its values -/

theorem representable_entryValues (l : List (String × Bool)) :
    Value.representableEntries (l.map entryValue) = true := by
  induction l with
  | nil => rfl
  | cons x l ih => exact ih

/-- Every value of the document can be written down. -/
theorem representable_document (p : Progress) :
    Value.representableEntries p.document.entries = true := by
  obtain ⟨current, updated, l⟩ := p
  have hl := representable_entryValues l
  cases current with
  | none =>
      cases updated with
      | none => simp [document, headValues, Value.representableEntries, Value.representable, hl]
      | some time =>
          simp [document, headValues, Value.representableEntries, Value.representable, hl]
  | some name =>
      cases updated with
      | none => simp [document, headValues, Value.representableEntries, Value.representable, hl]
      | some time =>
          simp [document, headValues, Value.representableEntries, Value.representable, hl]

/-- The truth values of the table are those of the record. -/
theorem asEntries_entryValues (l : List (String × Bool)) :
    asEntries asBool (.table .header (l.map entryValue)) = some l := by
  rw [asEntries]
  induction l with
  | nil => rfl
  | cons x l ih =>
      rw [List.map_cons, List.mapM_cons, ih]
      rfl

/-- What the table of names is decoded to. -/
theorem exercises_document (p : Progress) :
    (Fields.named p.document.entries).withDefault 2 "exercises" [] (asEntries asBool) =
      some p.exercises := by
  have hlookup : p.document.entries.lookup "exercises" =
      some (.table .header (p.exercises.map entryValue)) := lookup_last p.lookup_headValues
  simp only [Fields.withDefault, Fields.optional, Fields.find, List.filterMap_cons,
    List.filterMap_nil, hlookup, asEntries_entryValues]
  rfl

/-- The pointer is read back. -/
theorem currentExercise_document (p : Progress) :
    (Fields.named p.document.entries).optional 0 ["current_exercise"] asString =
      some p.currentExercise := by
  obtain ⟨current, updated, l⟩ := p
  cases current with
  | none =>
      cases updated with
      | none => rfl
      | some time => rfl
  | some name => rfl

/-- The time is read back, if it is one of the calendar. -/
theorem lastUpdated_document {p : Progress} (hp : ∀ t ∈ p.lastUpdated, t.isValid = true) :
    (Fields.named p.document.entries).optional 1 ["last_updated"] asTimestamp =
      some p.lastUpdated := by
  obtain ⟨current, updated, l⟩ := p
  cases updated with
  | none =>
      cases current with
      | none => rfl
      | some name => rfl
  | some time =>
      have htime : Timestamp.parse? time.render = some time :=
        Timestamp.parse?_render (hp time rfl)
      have hlookup : (document ⟨current, some time, l⟩).entries.lookup "last_updated" =
          some (.string time.render) := by
        cases current with
        | none => rfl
        | some name => rfl
      simp only [Fields.optional, Fields.find, List.filterMap_cons, List.filterMap_nil, hlookup,
        asTimestamp, htime]
      rfl

/-- Stored progress is read back. -/
theorem parse?_render {p : Progress} (hp : Ordered p.exercises)
    (htime : ∀ t ∈ p.lastUpdated, t.isValid = true) : parse? p.render = some p := by
  have hentries : List.foldl (fun acc x => Progress.insert x.1 x.2 acc) [] p.exercises =
      p.exercises := ofEntries_of_ordered hp
  rw [parse?, Toml.decode, toml_parse?_render hp]
  simp only [representable_document p, if_true]
  rw [decode, currentExercise_document, lastUpdated_document htime, exercises_document]
  simp only [Option.bind_eq_bind, Option.bind_some, hentries]
  rfl

end Progress
end Trainer
