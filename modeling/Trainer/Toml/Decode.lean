import Trainer.Number
import Trainer.Toml.Document

/-!
# Decoding TOML values

Readers from values to the types of the library.  A record may be written as a table, whose keys
name the fields, or as an array, which lists them in order; unknown keys are passed over, and a
field given twice (under its name and under another name of it) is refused.
-/

namespace Trainer
namespace Toml

/-- Reads a value as something, or refuses it. -/
abbrev Decoder (α : Type) := Value → Option α

def asString : Decoder String
  | .string s => some s
  | _ => none

def asBool : Decoder Bool
  | .boolean b => some b
  | _ => none

/-- A natural number below a bound. -/
def asNat (bound : Nat) : Decoder Nat
  | .integer n => if 0 ≤ n ∧ n < bound then some n.toNat else none
  | _ => none

/-- A list of values, written in brackets or as repeated headers. -/
def asList {α : Type} (item : Decoder α) : Decoder (List α)
  | .array items => items.mapM item
  | .tables items => items.mapM item
  | _ => none

def asEntries {α : Type} (item : Decoder α) : Decoder (List (String × α))
  | .table _ entries => entries.mapM fun (k, v) => (item v).map fun a => (k, a)
  | _ => none

inductive Fields where
  | named (entries : List (String × Value))
  | listed (items : List Value)

/-- A value as the fields of a record; a date has no field that a record asks for. -/
def asFields : Decoder Fields
  | .table _ entries => some (.named entries)
  | .array items => some (.listed items)
  | .tables items => some (.listed items)
  | .datetime => some (.named [])
  | _ => none

namespace Fields

/--
Looks a field up by its place among the fields and by its names.  The outer answer is missing when
two of the names are given.
-/
def find (fs : Fields) (place : Nat) (names : List String) : Option (Option Value) :=
  match fs with
  | .listed items => some items[place]?
  | .named entries =>
      match names.filterMap (fun n => entries.lookup n) with
      | [] => some none
      | [v] => some (some v)
      | _ => none

/-- A field that has to be there. -/
def required {α : Type} (fs : Fields) (place : Nat) (name : String) (d : Decoder α) : Option α :=
  match fs.find place [name] with
  | some (some v) => d v
  | _ => none

/-- A field that may be missing, under any of its names. -/
def optional {α : Type} (fs : Fields) (place : Nat) (names : List String) (d : Decoder α) :
    Option (Option α) :=
  match fs.find place names with
  | some (some v) => (d v).map some
  | some none => some none
  | none => none

/-- A field with a value to fall back on. -/
def withDefault {α : Type} (fs : Fields) (place : Nat) (name : String) (fallback : α)
    (d : Decoder α) : Option α :=
  (fs.optional place [name] d).map (Option.getD · fallback)

end Fields

/-! ## Numbers out of range -/

mutual

/-- Whether every number within a value can be represented at all. -/
def Value.representable : Value → Bool
  | .integer n => decide (-(twoTo 127 : Int) ≤ n) && decide (n < (twoTo 128 : Int))
  | .float finite => finite
  | .array items => Value.representableItems items
  | .tables items => Value.representableItems items
  | .table _ entries => Value.representableEntries entries
  | _ => true

def Value.representableItems : List Value → Bool
  | [] => true
  | v :: rest => v.representable && Value.representableItems rest

def Value.representableEntries : List (String × Value) → Bool
  | [] => true
  | (_, v) :: rest => v.representable && Value.representableEntries rest

end

/-- Reads a text as a document and decodes it. -/
def decode {α : Type} (d : Fields → Option α) (s : String) : Option α :=
  match parse? s with
  | some t => if Value.representableEntries t.entries then d (.named t.entries) else none
  | none => none

end Toml
end Trainer
