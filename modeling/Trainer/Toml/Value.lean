import Trainer.Text

/-!
# TOML values

A document is a table; a table keeps its entries in the order in which their keys first appear, and
remembers how it came about, because that decides whether a later line may add to it.

* `Table.modify` follows a path of keys, making tables on the way;
* `Table.add` gives a key a value, once.
-/

namespace Trainer
namespace Toml

/-- How a table came about. -/
inductive TableKind where
  /-- Opened by a `[header]` of its own. -/
  | header
  /-- On the way to a `[header]` below it. -/
  | implied
  /-- By a dotted key. -/
  | dotted
  /-- Written in braces; nothing can be added to it. -/
  | inline
deriving DecidableEq, Repr

inductive Value where
  | string (s : String)
  | integer (n : Int)
  /-- A floating-point number; `finite` is false when it is too large for a double. -/
  | float (finite : Bool)
  | boolean (b : Bool)
  /-- A date, a time, or both. -/
  | datetime
  | array (items : List Value)
  /-- The tables of `[[headers]]` of one name. -/
  | tables (items : List Value)
  | table (kind : TableKind) (entries : List (String × Value))

structure Table where
  kind : TableKind
  entries : List (String × Value)

instance : Inhabited Value := ⟨.boolean false⟩

namespace Table

def toValue (t : Table) : Value :=
  .table t.kind t.entries

/-- Replaces the value of a key where it stands, or adds the key at the end. -/
def putIn (key : String) (v : Value) : List (String × Value) → List (String × Value)
  | [] => [(key, v)]
  | (k, w) :: rest => if k = key then (key, v) :: rest else (k, w) :: putIn key v rest

def set (t : Table) (key : String) (v : Value) : Table :=
  { t with entries := putIn key v t.entries }

/-- Gives a new key a value; a key that is there already is refused. -/
def add (t : Table) (key : String) (v : Value) : Option Table :=
  match t.entries.lookup key with
  | some _ => none
  | none => some (t.set key v)

/--
Changes the table at the end of a path.  Missing tables are made on the way.  A dotted key may not
enter a table that has a header of its own, nothing may enter a table in braces, and among the
tables of repeated headers the path leads into the last one.
-/
def modify (dotted : Bool) (change : Table → Option Table) :
    List String → Table → Option Table
  | [], t => change t
  | key :: keys, t =>
      match t.entries.lookup key with
      | none =>
          let fresh : Table := ⟨if dotted then .dotted else .implied, []⟩
          (modify dotted change keys fresh).map fun c => t.set key c.toValue
      | some (.table kind entries) =>
          if kind = .inline ∨ (dotted ∧ kind = .header) then none
          else (modify dotted change keys ⟨kind, entries⟩).map fun c => t.set key c.toValue
      | some (.tables items) =>
          match items.reverse with
          | .table kind entries :: before =>
              (modify dotted change keys ⟨kind, entries⟩).map fun c =>
                t.set key (.tables (c.toValue :: before).reverse)
          | _ => none
      | some _ => none

/--
Gives a dotted key a value.  The last table on the way has to be one that dotted keys made, unless
the key has only one part.
-/
def assign (path : List String) (key : String) (v : Value) (t : Table) : Option Table :=
  t.modify true
    (fun c => if (c.kind == .dotted) == path.isEmpty then none else c.add key v) path

/-- Opens the table of a header: a new one, or one that headers below it have implied. -/
def openHeader (path : List String) (key : String) (t : Table) : Option Table :=
  t.modify false
    (fun parent =>
      match parent.entries.lookup key with
      | none => some (parent.set key (.table .header []))
      | some (.table .implied entries) => some (parent.set key (.table .header entries))
      | some _ => none) path

/-- Opens one more table of a repeated header. -/
def openRepeated (path : List String) (key : String) (t : Table) : Option Table :=
  t.modify false
    (fun parent =>
      match parent.entries.lookup key with
      | none => some (parent.set key (.tables [.table .header []]))
      | some (.tables items) => some (parent.set key (.tables (items ++ [.table .header []])))
      | some _ => none) path

end Table
end Toml
end Trainer
