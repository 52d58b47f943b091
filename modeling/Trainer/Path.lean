import Trainer.Text

/-!
# Paths

A path is its text; what it means is its list of components.  Repeated slashes and inner `.` parts
do not count, so two paths are compared by components (`Path.same`, `Path.le`), while the text is
kept as written for display.
-/

namespace Trainer

/-- A path as written. -/
structure Path where
  text : String
deriving DecidableEq, Repr, Inhabited

inductive Component where
  /-- The slash in front. -/
  | root
  /-- A `.` in front of a relative path. -/
  | current
  /-- A `..`. -/
  | parent
  | name (text : String)
deriving DecidableEq, Repr

namespace Component

def text : Component → String
  | .root => "/"
  | .current => "."
  | .parent => ".."
  | .name s => s

/-- The rank of a component's kind in the order of paths. -/
def rank : Component → Nat
  | .root => 0
  | .current => 1
  | .parent => 2
  | .name _ => 3

/-- Components are ordered by kind, names among themselves by code points. -/
def before : Component → Component → Bool
  | .name a, .name b => decide (a < b)
  | a, b => a.rank < b.rank

end Component

namespace Path

/-! ## Anatomy -/

/-- The parts between slashes. -/
abbrev Part := List Char

/-- What stands in front of the body: a slash, a dot, or nothing. -/
def splitFront : List Char → List Char × List Char
  | '/' :: rest => (['/'], rest)
  | ['.'] => (['.'], [])
  | '.' :: '/' :: rest => (['.'], '/' :: rest)
  | cs => ([], cs)

/-- A part that names nothing: empty or a single dot. -/
def isIdle (p : Part) : Bool :=
  p.isEmpty || p == ['.']

def joinParts : List Part → List Char
  | [] => []
  | [p] => p
  | p :: ps => p ++ '/' :: joinParts ps

/-- Drops the idle parts at the end of a reversed list of parts. -/
def dropIdle (ps : List Part) : List Part :=
  ps.dropWhile isIdle

def componentOf (p : Part) : Component :=
  if p = ['.', '.'] then .parent else .name (String.ofList p)

def components (p : Path) : List Component :=
  let (front, body) := splitFront p.text.toList
  let lead : List Component :=
    match front with
    | ['/'] => [.root]
    | ['.'] => [.current]
    | _ => []
  lead ++ ((Chars.splitAt '/' body).filter (fun q => !isIdle q)).map componentOf

def isAbsolute (p : Path) : Bool :=
  p.text.toList.head? == some '/'

/-- Two paths are the same when their components are. -/
def same (p q : Path) : Bool :=
  p.components == q.components

/-- Lexicographic order on lists of components. -/
def componentsLe : List Component → List Component → Bool
  | [], _ => true
  | _ :: _, [] => false
  | a :: as, b :: bs => a.before b || (a == b && componentsLe as bs)

/-- The order of paths: component by component. -/
def le (p q : Path) : Bool :=
  componentsLe p.components q.components

/-! ## Joining and cutting -/

/-- Appends a path; an absolute one replaces what was there. -/
def join (p : Path) (q : String) : Path :=
  if q.toList.head? = some '/' then ⟨q⟩
  else if p.text = "" ∨ p.text.toList.getLast? = some '/' then ⟨p.text ++ q⟩
  else ⟨p.text ++ "/" ++ q⟩

/-- The last component's name, if the path ends in one. -/
def fileName? (p : Path) : Option String :=
  match p.components.getLast? with
  | some (.name s) => some s
  | _ => none

/-- The path without its last component; the root and the empty path have none. -/
def parent? (p : Path) : Option Path :=
  let (front, body) := splitFront p.text.toList
  match dropIdle (Chars.splitAt '/' body).reverse with
  | _ :: before => some ⟨String.ofList (front ++ joinParts (dropIdle before).reverse)⟩
  | [] => if front = ['.'] then some ⟨""⟩ else none

/-- Splits a name at its last dot; a dot in front does not count. -/
def splitName (name : List Char) : List Char × Option (List Char) :=
  let reversed := name.reverse
  let ext := reversed.takeWhile (· != '.')
  let stem := (reversed.drop (ext.length + 1)).reverse
  if name = ['.', '.'] ∨ stem.isEmpty then (name, none)
  else (stem, some ext.reverse)

/-- The file name without its extension. -/
def stem? (p : Path) : Option String :=
  p.fileName?.map fun s => String.ofList (splitName s.toList).1

/-- What follows the last dot of the file name. -/
def extension? (p : Path) : Option String :=
  match p.fileName? with
  | some s => (splitName s.toList).2.map String.ofList
  | none => none

/-- The path with another extension; unchanged if it has no file name. -/
def withExtension (p : Path) (ext : String) : Path :=
  let (front, body) := splitFront p.text.toList
  match dropIdle (Chars.splitAt '/' body).reverse with
  | last :: before =>
      if last = ['.', '.'] then p
      else
        let stem := (splitName last).1
        ⟨String.ofList (front ++ joinParts ((stem :: before).reverse)) ++ "." ++ ext⟩
  | [] => p

/-- The components below `base`, if the path lies there. -/
def below? (base p : Path) : Option (List Component) :=
  if base.components.isPrefixOf p.components then
    some (p.components.drop base.components.length)
  else none

def ofComponents (cs : List Component) : Path :=
  ⟨Text.join "/" (cs.map Component.text)⟩

/-- An absolute path without idle parts; a slash at the end stays. -/
def normal (p : Path) : Path :=
  let body := Text.join "/" ((p.components.filter (· != .root)).map Component.text)
  let ending := if Text.endsWith "/" p.text && body != "" then "/" else ""
  ⟨"/" ++ body ++ ending⟩

/-- The canonical text of a list of names below the root. -/
def ofNames (names : List String) : Path :=
  ⟨"/" ++ Text.join "/" names⟩

end Path
end Trainer
