import Trainer.Path
import Trainer.IoError

/-!
# File trees

A directory tree as a finite map from lists of names to entries.  There are no links, so a path
denotes at most one place, found by walking its parts (`FileTree.resolve`).  Every file carries an
identity that writing new contents keeps and a new file does not share; locks are held on it.

Each operation either reports the system's error and leaves the tree alone, or changes the one
place it names; `get?_put` and `get?_put_of_ne` say so for the basic step.
-/

namespace Trainer

/-- What stands at a place of the tree. -/
inductive Entry where
  | directory
  | file (identity : Nat) (contents : ByteArray)

/-- A tree below the root directory, with a working directory for relative paths. -/
structure FileTree where
  entries : List (List String × Entry)
  workingDir : List String
  nextIdentity : Nat
  /-- The identities of the files that may be executed. -/
  executable : List Nat

namespace FileTree

def empty : FileTree := ⟨[], [], 0, []⟩

instance : Inhabited FileTree := ⟨empty⟩

/-! ## Places -/

/-- What stands at a place; the root is always a directory. -/
def get? (t : FileTree) (names : List String) : Option Entry :=
  if names = [] then some .directory else t.entries.lookup names

def put (t : FileTree) (names : List String) (e : Entry) : FileTree :=
  { t with entries := (names, e) :: t.entries.filter (fun x => x.1 != names) }

/-- Removes a place and everything below it. -/
def cut (t : FileTree) (names : List String) : FileTree :=
  { t with entries := t.entries.filter (fun x => !names.isPrefixOf x.1) }

theorem lookup_filter_ne {names other : List String} (h : other ≠ names) :
    ∀ l : List (List String × Entry),
      (l.filter (fun x => x.1 != names)).lookup other = l.lookup other := by
  intro l
  induction l with
  | nil => rfl
  | cons x rest ih =>
      obtain ⟨place, entry⟩ := x
      by_cases hx : place = names
      · have hne : (other == place) = false := by
          simpa [hx] using h
        rw [List.filter_cons_of_neg (by simp [hx]), List.lookup_cons, hne]
        exact ih
      · simp [hx, ih, List.lookup_cons]

/-- What was put is there. -/
theorem get?_put (t : FileTree) {names : List String} (e : Entry) (h : names ≠ []) :
    (t.put names e).get? names = some e := by
  simp [get?, put, h]

/-- Every other place is as before. -/
theorem get?_put_of_ne (t : FileTree) {names other : List String} (e : Entry)
    (h : other ≠ names) : (t.put names e).get? other = t.get? other := by
  unfold get? put
  split
  · rfl
  · have hb : (other == names) = false := by simpa using h
    simp [List.lookup_cons, hb, lookup_filter_ne h]

/-! ## Walking a path -/

/-- Follows one part of a path from a place that has to be a directory. -/
def step (t : FileTree) (place : List String) (part : String) :
    Except IoError (List String) :=
  match t.get? place with
  | none => .error .notFound
  | some (.file _ _) => .error .notDirectory
  | some .directory =>
      if part = "" ∨ part = "." then .ok place
      else if part = ".." then .ok place.dropLast
      else if 255 < part.utf8ByteSize then .error .nameTooLong
      else .ok (place ++ [part])

def walk (t : FileTree) : List String → List String → Except IoError (List String)
  | place, [] => .ok place
  | place, part :: parts =>
      match t.step place part with
      | .ok next => walk t next parts
      | .error e => .error e

/-- The number of bytes of the longest path. -/
def longestPath : Nat := 4095

/-- The place a path denotes; the place itself need not exist, the directories on the way do. -/
def resolve (t : FileTree) (p : Path) : Except IoError (List String) :=
  if p.text.toList.contains '\x00' then .error .nulInPath
  else if p.text = "" then .error .notFound
  else if longestPath < p.text.utf8ByteSize then .error .nameTooLong
  else
    t.walk (if p.isAbsolute then [] else t.workingDir)
      ((Chars.splitAt '/' p.text.toList).map String.ofList)

/-- The place and entry a path denotes. -/
def lookup (t : FileTree) (p : Path) : Except IoError (List String × Entry) :=
  match t.resolve p with
  | .error e => .error e
  | .ok names =>
      match t.get? names with
      | some e => .ok (names, e)
      | none => .error .notFound

def endsInSlash (p : Path) : Bool :=
  p.text.toList.getLast? == some '/'

def withoutSlashes (p : Path) : Path :=
  ⟨String.ofList (p.text.toList.reverse.dropWhile (· == '/')).reverse⟩

/-- The place that a new entry of this name would take; a slash at the end only counts as a byte. -/
def newPlace (t : FileTree) (p : Path) : Except IoError (List String) :=
  if endsInSlash p && (withoutSlashes p).text != "" && p.text.utf8ByteSize ≤ longestPath then
    t.resolve (withoutSlashes p)
  else t.resolve p

/-! ## Questions -/

def exists? (t : FileTree) (p : Path) : Bool :=
  match t.lookup p with
  | .ok _ => true
  | .error _ => false

def isDirectory (t : FileTree) (p : Path) : Bool :=
  match t.lookup p with
  | .ok (_, .directory) => true
  | _ => false

def isFile (t : FileTree) (p : Path) : Bool :=
  match t.lookup p with
  | .ok (_, .file _ _) => true
  | _ => false

/-- The absolute path of an existing entry, without dots and repeated slashes. -/
def canonical (t : FileTree) (p : Path) : Except IoError Path :=
  (t.lookup p).map fun x => Path.ofNames x.1

def readBytes (t : FileTree) (p : Path) : Except IoError ByteArray :=
  match t.lookup p with
  | .error e => .error e
  | .ok (_, .directory) => .error .isDirectory
  | .ok (_, .file _ contents) => .ok contents

def readText (t : FileTree) (p : Path) : Except IoError String :=
  match t.readBytes p with
  | .error e => .error e
  | .ok bytes =>
      match String.fromUTF8? bytes with
      | some s => .ok s
      | none => .error .notText

/-- The names in a directory, in no particular order. -/
def children (t : FileTree) (place : List String) : List String :=
  t.entries.filterMap fun x =>
    if place.isPrefixOf x.1 && x.1.length == place.length + 1 then x.1.getLast? else none

/-- The files below a place at any depth, in no particular order. -/
def filesBelow (t : FileTree) (place : List String) : List (List String) :=
  t.entries.filterMap fun x =>
    match x.2 with
    | .file _ _ => if place.isPrefixOf x.1 then some x.1 else none
    | .directory => none

/-! ## Changes -/

/-- Replaces the contents of a file, or makes a new one. -/
def writeBytes (t : FileTree) (p : Path) (contents : ByteArray) : Except IoError FileTree :=
  match t.newPlace p with
  | .error e => .error e
  | .ok names =>
      if endsInSlash p then .error .isDirectory
      else
        match t.get? names with
        | some .directory => .error .isDirectory
        | some (.file i _) => .ok (t.put names (.file i contents))
        | none =>
            .ok { t.put names (.file t.nextIdentity contents) with
              nextIdentity := t.nextIdentity + 1 }

def writeText (t : FileTree) (p : Path) (s : String) : Except IoError FileTree :=
  t.writeBytes p s.toUTF8

/-- Opens a file for writing without truncating it; gives its identity. -/
def openFile (t : FileTree) (p : Path) : Except IoError (Nat × FileTree) :=
  match t.newPlace p with
  | .error e => .error e
  | .ok names =>
      if endsInSlash p then .error .isDirectory
      else
        match t.get? names with
        | some .directory => .error .isDirectory
        | some (.file i _) => .ok (i, t)
        | none =>
            .ok (t.nextIdentity, { t.put names (.file t.nextIdentity ByteArray.empty) with
              nextIdentity := t.nextIdentity + 1 })

/-- Adds bytes at the end of a file, which is made if need be. -/
def appendBytes (t : FileTree) (p : Path) (more : ByteArray) : Except IoError FileTree :=
  match t.readBytes p with
  | .ok old => t.writeBytes p (old ++ more)
  | .error .notFound => t.writeBytes p more
  | .error e => .error e

def makeDir (t : FileTree) (p : Path) : Except IoError FileTree :=
  match t.newPlace p with
  | .error e => .error e
  | .ok names =>
      match t.get? names with
      | some _ => .error .alreadyExists
      | none => .ok (t.put names .directory)

/--
Makes a directory and, at most `depth` levels up, the directories it lies in.  What has been made
stays there when the rest cannot be made.
-/
def digWithin (t : FileTree) (p : Path) : Nat → Except IoError Unit × FileTree
  | 0 => (.error .notFound, t)
  | depth + 1 =>
      if p.text = "" then (.ok (), t)
      else
        match t.makeDir p with
        | .ok made => (.ok (), made)
        -- Only a missing directory on the way is a reason to go up.
        | .error .notFound =>
            match p.parent? with
            | none => (.error (.other "failed to create whole tree"), t)
            | some above =>
                match t.digWithin above depth with
                | (.error e, t) => (.error e, t)
                | (.ok (), t) =>
                    match t.makeDir p with
                    | .ok made => (.ok (), made)
                    | .error e => if t.isDirectory p then (.ok (), t) else (.error e, t)
        -- A directory that is there already is what was asked for.
        | .error e => if t.isDirectory p then (.ok (), t) else (.error e, t)

/-- Makes a directory and those it lies in; an existing directory is fine. -/
def dig (t : FileTree) (p : Path) : Except IoError Unit × FileTree :=
  t.digWithin p (p.text.length + 1)

/-- Makes a directory and those it lies in, all of them or none. -/
def makeDirs (t : FileTree) (p : Path) : Except IoError FileTree :=
  match t.dig p with
  | (.ok (), made) => .ok made
  | (.error e, _) => .error e

/-- Moves an entry and what is below it to another place. -/
def move (t : FileTree) (source target : List String) : FileTree :=
  let moved := t.entries.filterMap fun x =>
    if source.isPrefixOf x.1 then some (target ++ x.1.drop source.length, x.2) else none
  { t with entries := moved ++ ((t.cut source).cut target).entries }

/-- Gives an entry another name, replacing a file that has that name. -/
def rename (t : FileTree) (source target : Path) : Except IoError FileTree :=
  match t.lookup source with
  | .error e => .error e
  | .ok (names, entry) =>
      match t.newPlace target with
      | .error e => .error e
      | .ok place =>
          match entry, t.get? place with
          | .file _ _, some .directory => .error .isDirectory
          | .file _ _, _ =>
              if endsInSlash target then .error .notDirectory
              else if names = place then .ok t
              else .ok (t.move names place)
          | .directory, some (.file _ _) => .error .notDirectory
          | .directory, _ => if names = place then .ok t else .ok (t.move names place)

def remove (t : FileTree) (p : Path) : Except IoError FileTree :=
  (t.lookup p).map fun x => t.cut x.1

end FileTree
end Trainer
