import Trainer.Shell.Glob
import Trainer.Shell.Utility.TextTools

/-!
# Fields

An expanded word is a list of elements.  It is split into fields where an expansion without quotes
holds separators (`splitFields`), and a field that is a pattern stands for the paths it fits
(`globField`).
-/

namespace Trainer
namespace Shell

open Sh Utility

inductive Element where
  /-- A character that was written, or expanded in quotes. -/
  | fixed (c : Char) (quoted : Bool)
  /-- A character of an expansion without quotes, at which fields may be split. -/
  | loose (c : Char)
  /-- The place between two fields. -/
  | gap
  /-- A pair of quotes. -/
  | quotes
  /-- An expansion that gave no fields at all. -/
  | void
deriving DecidableEq, Repr

/-- A field in the course of being made: its characters in reverse. -/
structure FieldState where
  chars : List (Char × Bool)
  present : Bool
  void : Bool

def FieldState.start : FieldState := ⟨[], false, false⟩

/-- The finished field, unless there is none. -/
def FieldState.finish (f : FieldState) : List (List (Char × Bool)) :=
  if !f.chars.isEmpty || (f.present && !f.void) then [f.chars.reverse] else []

/-- Whether a character is white space that separates fields. -/
def isSpaceIn (ifs : Bytes) (c : Char) : Bool :=
  ifs.contains c && (c == ' ' || c == '\t' || c == '\n')

/-- Splits an expanded word into fields; `ended` says that a separator has just ended a field. -/
def splitFields (ifs : Bytes) (f : FieldState) (ended : Bool) : List Element →
    List (List (Char × Bool))
  | [] => f.finish
  | .fixed c q :: rest =>
      splitFields ifs { f with chars := (c, q) :: f.chars, present := f.present || q } false rest
  | .quotes :: rest => splitFields ifs { f with present := true } false rest
  | .void :: rest => splitFields ifs { f with void := true } false rest
  | .gap :: rest => { f with present := true }.finish ++
      splitFields ifs { FieldState.start with present := true } false rest
  | .loose c :: rest =>
      if isSpaceIn ifs c then
        f.finish ++ splitFields ifs FieldState.start (ended || !f.finish.isEmpty) rest
      else if ifs.contains c then
        if ended && f.finish.isEmpty then splitFields ifs FieldState.start false rest
        else { f with present := true, void := false }.finish ++
          splitFields ifs FieldState.start false rest
      else splitFields ifs { f with chars := (c, false) :: f.chars } false rest

/-- The text of an expanded word that is not split. -/
def joinElements (es : List Element) : List (Char × Bool) :=
  es.filterMap fun e => match e with
    | .fixed c q => some (c, q)
    | .loose c => some (c, false)
    | .gap => some (' ', true)
    | _ => none

/-- The characters of a field without their quoting. -/
def plainChars (cs : List (Char × Bool)) : Bytes := cs.map Prod.fst

/-- Cuts a pattern at its slashes. -/
def patternParts : List (Char × Bool) → List (List (Char × Bool))
  | [] => [[]]
  | (c, q) :: rest =>
      if c = '/' then [] :: patternParts rest
      else match patternParts rest with
        | [] => [[(c, q)]]
        | p :: ps => ((c, q) :: p) :: ps

/-- The paths that fit a pattern, given in parts, behind a path that is there already. -/
def globParts (t : FileTree) : Bytes → List (List (Char × Bool)) → List Bytes
  | start, [] => [start]
  | start, p :: rest =>
      let items := Glob.items p
      let separator := if rest.isEmpty then [] else ['/']
      if !Glob.isActive items then
        let next := start ++ plainChars p
        if rest.isEmpty then (if t.exists? (pathOf next) then [next] else [])
        else globParts t (next ++ separator) rest
      else
        let dir := if start.isEmpty then ".".toList else start
        match t.lookup (pathOf dir) with
        | .ok (place, .directory) =>
            let hidden := (p.head?.map Prod.fst) == some '.'
            let names := ((if hidden then [".", ".."] else []) ++ t.children place).map bytesOf
            let names := names.mergeSort bytesLe
            let fitting := names.filter fun n =>
              (hidden || n.head? != some '.') && Glob.fits items n
            fitting.flatMap fun n =>
              if rest.isEmpty then [start ++ n]
              else if t.isDirectory (pathOf (start ++ n)) then
                globParts t (start ++ n ++ separator) rest
              else []
        | _ => []

/-- A field as arguments: the paths it fits if it is a pattern of some, else its text. -/
def globField (t : FileTree) (f : List (Char × Bool)) : List Bytes :=
  if !Glob.isActive (Glob.items f) then [plainChars f]
  else
    match globParts t [] (patternParts f) with
    | [] => [plainChars f]
    | found => found

end Shell
end Trainer
