import Trainer.Text
import Trainer.LineDiff.Compact

/-!
# Mismatch reports

What a learner is told when a program's output is not the expected one: both texts line by line,
and a diff.  The diff is a list of signed pieces (`Mismatch.pieces`): those kept or removed make up
the expected text, those kept or added the actual one.
-/

namespace Trainer
namespace Mismatch

/-- What a diff says about a piece of text. -/
inductive Sign where
  | kept
  | removed
  | added
deriving DecidableEq, Repr

/-- The sign in front of a piece. -/
def Sign.char : Sign → Char
  | .kept => ' '
  | .removed => '-'
  | .added => '+'

/-- Cuts a text behind every line end: a newline, a carriage return, or both in this order. -/
def pieceFrom (acc : List Char) : List Char → List (List Char)
  | [] => if acc.isEmpty then [] else [acc.reverse]
  | '\r' :: '\n' :: rest => ('\n' :: '\r' :: acc).reverse :: pieceFrom [] rest
  | c :: rest =>
      if c = '\r' ∨ c = '\n' then (c :: acc).reverse :: pieceFrom [] rest
      else pieceFrom (c :: acc) rest

/-- The lines of a text with their ends. -/
def pieces (cs : List Char) : List (List Char) :=
  pieceFrom [] cs

/-- The signed items of a script; between kept ones, all removed items precede the added ones. -/
def signedFrom {α : Type} (removed added : List α) : Script α → List (Sign × α)
  | [] => removed.map (Sign.removed, ·) ++ added.map (Sign.added, ·)
  | .keep xs :: rest =>
      removed.map (Sign.removed, ·) ++ added.map (Sign.added, ·) ++ xs.map (Sign.kept, ·) ++
        signedFrom [] [] rest
  | .delete xs :: rest => signedFrom (removed ++ xs) added rest
  | .insert xs :: rest => signedFrom removed (added ++ xs) rest

/-- The signed pieces of a diff between two texts, each given a final line end. -/
def diff (expected actual : List Char) : List (Sign × List Char) :=
  signedFrom [] []
    (Script.compact (Script.between (pieces (expected ++ ['\n'])) (pieces (actual ++ ['\n']))))

def diffText (ps : List (Sign × List Char)) : List Char :=
  ps.flatMap fun p => p.1.char :: p.2

/-- The lines of a text, each indented; an empty text is said to be so. -/
def indented (cs : List Char) : List Char :=
  if cs.isEmpty then "  (empty)\n".toList
  else (Chars.lines cs).flatMap fun line => [' ', ' '] ++ line ++ ['\n']

/-- The report on two texts without blanks at their ends. -/
def reportTrimmed (expected actual : List Char) : List Char :=
  Chars.trimEnd
    ("Output did not match.\n\nExpected:\n".toList ++ indented expected ++
      "\nActual:\n".toList ++ indented actual ++
      "\nDiff:\n".toList ++ diffText (diff expected actual))

def report (expected actual : String) : String :=
  String.ofList (reportTrimmed (Chars.trim expected.toList) (Chars.trim actual.toList))

end Mismatch
end Trainer
