import Trainer.Shell.Utility.Basic

/-!
# Batches of arguments

How `xargs` makes command lines of a text.
-/

namespace Trainer
namespace Shell
namespace Utility

open Sh

def replaceText (mark by_ : Bytes) : Nat → Bytes → Bytes
  | 0, cs => cs
  | _ + 1, [] => []
  | fuel + 1, c :: cs =>
      if !mark.isEmpty && mark.isPrefixOf (c :: cs) then
        by_ ++ replaceText mark by_ fuel ((c :: cs).drop mark.length)
      else c :: replaceText mark by_ fuel cs

/-- The items of a text for `xargs`: words, in which quotes and backslashes hide blanks. -/
def xargsItems : Nat → Bytes → List Bytes
  | 0, _ => []
  | fuel + 1, cs =>
      let isBlank := fun c : Char => c == ' ' || c == '\t' || c == '\n'
      let cs := cs.dropWhile isBlank
      if cs.isEmpty then []
      else
        let rec take : Nat → Bytes → Bytes × Bytes
          | 0, cs => ([], cs)
          | _ + 1, [] => ([], [])
          | fuel + 1, '\\' :: c :: rest =>
              let (t, rest) := take fuel rest
              (c :: t, rest)
          | fuel + 1, c :: rest =>
              if isBlank c then ([], rest)
              else if c = '\'' ∨ c = '"' then
                let inner := rest.takeWhile (· != c)
                let (t, rest) := take fuel (rest.drop (inner.length + 1))
                (inner ++ t, rest)
              else
                let (t, rest) := take fuel rest
                (c :: t, rest)
        let (item, rest) := take (cs.length + 1) cs
        item :: xargsItems fuel rest

def groupsOf (size : Nat) : Nat → List Bytes → List (List Bytes)
  | 0, _ => []
  | _ + 1, [] => []
  | fuel + 1, xs => xs.take size :: groupsOf size fuel (xs.drop size)

end Utility
end Shell
end Trainer
