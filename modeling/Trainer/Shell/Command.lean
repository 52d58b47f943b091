import Trainer.Text

/-!
# Commands of the shell

The forms that a command line can have.  The shell knows bytes only, so its text is a list of
characters of which each stands for one byte.
-/

namespace Trainer
namespace Shell

/-- Text as the shell sees it: every character is a byte. -/
abbrev Bytes := List Char

/-- What an expansion of a parameter does with the parameter's value. -/
inductive ParamUse where
  | plain
  | length
  /-- A word in place of a missing value; `orEmpty` counts an empty value as missing. -/
  | fallback (orEmpty : Bool) (word : Bytes)
  /-- As `fallback`, and the parameter gets the word as its value. -/
  | assign (orEmpty : Bool) (word : Bytes)
  /-- A missing value is an error. -/
  | complain (orEmpty : Bool) (word : Bytes)
  /-- A word in place of a value that is there. -/
  | instead (orEmpty : Bool) (word : Bytes)
  | dropStart (longest : Bool) (pattern : Bytes)
  | dropEnd (longest : Bool) (pattern : Bytes)
  /-- What the shell does not know; a mistake when the parameter is expanded. -/
  | unknown
deriving DecidableEq, Repr

inductive Part where
  | char (c : Char) (quoted : Bool)
  | param (name : Bytes) (use : ParamUse) (quoted : Bool)
  /-- The output of a command, given by its text and the line on which that starts. -/
  | output (text : Bytes) (line : Nat) (quoted : Bool)
  | arithmetic (text : Bytes) (quoted : Bool)
  /-- A pair of quotes: a word that holds one is there even if nothing else is. -/
  | quotes
deriving DecidableEq, Repr

/-- A word before its expansion. -/
abbrev Word := List Part

inductive Direction where
  | input (target : Word)
  | output (target : Word)
  /-- As `output`, whatever is there already. -/
  | overwrite (target : Word)
  | append (target : Word)
  | both (target : Word)
  /-- Another descriptor by its number, or `-` to close this one. -/
  | duplicate (target : Word)
  /-- A text written in the command itself. -/
  | text (body : Word)
deriving DecidableEq, Repr

/-- A redirection of a descriptor. -/
structure Redirect where
  fd : Nat
  direction : Direction
deriving DecidableEq, Repr

inductive Command where
  | simple (line : Nat) (assigned : List (Bytes × Word)) (words : List Word)
      (redirects : List Redirect)
  | pipeline (negated : Bool) (parts : List Command)
  | both (first second : Command)
  | either (first second : Command)
  | sequence (first second : Command)
  | background (inner : Command)
  | subshell (inner : Command) (redirects : List Redirect)
  | group (inner : Command) (redirects : List Redirect)
  | branch (test yes no : Command) (redirects : List Redirect)
  | loop (negated : Bool) (test body : Command) (redirects : List Redirect)
  /-- Without words the loop goes through the positional parameters. -/
  | each (name : Bytes) (words : Option (List Word)) (body : Command) (redirects : List Redirect)
  | select (subject : Word) (cases : List (List Word × Command)) (redirects : List Redirect)
  | define (name : Bytes) (body : Command)
  | nothing
deriving Inhabited

end Shell
end Trainer
