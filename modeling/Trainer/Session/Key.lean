/-!
# Keys

What a key press asks of a session.
-/

namespace Trainer

/-- What the learner wants. -/
inductive Action where
  | next
  | previous
  | toggleHint
  | toggleList
  | run
  | select
  | dismiss
  | quit
  | cursorUp
  | cursorDown
deriving DecidableEq, Repr

inductive Key where
  | char (c : Char)
  | enter
  | escape
  | up
  | down
  /-- A key without a meaning here. -/
  | other
deriving DecidableEq, Repr

/-- A key, and whether the control key is held with it. -/
structure KeyPress where
  key : Key
  control : Bool
deriving DecidableEq, Repr

namespace KeyPress

def letterAction (c : Char) : Option Action :=
  if c = 'q' then some .quit
  else if c = 'n' then some .next
  else if c = 'p' then some .previous
  else if c = 'h' then some .toggleHint
  else if c = 'l' then some .toggleList
  else if c = 'r' then some .run
  else if c = 'k' then some .cursorUp
  else if c = 'j' then some .cursorDown
  else none

/-- The action of a key press; only the interrupt key asks for the control key. -/
def action? (k : KeyPress) : Option Action :=
  match k.key with
  | .char c => if c = 'c' ∧ k.control = true then some .quit else letterAction c
  | .up => some .cursorUp
  | .down => some .cursorDown
  | .enter => some .select
  | .escape => some .dismiss
  | .other => none

end KeyPress

/-- The keys shown to the learner, each with what it does. -/
def keyHints : List (String × String) :=
  [("n/p", "next/prev"), ("r", "run"), ("h", "hint"), ("l", "list"), ("q", "quit")]

end Trainer
