import Trainer.Session.Key
import Trainer.Text.Chars

/-!
# Typing

The key presses that the characters sent by a terminal stand for: letters, control characters, and
sequences that begin with an escape.
-/

namespace Trainer
namespace KeyPress

/-- The key of a single character other than the escape. -/
def ofChar (c : Char) : KeyPress :=
  let n := c.toNat
  if c = '\r' then ⟨.enter, false⟩
  else if c = '\t' ∨ n = 0x7F then ⟨.other, false⟩
  else if n = 0 then ⟨.char ' ', true⟩
  else if n ≤ 0x1A then ⟨.char (Char.ofNat (n + 0x60)), true⟩
  else if n < 0x20 then ⟨.char (Char.ofNat (n + 0x18)), true⟩
  else ⟨.char c, false⟩

/-- The key of the last character of a sequence. -/
def ofFinal (c : Char) : KeyPress :=
  if c = 'A' then ⟨.up, false⟩
  else if c = 'B' then ⟨.down, false⟩
  else ⟨.other, false⟩

inductive Reading where
  | nothing
  /-- Behind an escape. -/
  | escape
  /-- Behind an escape and a capital O. -/
  | single
  /-- Behind an escape and an opening bracket. -/
  | sequence
deriving DecidableEq, Repr

/-- Whether a character ends a sequence. -/
def endsSequence (c : Char) : Bool :=
  0x40 ≤ c.toNat && c.toNat ≤ 0x7E

def readFrom : Reading → List Char → List KeyPress
  | .escape, [] => [⟨.escape, false⟩]
  | _, [] => []
  | .nothing, c :: rest =>
      if c = '\x1b' then readFrom .escape rest else ofChar c :: readFrom .nothing rest
  | .escape, c :: rest =>
      if c = '\x1b' then ⟨.escape, false⟩ :: readFrom .nothing rest
      else if c = 'O' then readFrom .single rest
      else if c = '[' then readFrom .sequence rest
      else ofChar c :: readFrom .nothing rest
  | .single, c :: rest => ofFinal c :: readFrom .nothing rest
  | .sequence, c :: rest =>
      if endsSequence c then ofFinal c :: readFrom .nothing rest else readFrom .sequence rest

/-- The key presses of typed text. -/
def ofTyped (s : String) : List KeyPress :=
  readFrom .nothing s.toList

end KeyPress
end Trainer
