/-!
# Decoding UTF-8 with replacement

`Utf8.decode` turns any bytes into text: each longest start of a character that does not go on as
it should becomes one replacement character.
-/

namespace Trainer
namespace Utf8

def replacement : Char := '\ufffd'

/-- The bytes that may follow a first byte: how many, and the range of the next one. -/
def lead (b : Nat) : Option (Nat × Nat × Nat) :=
  if 0xC2 ≤ b ∧ b ≤ 0xDF then some (1, 0x80, 0xBF)
  else if b = 0xE0 then some (2, 0xA0, 0xBF)
  else if b = 0xED then some (2, 0x80, 0x9F)
  else if 0xE1 ≤ b ∧ b ≤ 0xEF then some (2, 0x80, 0xBF)
  else if b = 0xF0 then some (3, 0x90, 0xBF)
  else if 0xF1 ≤ b ∧ b ≤ 0xF3 then some (3, 0x80, 0xBF)
  else if b = 0xF4 then some (3, 0x80, 0x8F)
  else none

/-- A character in the course of being decoded: the bits so far, how many bytes are missing, and
the range of the next one. -/
structure Partial where
  value : Nat
  missing : Nat
  low : Nat
  high : Nat

/-- What a byte begins: a character, a longer character, or nothing. -/
def begin_ (b : Nat) : List Char × Option Partial :=
  if b < 0x80 then ([Char.ofNat b], none)
  else
    match lead b with
    | some (1, low, high) => ([], some ⟨b - 0xC0, 1, low, high⟩)
    | some (2, low, high) => ([], some ⟨b - 0xE0, 2, low, high⟩)
    | some (n, low, high) => ([], some ⟨b - 0xF0, n, low, high⟩)
    | none => ([replacement], none)

/-- Decodes bytes behind the start of a character, if there is one. -/
def decodeFrom : Option Partial → List Nat → List Char
  | none, [] => []
  | some _, [] => [replacement]
  | none, b :: rest =>
      let (here, next) := begin_ b
      here ++ decodeFrom next rest
  | some p, b :: rest =>
      if p.low ≤ b ∧ b ≤ p.high then
        let value := p.value * 64 + (b - 0x80)
        if p.missing = 1 then Char.ofNat value :: decodeFrom none rest
        else decodeFrom (some ⟨value, p.missing - 1, 0x80, 0xBF⟩) rest
      else
        let (here, next) := begin_ b
        replacement :: here ++ decodeFrom next rest

/-- The text that bytes denote, with replacements for what is no text. -/
def decode (bytes : List Nat) : List Char :=
  decodeFrom none bytes

end Utf8
end Trainer
