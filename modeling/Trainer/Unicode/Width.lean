import Trainer.Number
import Trainer.Unicode.Grapheme

/-!
# Widths

How many cells of a screen a character or a grapheme takes: marks that are drawn over others take
none, ideographs and most pictographs two, everything else one.
-/

namespace Trainer
namespace Unicode

/-- The characters that are wide in East Asian text. -/
def wideChars : CharSet :=
  CharSet.ofTable "1100 60 11BA 2 D 2 BE 4 3 1 2 1 209 2 15 2 1A 8 10 C 2B 1 A 6 3 1 D 1 8 2 11 2 5 2 8 1 5 1
    15 1 7 2 1 1 4 1 2 1 7 1 4 2 1C 1 23 1 1 1 4 3 1 1 3D 3 18 1 E 1 35B 2 33 1 4 1 32A 1A 1 59
    C D6 1A 4F 2 56 2 67 5 2B 1 5E 1 56 9 30 1 28 8 723D 3 37 499 1D 283 2BA4 215C 200 310 A 16
    23 1 13 1 4 95 60 7F 7 6FF9 5 B 2 E 17F8 8 4D6 29 A 22E7 4 1 7 1 2 1 123 F 1 1D 3 2 1 E 4 8
    18C 2004 57 9 17 1C8D 1 CA 1 BE 1 2 A 65 3 D 2C 4 9 7 2 E 6 9A 21 C 9 1 46 1 16 C 2B 4 5 C
    11 3 1 3 47 1 1 1 BB 2 3F D 4 1 18 12 1 1A 2 D 1 56 55 30 46 6 1 3 3 2 3 4 4 B 2 7 9 E3 C 4
    1 11B 2F 1 A 1 B9 70 D 3 9 7 2E 1 7 8 E 4 9 7 9 507 FFFE 2 FFFE"

/-- Marks in front of numbers that are drawn over them. -/
def overlaidMarks : CharSet :=
  CharSet.ofRanges [(0x605, 0x605), (0x70F, 0x70F), (0x890, 0x891), (0x8E2, 0x8E2)]

/-- Characters that may be shown as pictographs or as text. -/
def emojiChars : CharSet := propertyChars "Emoji"

/-- Characters that are shown as pictographs unless text is asked for. -/
def emojiByDefault : CharSet := propertyChars "Emoji_Presentation"

def ignorable : CharSet := propertyChars "Default_Ignorable_Code_Point"

def graphemeExtend : CharSet := propertyChars "Grapheme_Extend"

/-- The cells that a character takes on its own. -/
def charWidth (c : Char) : Nat :=
  let n := c.toNat
  if n < 0x300 then (if n = 0xAD then 0 else 1)
  else if n = 0x115F then 2
  else if (0x1160 ≤ n ∧ n ≤ 0x11FF) ∨ (0xD7B0 ≤ n ∧ n ≤ 0xD7C6) ∨ (0xD7CB ≤ n ∧ n ≤ 0xD7FB) then 0
  else if wideChars.mem c then (if graphemeExtend.mem c && !emojiChars.mem c then 0 else 2)
  else if n = 0xA8FA ∨ ignorable.mem c = true ∨ graphemeExtend.mem c = true ∨
      overlaidMarks.mem c = true then 0
  else 1

/-- Whether a character is joined to the one before it into one pictograph. -/
def joinsPictographs : List Char → Bool
  | a :: b :: rest => (a == '\u200d' && pictographs.mem b) || joinsPictographs (b :: rest)
  | _ => false

/-- The cells that a grapheme takes. -/
def graphemeWidth (g : List Char) : Nat :=
  match g with
  | [] => 0
  | [c] => charWidth c
  | base :: second :: _ =>
      if pictographs.mem base && joinsPictographs g then 2
      else if regional.mem base && regional.mem second then 2
      else if emojiModifiers.mem second && pictographs.mem base then 2
      else if second = '\ufe0f' ∧ emojiChars.mem base = true then 2
      else if second = '\ufe0e' ∧ emojiByDefault.mem base = true then 1
      else sumOf (g.map charWidth)

end Unicode
end Trainer
