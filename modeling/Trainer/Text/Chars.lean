/-!
# Characters and lines

Operations on text as a list of characters: trimming of blanks, cutting into lines and words,
searching and replacing.  `Trainer.Text` wraps them for `String`.
-/

namespace Trainer
namespace Chars

/-! ## Blanks -/

/-- A blank is a character with the Unicode property `White_Space`: 25 code points. -/
def isBlank (c : Char) : Bool :=
  let n := c.toNat
  (9 ≤ n && n ≤ 13) || n == 0x20 || n == 0x85 || n == 0xA0 || n == 0x1680 ||
    (0x2000 ≤ n && n ≤ 0x200A) || n == 0x2028 || n == 0x2029 || n == 0x202F ||
    n == 0x205F || n == 0x3000

def trimStart (cs : List Char) : List Char :=
  cs.dropWhile isBlank

def trimEnd (cs : List Char) : List Char :=
  (cs.reverse.dropWhile isBlank).reverse

def trim (cs : List Char) : List Char :=
  trimEnd (trimStart cs)

/-- A text is blank when it holds nothing but blanks. -/
def allBlank (cs : List Char) : Bool :=
  cs.all isBlank

/-! ## Lines and words -/

/-- Removes one carriage return from the end of a reversed line. -/
def dropReturn : List Char → List Char
  | '\r' :: rest => rest
  | cs => cs

/-- Collects lines; `acc` holds the characters of the unfinished line in reverse. -/
def linesFrom (acc : List Char) : List Char → List (List Char)
  | [] => if acc.isEmpty then [] else [acc.reverse]
  | c :: rest =>
      if c = '\n' then (dropReturn acc).reverse :: linesFrom [] rest
      else linesFrom (c :: acc) rest

/--
The lines of a text.  A line ends at a newline, which a carriage return may precede; the
terminator is not part of the line, and a text that ends with a newline has no empty last line.
-/
def lines (cs : List Char) : List (List Char) :=
  linesFrom [] cs

/-- Collects words; `acc` holds the characters of the unfinished word in reverse. -/
def wordsFrom (acc : List Char) : List Char → List (List Char)
  | [] => if acc.isEmpty then [] else [acc.reverse]
  | c :: rest =>
      if isBlank c then
        if acc.isEmpty then wordsFrom [] rest else acc.reverse :: wordsFrom [] rest
      else wordsFrom (c :: acc) rest

/-- The maximal runs of characters that are not blank. -/
def words (cs : List Char) : List (List Char) :=
  wordsFrom [] cs

/-- Splits at every occurrence of a character; there is always at least one part. -/
def splitAt (sep : Char) : List Char → List (List Char)
  | [] => [[]]
  | c :: rest =>
      if c = sep then [] :: splitAt sep rest
      else
        match splitAt sep rest with
        | [] => [[c]]
        | part :: parts => (c :: part) :: parts

/-! ## Searching and replacing -/

def occursIn (needle : List Char) : List Char → Bool
  | [] => needle.isEmpty
  | c :: rest => needle.isPrefixOf (c :: rest) || occursIn needle rest

/--
Replaces the occurrences of `needle`, found from left to right without overlap; `skip` counts the
characters of an occurrence that are still to be passed over.
-/
def replaceFrom (needle value : List Char) : Nat → List Char → List Char
  | _, [] => []
  | skip + 1, _ :: rest => replaceFrom needle value skip rest
  | 0, c :: rest =>
      if needle.isPrefixOf (c :: rest) then
        value ++ replaceFrom needle value (needle.length - 1) rest
      else c :: replaceFrom needle value 0 rest

/-- Replaces every occurrence of a needle that is not empty, from left to right. -/
def replaceAll (needle value cs : List Char) : List Char :=
  replaceFrom needle value 0 cs

/-- The ASCII letters in lower case, every other character kept. -/
def lower (cs : List Char) : List Char :=
  cs.map Char.toLower

/-- The number a run of decimal digits denotes. -/
def digitsValue (ds : List Char) : Nat :=
  ds.foldl (fun n d => 10 * n + (d.toNat - '0'.toNat)) 0

/-- A text whose first character is no blank has none at its front. -/
theorem trimStart_cons_of_not_blank {c : Char} {cs : List Char} (h : isBlank c = false) :
    trimStart (c :: cs) = c :: cs := by
  simp [trimStart, List.dropWhile, h]

end Chars
end Trainer
