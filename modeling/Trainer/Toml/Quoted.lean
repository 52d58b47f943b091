import Trainer.Text

/-!
# Quoted TOML text

The four written forms of a string: basic and literal, on one line or on several.  The readers
start after the opening quotes and give the text and what follows the closing quotes; the writers
give the whole form.
-/

namespace Trainer
namespace Toml

/-! ## Characters -/

/-- The control characters, delete included. -/
def isControl (c : Char) : Bool :=
  c.toNat < 0x20 || c.toNat == 0x7F

/-- What may stand unescaped in a text on one line: anything but control characters, tabs excepted. -/
def isPlain (c : Char) : Bool :=
  c == '\t' || !isControl c

/-- The value of a hexadecimal digit. -/
def hexValue? (c : Char) : Option Nat :=
  let n := c.toNat
  if '0' ≤ c ∧ c ≤ '9' then some (n - 48)
  else if 'a' ≤ c ∧ c ≤ 'f' then some (n - 87)
  else if 'A' ≤ c ∧ c ≤ 'F' then some (n - 55)
  else none

/-- The number that exactly `count` hexadecimal digits denote. -/
def hexNumber? (count : Nat) (cs : List Char) : Option Nat :=
  let ds := cs.take count
  if ds.length = count then
    ds.foldlM (fun n c => (hexValue? c).map (16 * n + ·)) 0
  else none

/-- The character with a code point, if it is one. -/
def charOfCode? (n : Nat) : Option Char :=
  if n < 0xD800 ∨ (0xDFFF < n ∧ n < 0x110000) then some (Char.ofNat n) else none

/-- Reads what follows a backslash: the character and how many characters denote it. -/
def escape? : List Char → Option (Char × Nat)
  | [] => none
  | c :: rest =>
      if c = 'b' then some ('\x08', 1)
      else if c = 't' then some ('\t', 1)
      else if c = 'n' then some ('\n', 1)
      else if c = 'f' then some ('\x0c', 1)
      else if c = 'r' then some ('\r', 1)
      else if c = 'e' then some ('\x1b', 1)
      else if c = '"' then some ('"', 1)
      else if c = '\\' then some ('\\', 1)
      else if c = 'x' then ((hexNumber? 2 rest).bind charOfCode?).map (·, 3)
      else if c = 'u' then ((hexNumber? 4 rest).bind charOfCode?).map (·, 5)
      else if c = 'U' then ((hexNumber? 8 rest).bind charOfCode?).map (·, 9)
      else none

/-! ## Reading -/

/-- Puts a character in front of a read text. -/
def consText (c : Char) (r : Option (List Char × List Char)) : Option (List Char × List Char) :=
  r.map fun (text, rest) => (c :: text, rest)

/-- Reads a basic string on one line; `skip` characters of an escape are still to be passed over. -/
def readBasic : Nat → List Char → Option (List Char × List Char)
  | _, [] => none
  | skip + 1, _ :: rest => readBasic skip rest
  | 0, c :: rest =>
      if c = '"' then some ([], rest)
      else if c = '\\' then
        match escape? rest with
        | some (d, n) => consText d (readBasic n rest)
        | none => none
      else if isPlain c then consText c (readBasic 0 rest)
      else none

/-- Reads a literal string on one line. -/
def readLiteral : List Char → Option (List Char × List Char)
  | [] => none
  | c :: rest =>
      if c = '\'' then some ([], rest)
      else if isPlain c then consText c (readLiteral rest)
      else none

/-- Whether a line ends here. -/
def atNewline : List Char → Bool
  | '\n' :: _ => true
  | '\r' :: '\n' :: _ => true
  | _ => false

/-- Drops the newline right after opening quotes. -/
def dropNewline : List Char → List Char
  | '\n' :: rest => rest
  | '\r' :: '\n' :: rest => rest
  | cs => cs

/-- How many quotes stand here, at most five. -/
def quoteRun (q : Char) (cs : List Char) : Nat :=
  ((cs.takeWhile (· == q)).take 5).length

/-- What the reader of a text on several lines is about to do. -/
inductive Mode where
  /-- Read the next character. -/
  | read
  /-- Pass over the rest of an escape. -/
  | skip (n : Nat)
  /-- Take quotes that belong to the text, before the closing ones. -/
  | quotes (n : Nat)
  /-- Pass over blanks and newlines after a backslash at the end of a line. -/
  | join

/-- Reads a basic string on several lines. -/
def readLongBasic : Mode → List Char → Option (List Char × List Char)
  | _, [] => none
  | .skip (n + 1), _ :: rest => readLongBasic (if n = 0 then .read else .skip n) rest
  | .quotes (n + 1), c :: rest => consText c (readLongBasic (.quotes n) rest)
  | .quotes 0, _ :: rest => some ([], rest.drop 2)
  | .skip 0, _ :: _ => none
  | mode, c :: rest =>
      let joining := match mode with
        | .join => true
        | _ => false
      if joining && (c == ' ' || c == '\t' || c == '\n') then readLongBasic .join rest
      else if joining && c == '\r' && rest.head? == some '\n' then readLongBasic .join rest
      else if c = '"' then
        if quoteRun '"' (c :: rest) < 3 then consText c (readLongBasic .read rest)
        else if quoteRun '"' (c :: rest) = 3 then some ([], rest.drop 2)
        else consText c (readLongBasic (.quotes (quoteRun '"' (c :: rest) - 4)) rest)
      else if c = '\\' then
        if atNewline (rest.dropWhile fun d => d == ' ' || d == '\t') then readLongBasic .join rest
        else
          match escape? rest with
          | some (d, n) => consText d (readLongBasic (.skip n) rest)
          | none => none
      else if isPlain c || c == '\n' || (c == '\r' && rest.head? == some '\n') then
        consText c (readLongBasic .read rest)
      else none

/-- Reads a literal string on several lines. -/
def readLongLiteral : Option Nat → List Char → Option (List Char × List Char)
  | _, [] => none
  | some (n + 1), c :: rest => consText c (readLongLiteral (some n) rest)
  | some 0, _ :: rest => some ([], rest.drop 2)
  | none, c :: rest =>
      if c = '\'' then
        if quoteRun '\'' (c :: rest) < 3 then consText c (readLongLiteral none rest)
        else if quoteRun '\'' (c :: rest) = 3 then some ([], rest.drop 2)
        else consText c (readLongLiteral (some (quoteRun '\'' (c :: rest) - 4)) rest)
      else if isPlain c || c == '\n' || (c == '\r' && rest.head? == some '\n') then
        consText c (readLongLiteral none rest)
      else none

/-- Reads a string in any of its forms. -/
def readString : List Char → Option (List Char × List Char)
  | '"' :: '"' :: '"' :: rest => readLongBasic .read (dropNewline rest)
  | '"' :: rest => readBasic 0 rest
  | '\'' :: '\'' :: '\'' :: rest => readLongLiteral none (dropNewline rest)
  | '\'' :: rest => readLiteral rest
  | _ => none

/-! ## Writing -/

/-- A hexadecimal digit in upper case. -/
def hexDigit (n : Nat) : Char :=
  if n < 10 then Char.ofNat (48 + n) else Char.ofNat (55 + n)

def escapeControl (c : Char) : List Char :=
  if c = '\x08' then ['\\', 'b']
  else if c = '\t' then ['\\', 't']
  else if c = '\n' then ['\\', 'n']
  else if c = '\x0c' then ['\\', 'f']
  else if c = '\r' then ['\\', 'r']
  else ['\\', 'u', '0', '0', hexDigit (c.toNat / 16), hexDigit (c.toNat % 16)]

/-- A character within a basic string on one line. -/
def escapeBasic (c : Char) : List Char :=
  if c = '"' then ['\\', '"']
  else if c = '\\' then ['\\', '\\']
  else if isControl c then escapeControl c
  else [c]

def writeBasic (cs : List Char) : List Char :=
  '"' :: (cs.flatMap escapeBasic ++ ['"'])

def enclose (mark : List Char) (cs : List Char) : List Char :=
  mark ++ cs ++ mark

/-- The body of a basic string on several lines; `run` quotes stand directly before. -/
def longBasicBody : Nat → List Char → List Char
  | _, [] => []
  | run, c :: rest =>
      if c = '"' then
        if run = 2 then '\\' :: '"' :: longBasicBody 0 rest
        else '"' :: longBasicBody (run + 1) rest
      else if c = '\\' then '\\' :: '\\' :: longBasicBody 0 rest
      else if c = '\n' then c :: longBasicBody 0 rest
      else if isControl c then escapeControl c ++ longBasicBody 0 rest
      else c :: longBasicBody 0 rest

/-- The length of the longest run of a character; `run` of them stand directly before. -/
def longestRun (q : Char) : Nat → List Char → Nat
  | run, [] => run
  | run, c :: rest =>
      if c = q then longestRun q (run + 1) rest else max run (longestRun q 0 rest)

/-- A form on several lines; it starts with a newline of its own if the text has any. -/
def encloseLong (mark body text : List Char) : List Char :=
  mark ++ (if text.contains '\n' then ['\n'] else []) ++ body ++ mark

/-- Whether a character forces an escape: a control character other than tab and newline. -/
def isCode (c : Char) : Bool :=
  isControl c && c != '\t' && c != '\n'

/-- Writes a string value in the first form that shows it without escapes, if there is one. -/
def writeString (cs : List Char) : List Char :=
  let codes := cs.any isCode
  let newline := cs.contains '\n'
  let basicMark := ['"', '"', '"']
  let literalMark := ['\'', '\'', '\'']
  if !codes && !newline && !cs.contains '\\' && !cs.contains '"' then writeBasic cs
  else if !codes && !newline && !cs.contains '\'' then enclose ['\''] cs
  else if !codes && !cs.contains '\\' && decide (longestRun '"' 0 cs ≤ 2) then
    encloseLong basicMark (longBasicBody 0 cs) cs
  else if !codes && decide (longestRun '\'' 0 cs ≤ 2) then encloseLong literalMark cs cs
  else if newline then encloseLong basicMark (longBasicBody 0 cs) cs
  else writeBasic cs

/-- What may stand in a key without quotes. -/
def isBare (c : Char) : Bool :=
  c.isAlphanum || c == '_' || c == '-'

/-- Writes a key: bare if possible, else quoted. -/
def writeKey (cs : List Char) : List Char :=
  let escapes := cs.any fun c => (isControl c && c != '\t')
  if !cs.isEmpty && cs.all isBare then cs
  else if !escapes && !cs.contains '\\' && !cs.contains '"' then writeBasic cs
  else if !escapes && !cs.contains '\'' then enclose ['\''] cs
  else writeBasic cs

end Toml
end Trainer
