import Trainer.Text

/-!
# Words for the shell

`ShellWord.quote` writes a text so that the shell reads it back as exactly one word.
-/

namespace Trainer
namespace ShellWord

/-- Characters that mean nothing to the shell. -/
def isSafe (c : Char) : Bool :=
  c.isAlphanum || c == '-' || c == '_' || c == '=' || c == '/' || c == ',' || c == '.' || c == '+'

/-- A character between single quotes; quotes and exclamation marks step out of them. -/
def quoteChar (c : Char) : List Char :=
  if c = '\'' ∨ c = '!' then ['\'', '\\', c, '\''] else [c]

def quoteChars (cs : List Char) : List Char :=
  if !cs.isEmpty && cs.all isSafe then cs
  else '\'' :: (cs.flatMap quoteChar ++ ['\''])

/-- A text as one word. -/
def quote (s : String) : String :=
  String.ofList (quoteChars s.toList)

end ShellWord
end Trainer
