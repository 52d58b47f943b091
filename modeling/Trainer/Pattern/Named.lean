import Trainer.Unicode.Category
import Trainer.Unicode.Script
import Trainer.Unicode.Property
import Trainer.Unicode.CaseFolding

/-!
# Named classes of characters

The classes that a pattern can refer to by name: general categories, scripts and binary properties
(`named?`), the classes of words, digits and blanks, and the ASCII classes in brackets.
-/

namespace Trainer
namespace Pattern

/-! ## Names -/

/-- Drops an `is` in front, in any letter case. -/
def dropIs : List Char → List Char
  | a :: b :: rest =>
      if (a = 'i' ∨ a = 'I') ∧ (b = 's' ∨ b = 'S') then rest else a :: b :: rest
  | cs => cs

/-- A name without blanks, underscores, hyphens and letter case, by which names are compared. -/
def normalName (cs : List Char) : String :=
  let kept := fun c : Char => c != ' ' && c != '_' && c != '-' && c.toNat < 128
  let plain := (Chars.lower (dropIs cs)).filter kept
  if plain = ['c'] ∧ dropIs cs ≠ cs then "isc" else String.ofList plain

/-- The general categories: their two letters (or the one letter of a group) and other names. -/
def categoryNames : List (String × List String) := [
  ("C", ["c", "other"]), ("Cc", ["cc", "control", "cntrl"]), ("Cf", ["cf", "format"]),
  ("Cn", ["cn", "unassigned"]), ("Co", ["co", "privateuse"]), ("L", ["l", "letter"]),
  ("LC", ["lc", "casedletter"]), ("Ll", ["ll", "lowercaseletter"]),
  ("Lm", ["lm", "modifierletter"]), ("Lo", ["lo", "otherletter"]),
  ("Lt", ["lt", "titlecaseletter"]), ("Lu", ["lu", "uppercaseletter"]),
  ("M", ["m", "mark", "combiningmark"]), ("Mc", ["mc", "spacingmark"]),
  ("Me", ["me", "enclosingmark"]), ("Mn", ["mn", "nonspacingmark"]), ("N", ["n", "number"]),
  ("Nd", ["nd", "decimalnumber", "digit"]), ("Nl", ["nl", "letternumber"]),
  ("No", ["no", "othernumber"]), ("P", ["p", "punctuation", "punct"]),
  ("Pc", ["pc", "connectorpunctuation"]), ("Pd", ["pd", "dashpunctuation"]),
  ("Pe", ["pe", "closepunctuation"]), ("Pf", ["pf", "finalpunctuation"]),
  ("Pi", ["pi", "initialpunctuation"]), ("Po", ["po", "otherpunctuation"]),
  ("Ps", ["ps", "openpunctuation"]), ("S", ["s", "symbol"]), ("Sc", ["sc", "currencysymbol"]),
  ("Sk", ["sk", "modifiersymbol"]), ("Sm", ["sm", "mathsymbol"]), ("So", ["so", "othersymbol"]),
  ("Z", ["z", "separator"]), ("Zl", ["zl", "lineseparator"]),
  ("Zp", ["zp", "paragraphseparator"]), ("Zs", ["zs", "spaceseparator"])]

/-- Whether a category belongs to a category or to a group of categories. -/
def categoryWithin (group category : String) : Bool :=
  if group = "LC" then category = "Lu" ∨ category = "Ll" ∨ category = "Lt"
  else Text.startsWith group category

/-- The characters of a general category, or of one of the three classes beside them. -/
def category? (name : String) : Option CharSet :=
  if name = "any" then some CharSet.all
  else if name = "ascii" then some CharSet.ascii
  else if name = "assigned" then
    some (CharSet.inter (Unicode.withCategory (· != "Cn")) CharSet.all)
  else
    (categoryNames.find? fun x => x.2.contains name).map fun x =>
      CharSet.inter (Unicode.withCategory (categoryWithin x.1)) CharSet.all

def inTable? (table : List (List String × String)) (name : String) : Option CharSet :=
  (table.find? fun x => x.1.any fun n => normalName n.toList == name).map fun x =>
    CharSet.ofTable x.2

def script? (name : String) : Option CharSet :=
  inTable? Unicode.scripts name

def property? (name : String) : Option CharSet :=
  inTable? Unicode.properties name

/-- The class that a name in braces denotes: a property, a category or a script. -/
def simpleNamed? (name : String) : Option CharSet :=
  (property? name).or ((category? name).or (script? name))

/-- The class that a name of a kind of class and a name of that kind denote. -/
def valueNamed? (kind value : String) : Option CharSet :=
  if kind = "gc" ∨ kind = "generalcategory" then category? value
  else if kind = "sc" ∨ kind = "script" then script? value
  else none

/-- Cuts at the first occurrence of a separator. -/
def cutAt? (separator : List Char) : List Char → Option (List Char × List Char)
  | [] => none
  | c :: rest =>
      if separator.isPrefixOf (c :: rest) then some ([], (c :: rest).drop separator.length)
      else (cutAt? separator rest).map fun x => (c :: x.1, x.2)

/-- The class that the text in braces denotes; it may be negated by `!=`. -/
def named? (cs : List Char) : Option CharSet :=
  match cutAt? ['!', '='] cs with
  | some (kind, value) =>
      (valueNamed? (normalName kind) (normalName value)).map CharSet.complement
  | none =>
      match (cutAt? [':'] cs).or (cutAt? ['='] cs) with
      | some (kind, value) => valueNamed? (normalName kind) (normalName value)
      | none => simpleNamed? (normalName cs)

/-! ## Classes with a letter -/

/-- The letters, marks, digits and joiners that words are made of. -/
def wordChars (unicode : Bool) : CharSet :=
  if unicode then
    [category? "m", category? "nd", category? "pc", property? "joincontrol"].foldl
      (fun s t => s.union (t.getD CharSet.empty)) ((property? "alphabetic").getD CharSet.empty)
  else CharSet.ofRanges [(0x30, 0x39), (0x41, 0x5A), (0x5F, 0x5F), (0x61, 0x7A)]

def digitChars (unicode : Bool) : CharSet :=
  if unicode then (category? "nd").getD CharSet.empty else CharSet.ofRanges [(0x30, 0x39)]

def blankChars (unicode : Bool) : CharSet :=
  if unicode then (property? "whitespace").getD CharSet.empty
  else CharSet.ofRanges [(0x09, 0x0D), (0x20, 0x20)]

/-! ## ASCII classes -/

/-- The class that a name between colons in brackets denotes. -/
def asciiClass? (name : List Char) : Option CharSet :=
  let ranges : List (String × List (Nat × Nat)) := [
    ("alnum", [(0x30, 0x39), (0x41, 0x5A), (0x61, 0x7A)]),
    ("alpha", [(0x41, 0x5A), (0x61, 0x7A)]),
    ("ascii", [(0x00, 0x7F)]),
    ("blank", [(0x09, 0x09), (0x20, 0x20)]),
    ("cntrl", [(0x00, 0x1F), (0x7F, 0x7F)]),
    ("digit", [(0x30, 0x39)]),
    ("graph", [(0x21, 0x7E)]),
    ("lower", [(0x61, 0x7A)]),
    ("print", [(0x20, 0x7E)]),
    ("punct", [(0x21, 0x2F), (0x3A, 0x40), (0x5B, 0x60), (0x7B, 0x7E)]),
    ("space", [(0x09, 0x0D), (0x20, 0x20)]),
    ("upper", [(0x41, 0x5A)]),
    ("word", [(0x30, 0x39), (0x41, 0x5A), (0x5F, 0x5F), (0x61, 0x7A)]),
    ("xdigit", [(0x30, 0x39), (0x41, 0x46), (0x61, 0x66)])]
  (ranges.lookup (String.ofList name)).map CharSet.ofRanges

/-! ## Letter case -/

/-- The pairs of ASCII letters. -/
def asciiCasePairs : List (Nat × Nat) :=
  (List.range 26).map fun i => (0x41 + i, 0x61 + i)

/-- Adds the other letter cases of the characters of a set. -/
def foldCase (unicode : Bool) (s : CharSet) : CharSet :=
  s.closeUnder (if unicode then Unicode.casePairs else asciiCasePairs)

end Pattern
end Trainer
