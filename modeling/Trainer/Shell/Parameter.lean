import Trainer.Shell.Field
import Trainer.Shell.Reading

/-!
# Parameters

The values of parameters as elements of words, and the home directories that tildes stand for.
-/

namespace Trainer
namespace Shell

open Sh Utility

/-- The letters of the options of the shell. -/
def optionLetters : List Char :=
  ['e', 'f', 'I', 'i', 'm', 'n', 's', 'x', 'v', 'V', 'E', 'C', 'a', 'b', 'u']

/-- The value of a parameter that is no list. -/
def paramValue (name : Bytes) : Sh (Option Bytes) := do
  let p ← process
  match name with
  | ['?'] => return some (showNat p.status)
  | ['$'] => return some (showNat p.shownPid)
  | ['#'] => return some (showNat p.args.length)
  | ['-'] => return some (optionLetters.reverse.filter fun c => p.options.contains c)
  | ['!'] => return p.lastJob.map showNat
  | ['0'] => return some p.name
  | ['@'] => return if p.args.isEmpty then none else some ((p.args.intersperse [' ']).flatten)
  | ['*'] => return if p.args.isEmpty then none else some ((p.args.intersperse [' ']).flatten)
  | name =>
      match number? name with
      | some n => return p.args[n - 1]?
      | none => return p.vars.lookup name

/-- The characters at which fields are split. -/
def fieldSeparators : Sh Bytes := do
  return (← getVar "IFS".toList).getD [' ', '\t', '\n']

/-- Text as elements of a word. -/
def elementsOf (quoted : Bool) (cs : Bytes) : List Element :=
  if quoted then cs.map fun c => Element.fixed c true else cs.map Element.loose

/-- The positional parameters as elements of a word. -/
def elementsOfArgs (quoted : Bool) (star : Bool) : Sh (List Element) := do
  let args := (← process).args
  if quoted && star then
    let ifs ← fieldSeparators
    return elementsOf true ((args.intersperse (ifs.take 1)).flatten)
  else if args.isEmpty then return [.void]
  else
    return ((args.map (elementsOf quoted)).intersperse [.gap]).flatten

/-- Replaces a tilde in front by the home directory, the own one or that of `root`. -/
def tilde (w : Word) : Sh Word := do
  match w with
  | .char '~' false :: rest =>
      let user := rest.takeWhile fun p => match p with
        | .char c false => c != '/'
        | _ => false
      let alone := match rest.drop user.length with
        | [] => true
        | .char '/' false :: _ => true
        | _ => false
      let home ← match plainText user with
        | some [] => getVar "HOME".toList
        | some name => pure (if name = "root".toList then some "/root".toList else none)
        | none => pure none
      match alone, home with
      | true, some home => return home.map (Part.char · true) ++ rest.drop user.length
      | _, _ => return w
  | w => return w

/-- Lets a tilde behind a colon stand for the home directory as well. -/
def tildesIn : Word → Word
  | .char ':' false :: .char '~' false :: rest =>
      match rest with
      | [] => [.char ':' false, .param "HOME".toList .plain true]
      | .char c false :: _ =>
          if c = '/' ∨ c = ':' then
            .char ':' false :: .param "HOME".toList .plain true :: tildesIn rest
          else .char ':' false :: .char '~' false :: tildesIn rest
      | _ => .char ':' false :: .char '~' false :: tildesIn rest
  | p :: rest => p :: tildesIn rest
  | [] => []

end Shell
end Trainer
