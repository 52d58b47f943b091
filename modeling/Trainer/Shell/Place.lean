import Trainer.Shell.Utility.Basics

/-!
# Places

What the names in a command lead to: files that are opened for it, and programs that are run.
-/

namespace Trainer
namespace Shell

open Sh Utility

/-! ## Files -/

/-- The absolute name of the working directory. -/
def dirName (dir : List String) : Bytes :=
  bytesOf (Path.ofNames dir).text

/-- Opens a path for a redirection and gives the place of its description. -/
def openPath (target : Bytes) (writing append create : Bool) : Sh (Except Bytes Nat) := do
  let special : Option Description :=
    match String.ofList target with
    | "/dev/null" => some .nothing
    | "/dev/zero" => some .zeros
    | _ => none
  let standard : Option Nat :=
    match String.ofList target with
    | "/dev/stdin" => some 0
    | "/dev/stdout" => some 1
    | "/dev/stderr" => some 2
    | _ => none
  match special, standard with
  | some d, _ => return .ok (← newDescription d)
  | none, some fd =>
      match ← placeOf fd with
      | some i => return .ok i
      | none => return .error "cannot open: Bad file descriptor".toList
  | none, none =>
      let t ← tree
      let path := pathOf target
      let refuse := fun (doing reason : String) =>
        Except.error ((doing ++ " ").toList ++ target ++ (": " ++ reason).toList)
      if writing then
        let outcome :=
          if append && t.isFile path then .ok t
          else if create && !append then t.writeBytes path ByteArray.empty
          else if t.exists? path then .ok t
          else t.writeBytes path ByteArray.empty
        match outcome with
        | .ok t => do
            setTree t
            match t.resolve path with
            | .ok place => return .ok (← newDescription (.file place 0 append))
            | .error e => return refuse "cannot create" (systemText e)
        | .error .notFound => return refuse "cannot create" "Directory nonexistent"
        | .error e => return refuse "cannot create" (systemText e)
      else
        match t.lookup path with
        | .ok (place, .file _ _) => return .ok (← newDescription (.file place 0 false))
        | .ok (_, .directory) => return .ok (← newDescription .none)
        | .error .notFound => return refuse "cannot open" "No such file"
        | .error e => return refuse "cannot open" (systemText e)

/-! ## Programs -/

/-- What a name of a program leads to. -/
inductive Found where
  | utility (name : String)
  | script (path contents : Bytes)
  | refused (reason : Bytes) (status : Nat)

/-- The directories of the system in which programs are found. -/
def systemDirs : List String := ["/bin", "/usr/bin", "/bin/", "/usr/bin/"]

/-- What a path leads to as a program. -/
def programAt (path : Bytes) : Sh Found := do
  let known := fun front : String =>
    if front.toList.isPrefixOf path then
      some (String.ofList (path.drop front.length)) |>.filter isProgram
    else none
  match (known "/bin/").or (known "/usr/bin/") with
  | some utility => return .utility utility
  | none =>
      match (← tree).lookup (pathOf path) with
      | .error .notFound => return .refused "not found".toList 127
      | .error e => return .refused (systemText e).toList 126
      | .ok (_, .directory) => return .refused "Permission denied".toList 126
      | .ok (_, .file i contents) =>
          if (← tree).executable.contains i then return .script path (unpackBytes contents)
          else return .refused "Permission denied".toList 126

/-- Looks a program up in directories, one after the other. -/
def searchDirs (name : Bytes) : List Bytes → Sh Found
  | [] => return .refused "not found".toList 127
  | dir :: rest => do
      if systemDirs.contains (String.ofList dir) && isProgram (String.ofList name) then
        return .utility (String.ofList name)
      match ← programAt (if dir.isEmpty then name else dir ++ '/' :: name) with
      | .refused _ _ => searchDirs name rest
      | found => return found

def findProgram (name : Bytes) : Sh Found := do
  if name.isEmpty then return .refused "Permission denied".toList 127
  if (Utility.within.lookup (String.ofList name)).isSome then return .utility (String.ofList name)
  if name.contains '/' then programAt name
  else
    let path := (← getVar "PATH".toList).getD "/usr/bin:/bin".toList
    searchDirs name (Chars.splitAt ':' path)

/-- The program that the first line of a script names, and the options for it. -/
def interpreterOf (contents : Bytes) : Option Bytes × List Char :=
  match contents with
  | '#' :: '!' :: rest =>
      match Chars.words (rest.takeWhile (· != '\n')) with
      | path :: more =>
          let base := (path.reverse.takeWhile (· != '/')).reverse
          let (base, more) := if base = "env".toList then (more.headD [], more.drop 1) else (base, more)
          let options := match more with
            | ('-' :: letters) :: _ => letters
            | _ => []
          (some base, options)
      | [] => (none, [])
  | _ => (none, [])

end Shell
end Trainer
