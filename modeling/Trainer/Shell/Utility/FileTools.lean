import Trainer.Shell.Utility.TextTools

/-!
# Utilities on files

The utilities that make, move, remove and list files.
-/

namespace Trainer
namespace Shell
namespace Utility

open Sh

/-- A text in single quotes, as error texts show file names. -/
def inQuotes (f : Bytes) : Bytes := '\'' :: f ++ ['\'']

/-- Complains about what could not be done with a file. -/
def complainDoing (utility doing : String) (f : Bytes) (e : IoError) : Sh Unit :=
  complain ((utility ++ ": " ++ doing ++ " ").toList ++ inQuotes f ++
    (": " ++ systemText e).toList)

/-- Tries a change of the tree for each file; one failure makes the status one. -/
def forFiles (files : List Bytes) (change : Bytes → FileTree → Except IoError FileTree)
    (refuse : Bytes → IoError → Sh Unit) : Sh Nat := do
  let mut status := 0
  for f in files do
    match change f (← tree) with
    | .ok t => setTree t
    | .error e =>
        refuse f e
        status := 1
  return status

def touch : Procedure := fun args => do
  let o := Options.parse [] args
  if o.rest.isEmpty then
    complainUsage "touch" "missing file operand".toList
    return 1
  forFiles o.rest
    (fun f t =>
      if t.exists? (pathOf f) || o.has 'c' then .ok t
      else t.writeBytes (pathOf f) ByteArray.empty)
    (complainDoing "touch" "cannot touch")

def mkdir : Procedure := fun args => do
  let o := Options.parse ['m'] args
  if o.rest.isEmpty then
    complainUsage "mkdir" "missing operand".toList
    return 1
  forFiles o.rest
    (fun f t => if o.has 'p' then t.makeDirs (pathOf f) else t.makeDir (pathOf f))
    (complainDoing "mkdir" "cannot create directory")

def rmdir : Procedure := fun args => do
  let o := Options.parse [] args
  forFiles o.rest
    (fun f t =>
      match t.lookup (pathOf f) with
      | .error e => .error e
      | .ok (_, .file _ _) => .error .notDirectory
      | .ok (place, .directory) =>
          if (t.children place).isEmpty then .ok (t.cut place)
          else .error (.other "Directory not empty"))
    (complainDoing "rmdir" "failed to remove")

def rm : Procedure := fun args => do
  let o := Options.parse [] args
  let whole := o.has 'r' || o.has 'R'
  if o.rest.isEmpty && !o.has 'f' then
    complainUsage "rm" "missing operand".toList
    return 1
  forFiles o.rest
    (fun f t =>
      match t.lookup (pathOf f) with
      | .error .notFound => if o.has 'f' then .ok t else .error .notFound
      | .error e => .error e
      | .ok (place, .file _ _) => .ok (t.cut place)
      | .ok (place, .directory) =>
          if whole then .ok (t.cut place)
          else if o.has 'd' && (t.children place).isEmpty then .ok (t.cut place)
          else .error .isDirectory)
    (complainDoing "rm" "cannot remove")

/-- The target of a copy or a move: a place within it if it is a directory. -/
def targetOf (t : FileTree) (source target : Bytes) : Path :=
  if t.isDirectory (pathOf target) then
    match (pathOf source).fileName? with
    | some name => (pathOf target).join name
    | none => pathOf target
  else pathOf target

/-- Copies a file with its permission to be executed. -/
def copyFile (t : FileTree) (source : List String) (target : Path) : Except IoError FileTree :=
  match t.get? source with
  | some (.file i contents) =>
      match t.writeBytes target contents with
      | .error e => .error e
      | .ok t' =>
          match t'.lookup target with
          | .ok (place, .file j _) =>
              if place = source then .ok t
              else if t.executable.contains i && !t.exists? target then
                .ok { t' with executable := j :: t'.executable }
              else .ok t'
          | _ => .ok t'
  | _ => .error .notFound

/-- Copies a directory and everything below it. -/
def copyDirectory (t : FileTree) (source : List String) (target : Path) :
    Except IoError FileTree := do
  let t ← t.makeDirs target
  let below := (t.entries.filter fun x => source.isPrefixOf x.1 && x.1 != source).mergeSort
    fun x y => decide (x.1.length ≤ y.1.length)
  below.foldlM (fun t x =>
    let inner := target.join (Text.join "/" (x.1.drop source.length))
    match x.2 with
    | .directory => t.makeDirs inner
    | .file _ _ => copyFile t x.1 inner) t

def cp : Procedure := fun args => do
  let o := Options.parse [] args
  match o.rest.reverse with
  | target :: s :: more =>
      let sources := (s :: more).reverse
      if 1 < sources.length && !(← tree).isDirectory (pathOf target) then
        complain ("cp: target ".toList ++ inQuotes target ++ ": No such file or directory".toList)
        return 1
      let mut status := 0
      for source in sources do
        let t ← tree
        let place := targetOf t source target
        match t.lookup (pathOf source) with
        | .error e =>
            complainDoing "cp" "cannot stat" source e
            status := 1
        | .ok (names, .directory) =>
            if o.has 'r' || o.has 'R' || o.has 'a' then
              match copyDirectory t names place with
              | .ok t => setTree t
              | .error e =>
                  complainDoing "cp" "cannot create directory" target e
                  status := 1
            else
              complain ("cp: -r not specified; omitting directory ".toList ++ inQuotes source)
              status := 1
        | .ok (names, .file _ _) =>
            match copyFile t names place with
            | .ok t => setTree t
            | .error e =>
                complainDoing "cp" "cannot create regular file" (bytesOf place.text) e
                status := 1
      return status
  | [_] =>
      complainUsage "cp" ("missing destination file operand after ".toList ++
        inQuotes (o.rest.headD []))
      return 1
  | [] =>
      complainUsage "cp" "missing file operand".toList
      return 1

def mv : Procedure := fun args => do
  let o := Options.parse [] args
  match o.rest.reverse with
  | target :: s :: more =>
      let mut status := 0
      for source in (s :: more).reverse do
        let t ← tree
        if !t.exists? (pathOf source) then
          complainDoing "mv" "cannot stat" source .notFound
          status := 1
        else
          match t.rename (pathOf source) (targetOf t source target) with
          | .ok t => setTree t
          | .error e =>
              complain ("mv: cannot move ".toList ++ inQuotes source ++ " to ".toList ++
                inQuotes target ++ (": " ++ systemText e).toList)
              status := 1
      return status
  | [_] =>
      complainUsage "mv" ("missing destination file operand after ".toList ++
        inQuotes (o.rest.headD []))
      return 1
  | [] =>
      complainUsage "mv" "missing file operand".toList
      return 1

/-- Whether a mode lets a file be executed; nothing if it says nothing about that. -/
def executableBy (mode : Bytes) : Option Bool :=
  if mode.all Char.isDigit then
    some ((mode.reverse.drop 2).head?.any fun c => (c.toNat - 48) % 2 == 1)
  else if mode.contains 'x' then some (!mode.contains '-')
  else none

def chmod : Procedure := fun args => do
  match args.filter fun a => a != "-R".toList with
  | mode :: files =>
      forFiles files
        (fun f t =>
          match t.lookup (pathOf f) with
          | .error e => .error e
          | .ok (_, .directory) => .ok t
          | .ok (_, .file i _) =>
              match executableBy mode with
              | some true => .ok { t with executable := i :: t.executable.filter (· != i) }
              | some false => .ok { t with executable := t.executable.filter (· != i) }
              | none => .ok t)
        (complainDoing "chmod" "cannot access")
  | [] =>
      complainUsage "chmod" "missing operand".toList
      return 1

/-- The names to list, without hidden ones unless asked for. -/
def listed (o : Options) (names : List String) : List Bytes :=
  let names := names.map bytesOf
  let names := if o.has 'a' || o.has 'A' then names
    else names.filter fun n => n.head? != some '.'
  let names := if o.has 'a' then ".".toList :: "..".toList :: names else names
  let sorted := names.mergeSort bytesLe
  if o.has 'r' then sorted.reverse else sorted

/-- A name as `ls` shows it, with a slash behind a directory if that is asked for. -/
def listedName (o : Options) (t : FileTree) (dir : List String) (name : Bytes) : Bytes :=
  let place := match nameOf name with
    | "." => dir
    | ".." => dir.dropLast
    | n => dir ++ [n]
  match t.get? place with
  | some .directory => if o.has 'F' || o.has 'p' then name ++ ['/'] else name
  | some (.file i _) => if o.has 'F' && t.executable.contains i then name ++ ['*'] else name
  | none => name

/-- Names as `ls` lays them out. -/
def layOut (o : Options) (names : List Bytes) : Bytes :=
  if o.has 'm' && !names.isEmpty then (names.intersperse ", ".toList).flatten ++ ['\n']
  else unlines names

/-- The directories to list: those named and, if all levels are asked for, those below them. -/
def listedDirs (o : Options) (t : FileTree) : Nat → Bytes × List String →
    List (Bytes × List String)
  | 0, _ => []
  | depth + 1, (f, place) =>
      if !o.has 'R' then [(f, place)]
      else
        let inner := (listed { o with flags := o.flags.filter (· != 'a') } (t.children place)).map
          nameOf |>.filter fun n =>
            match t.get? (place ++ [n]) with
            | some .directory => true
            | _ => false
        (f, place) :: inner.flatMap fun n =>
          listedDirs o t depth (f ++ '/' :: bytesOf n, place ++ [n])

def ls : Procedure := fun args => do
  let o := Options.parse [] args
  let files := if o.rest.isEmpty then [".".toList] else o.rest.mergeSort bytesLe
  let t ← tree
  let mut status := 0
  let mut plain : List Bytes := []
  let mut dirs : List (Bytes × List String) := []
  for f in files do
    match t.lookup (pathOf f) with
    | .error e =>
        complainDoing "ls" "cannot access" f e
        status := 2
    | .ok (names, .directory) =>
        if o.has 'd' then plain := plain ++ [f]
        else dirs := dirs ++ listedDirs o t (t.entries.length + 1) (f, names)
    | .ok (_, .file _ _) => plain := plain ++ [f]
  put (layOut o plain)
  let mut first := plain.isEmpty
  for (f, names) in dirs do
    if 1 < files.length || o.has 'R' then
      if !first then put ['\n']
      put (f ++ ":\n".toList)
    first := false
    put (layOut o ((listed o (t.children names)).map (listedName o t names)))
  return status

def basename : Procedure := fun args => do
  match args with
  | [] =>
      complainUsage "basename" "missing operand".toList
      return 1
  | p :: more =>
      let trimmed := (p.reverse.dropWhile (· == '/')).reverse
      let name :=
        if trimmed.isEmpty then (if p.isEmpty then [] else ['/'])
        else (trimmed.reverse.takeWhile (· != '/')).reverse
      let ending := more.headD []
      let name := if ending.isSuffixOf name && name != ending then
          name.take (name.length - ending.length) else name
      put (name ++ ['\n'])
      return 0

def dirname : Procedure := fun args => do
  if args.isEmpty then
    complainUsage "dirname" "missing operand".toList
    return 1
  for p in args do
    let trimmed := (p.reverse.dropWhile (· == '/')).reverse
    let dir := ((trimmed.reverse.dropWhile (· != '/')).dropWhile (· == '/')).reverse
    put ((if !dir.isEmpty then dir else if p.head? = some '/' then ['/'] else ['.']) ++ ['\n'])
  return 0

/-- Compares two files byte by byte. -/
def cmp : Procedure := fun args => do
  let o := Options.parse [] args
  match o.rest with
  | [a, b] =>
      let (inputs, failed) ← readFiles "cmp: " 2 [a, b]
      if failed ≠ 0 then return 2
      let x := (inputs.headD ([], [])).2
      let y := ((inputs.drop 1).headD ([], [])).2
      let same := ((x.zip y).takeWhile fun p => p.1 == p.2).length
      if same = x.length && same = y.length then return 0
      let silent := o.has 's'
      if same = min x.length y.length then
        let shorter := if x.length < y.length then a else b
        if !silent then
          complain ("cmp: EOF on ".toList ++ shorter ++ (if same = 0 then " which is empty" else
            " after byte " ++ toString same).toList)
        return 1
      if !silent then
        let line := (x.take same).count '\n' + 1
        put (a ++ [' '] ++ b ++ " differ: byte ".toList ++ showNat (same + 1) ++
          ", line ".toList ++ showNat line ++ ['\n'])
      return 1
  | _ =>
      complainUsage "cmp" "missing operand".toList
      return 2

/-- The entries below a place with their paths, a directory before what is in it. -/
def entriesBelow (t : FileTree) : Nat → Bytes × List String → List (Bytes × List String)
  | 0, _ => []
  | depth + 1, (f, place) =>
      (f, place) :: ((t.children place).map bytesOf |>.mergeSort bytesLe).flatMap fun n =>
        entriesBelow t depth
          (if f.getLast? = some '/' then f ++ n else f ++ '/' :: n, place ++ [nameOf n])

/-- Lists the entries below places that have a name or a kind. -/
def find : Procedure := fun args => do
  let places := args.takeWhile fun a => a.head? != some '-'
  let tests := args.drop places.length
  let places := if places.isEmpty then [".".toList] else places
  let t ← tree
  let rec fits (x : Bytes × List String) : List Bytes → Bool
    | ['-', 'n', 'a', 'm', 'e'] :: p :: rest =>
        let name := (x.1.reverse.takeWhile (· != '/')).reverse
        Glob.fits (Glob.items (p.map (·, false))) name && fits x rest
    | ['-', 't', 'y', 'p', 'e'] :: k :: rest =>
        (match t.get? x.2 with
          | some .directory => k == ['d']
          | some (.file _ _) => k == ['f']
          | none => false) && fits x rest
    | _ :: rest => fits x rest
    | [] => true
  let mut status := 0
  for p in places do
    match t.lookup (pathOf p) with
    | .error e =>
        complain ("find: ".toList ++ inQuotes p ++ (": " ++ systemText e).toList)
        status := 1
    | .ok (place, _) =>
        put (unlines (((entriesBelow t (t.entries.length + 1) (p, place)).filter
          fun x => fits x tests).map Prod.fst))
  return status

end Utility
end Shell
end Trainer
