import Trainer.Number
import Trainer.Shell.Utility.Basic
import Trainer.Shell.Utility.Search

/-!
# Utilities on text

The utilities that read text and write what they make of it.
-/

namespace Trainer
namespace Shell
namespace Utility

open Sh

/-! ## Copying and counting -/

/-- A byte as `cat` shows it when it is to show what cannot be seen. -/
def visible (c : Char) : Bytes :=
  let n := c.toNat
  if 128 ≤ n then 'M' :: '-' :: low (n - 128) else low n
where
  /-- The same for a byte of seven bits. -/
  low (n : Nat) : Bytes :=
    if n < 32 then ['^', Char.ofNat (n + 64)] else if n = 127 then ['^', '?'] else [Char.ofNat n]

/-- A line as `cat` shows it. -/
def shownLine (tabs others ends : Bool) (l : Bytes) : Bytes :=
  (l.flatMap fun c =>
    if c = '\t' then (if tabs then ['^', 'I'] else [c])
    else if others then visible c else [c]) ++ (if ends then ['$'] else [])

/-- Drops all but the first of neighbouring empty lines. -/
def joinEmpty (afterEmpty : Bool) : List Bytes → List Bytes
  | [] => []
  | l :: rest =>
      if l.isEmpty && afterEmpty then joinEmpty true rest else l :: joinEmpty l.isEmpty rest

def cat : Procedure := fun args => do
  let o := Options.parse [] args
  let files := if o.rest.isEmpty then ["-".toList] else o.rest
  let tabs := o.has 'T' || o.has 'A' || o.has 't'
  let ends := o.has 'E' || o.has 'A' || o.has 'e'
  let others := o.has 'v' || o.has 'A' || o.has 'e' || o.has 't'
  let mut status := 0
  let mut number := 1
  for f in files do
    if f = ['-'] && (← placeOf 0).isNone then
      complainText "cat: -: Bad file descriptor\ncat: closing standard input: Bad file descriptor"
      return 1
    match ← readPath f with
    | .ok (content, endless) =>
        if o.flags.isEmpty || o.flags = ['u'] then put content
        else
          let (ls, ended) := linesOf content
          let ls := if o.has 's' then joinEmpty false ls else ls
          let mut left := ls.length
          for l in ls do
            left := left - 1
            if o.has 'b' && !l.isEmpty || o.has 'n' && !o.has 'b' then
              let n := showNat number
              put (List.replicate (6 - n.length) ' ' ++ n ++ ['\t'])
              number := number + 1
            let complete := ended || 0 < left
            put (shownLine tabs others (ends && complete) l ++ if complete then ['\n'] else [])
        if endless then hang
    | .error e =>
        complainOf "cat: " f e
        status := 1
  return status

def tee : Procedure := fun args => do
  let o := Options.parse [] args
  let (content, endless) ← readAll 0
  put content
  let mut status := 0
  for f in o.rest do
    let t ← tree
    let outcome := if o.has 'a' then t.appendBytes (pathOf f) (packBytes content)
      else t.writeBytes (pathOf f) (packBytes content)
    match outcome with
    | .ok t => setTree t
    | .error e =>
        complainOf "tee: " f e
        status := 1
  if endless then hang
  return status

/-- The first or last lines or bytes of a text. -/
def cutEnds (fromEnd : Bool) (bytes : Bool) (count : Bytes) (content : Bytes) : Option Bytes :=
  let (sign, digits) :=
    match count with
    | '-' :: ds => (some '-', ds)
    | '+' :: ds => (some '+', ds)
    | ds => (none, ds)
  match number? digits with
  | none => none
  | some n =>
      let units := if bytes then content.map (fun c => [c])
        else
          let (ls, ended) := linesOf content
          match ls.reverse with
          | last :: before =>
              (before.reverse.map (· ++ ['\n'])) ++ [if ended then last ++ ['\n'] else last]
          | [] => []
      let size := units.length
      let kept :=
        if fromEnd then
          if sign = some '+' then units.drop (n - 1) else units.drop (size - n)
        else if sign = some '-' then units.take (size - n)
        else units.take n
      some kept.flatten

/-- The arguments with an old-style count such as `-5` spelled out. -/
def modernCount : List Bytes → List Bytes
  | ('-' :: d :: ds) :: rest =>
      if d.isDigit then "-n".toList :: (d :: ds) :: rest else ('-' :: d :: ds) :: rest
  | args => args

/-- The first or the last part of files. -/
def ends (name : String) (fromEnd : Bool) : Procedure := fun args => do
  let o := Options.parse ['n', 'c'] (modernCount args)
  let bytes := (o.value? 'c').isSome
  let count := ((o.value? 'c').or (o.value? 'n')).getD "10".toList
  let files := if o.rest.isEmpty then ["-".toList] else o.rest
  let mut status := 0
  let mut first := true
  for f in files do
    let input ←
      if f = "/dev/zero".toList then
        pure (.ok (List.replicate ((number? count).getD 0) '\x00', false))
      else readPath f
    match input with
    | .ok (content, endless) =>
        if fromEnd && endless then hang
        match cutEnds fromEnd bytes count content with
        | some text =>
            if 1 < files.length && !o.has 'q' then
              if !first then put ['\n']
              put ("==> ".toList ++ f ++ " <==\n".toList)
            put text
            first := false
        | none =>
            complain (name.toList ++ ": invalid number of ".toList ++
              (if bytes then "bytes" else "lines").toList ++ ": '".toList ++ count ++ ['\''])
            return 1
    | .error e =>
        complain (name.toList ++ ": cannot open '".toList ++ f ++ "' for reading: ".toList ++
          (systemText e).toList)
        status := 1
  return status

/-- The number of columns that a line takes, tabs going to multiples of eight. -/
def columnsOf (l : Bytes) : Nat :=
  l.foldl (fun n c => if c = '\t' then (n / 8 + 1) * 8 else n + 1) 0

def wc : Procedure := fun args => do
  let o := Options.parse [] args
  let chosen := fun c : Char => o.flags.isEmpty || o.has c
  let fromFile := match ← description 0 with
    | .file _ _ _ => true
    | _ => false
  let (inputs, status) ← readFiles "wc: " 1 o.rest
  let counts := fun content : Bytes =>
    (if chosen 'l' then [content.count '\n'] else []) ++
      (if chosen 'w' then [(Chars.words content).length] else []) ++
      (if o.has 'm' then [content.length] else []) ++
      (if chosen 'c' then [content.length] else []) ++
      (if o.has 'L' then [((linesOf content).1.map columnsOf).foldl max 0] else [])
  let rows := inputs.map fun x => (counts x.2, if o.rest.isEmpty then [] else ' ' :: x.1)
  let totals := rows.foldl
    (fun acc r => if acc.isEmpty then r.1 else List.zipWith (· + ·) acc r.1) []
  let rows := if 1 < o.rest.length then rows ++ [(totals, " total".toList)] else rows
  let size := sumOf (inputs.map fun x => x.2.length)
  let width :=
    if o.rest.length ≤ 1 && totals.length ≤ 1 then 1
    else if o.rest.isEmpty && !fromFile then 7 else (showNat size).length
  for (ns, label) in rows do
    let shown := ns.map fun n =>
      let s := showNat n
      List.replicate (width - s.length) ' ' ++ s
    put ((shown.intersperse [' ']).flatten ++ label ++ ['\n'])
  return status

/-! ## Characters -/

/-- The characters that an argument of `tr` denotes. -/
def trSet : Nat → Bytes → Bytes
  | 0, _ => []
  | _ + 1, [] => []
  | fuel + 1, '[' :: ':' :: rest =>
      let name := rest.takeWhile (· != ':')
      let chars := (List.range 256).map Char.ofNat |>.filter fun c =>
        (Glob.classRanges name).any fun r => r.1 ≤ c && c ≤ r.2
      chars ++ trSet fuel (rest.drop (name.length + 2))
  | fuel + 1, a :: '-' :: b :: rest =>
      if a ≤ b then
        ((List.range (b.toNat - a.toNat + 1)).map fun i => Char.ofNat (a.toNat + i)) ++
          trSet fuel rest
      else trSet fuel rest
  | fuel + 1, c :: rest => c :: trSet fuel rest

/-- Drops repetitions of a character that is in a set. -/
def squeeze (set : Bytes) (previous : Option Char) : Bytes → Bytes
  | [] => []
  | c :: rest =>
      if previous = some c ∧ set.contains c then squeeze set previous rest
      else c :: squeeze set (some c) rest

/-- Replaces, deletes or squeezes characters. -/
def tr : Procedure := fun args => do
  let o := Options.takeFrom [] false (args.length + 1) ⟨[], [], [], none⟩ args
  let sets := o.rest.map fun a =>
    let plain := (unescape false (a.length + 1) a).1
    trSet (plain.length + 1) plain
  let (content, endless) ← readAll 0
  let complemented := o.has 'c' || o.has 'C'
  let first := sets.headD []
  let inFirst := fun c : Char => first.contains c != complemented
  let result :=
    match sets with
    | [] => content
    | [_] =>
        if o.has 'd' then content.filter fun c => !inFirst c
        else
          let set := if complemented then ((List.range 256).map Char.ofNat).filter inFirst else first
          squeeze set none content
    | _ :: second :: _ =>
        if o.has 'd' then
          squeeze (if o.has 's' then second else []) none (content.filter fun c => !inFirst c)
        else
          let last := second.getLast?.getD ' '
          let mapped := content.map fun c =>
            if inFirst c then
              if complemented then last
              else (second[first.idxOf c]?).getD last
            else c
          if o.has 's' then squeeze second none mapped else mapped
  if sets.isEmpty then
    complainUsage "tr" "missing operand".toList
    return 1
  put result
  if endless then hang
  return 0

/-- The positions that a list of numbers and ranges selects. -/
def inRanges (spec : Bytes) (n : Nat) : Bool :=
  (Chars.splitAt ',' spec).any fun part =>
    match Chars.splitAt '-' part with
    | [a] => number? a == some n
    | [a, b] => decide ((number? a).getD 1 ≤ n) && decide (n ≤ (number? b).getD n)
    | _ => false

/-- Selects parts of lines. -/
def cut : Procedure := fun args => do
  let lead := "--output-delimiter=".toList
  let between := (args.find? lead.isPrefixOf).map fun a => a.drop lead.length
  let o := Options.parse ['d', 'f', 'c', 'b'] (args.filter fun a => !lead.isPrefixOf a)
  let (inputs, status) ← readFiles "cut: " 1 o.rest
  let delimiter := ((o.value? 'd').bind List.head?).getD '\t'
  for (_, content) in inputs do
    for l in (linesOf content).1 do
      match (o.value? 'c').or (o.value? 'b') with
      | some spec =>
          put (((l.zip (List.range l.length)).filter fun x =>
            inRanges spec (x.2 + 1)).map Prod.fst ++ ['\n'])
      | none =>
          let parts := Chars.splitAt delimiter l
          let spec := (o.value? 'f').getD "1".toList
          if parts.length = 1 then
            if !o.has 's' then put (l ++ ['\n'])
          else
            let kept := ((parts.zip (List.range parts.length)).filter fun x =>
              inRanges spec (x.2 + 1)).map Prod.fst
            put ((kept.intersperse (between.getD [delimiter])).flatten ++ ['\n'])
  return status

/-! ## Lines -/

/-- Whether a list of bytes comes before another or is equal to it. -/
def bytesLe : Bytes → Bytes → Bool
  | [], _ => true
  | _ :: _, [] => false
  | a :: as, b :: bs => a < b || (a == b && bytesLe as bs)

/-- The number at the start of a line. -/
def leadingNumber (l : Bytes) : Int :=
  match l.dropWhile fun c => c == ' ' || c == '\t' with
  | '-' :: ds => -((Chars.digitsValue (ds.takeWhile Char.isDigit) : Nat) : Int)
  | ds => (Chars.digitsValue (ds.takeWhile Char.isDigit) : Nat)

/-- The field of a line to sort by. -/
def sortField (separator : Option Char) (field : Nat) (l : Bytes) : Bytes :=
  let parts :=
    match separator with
    | some c => Chars.splitAt c l
    | none => Chars.words l
  (parts[field - 1]?).getD []

/-- Drops lines that are equal to the one before. -/
def dropRepeated (same : Bytes → Bytes → Bool) : List Bytes → List Bytes
  | [] => []
  | l :: rest =>
      match dropRepeated same rest with
      | m :: more => if same l m then l :: more else l :: m :: more
      | [] => [l]

def sort : Procedure := fun args => do
  let o := Options.parse ['k', 't', 'o'] args
  let (inputs, status) ← readFiles "sort: cannot read: " 2 o.rest
  let ls := inputs.flatMap fun x => (linesOf x.2).1
  let field := ((o.value? 'k').map fun k => Chars.digitsValue (k.takeWhile Char.isDigit)).getD 0
  let numeric := o.has 'n' || ((o.value? 'k').map fun k => k.contains 'n').getD false
  let key := fun l : Bytes =>
    let l := if field = 0 then l else sortField ((o.value? 't').bind List.head?) field l
    if o.has 'f' then l.map Char.toUpper else l
  let keyLe := fun a b : Bytes =>
    if numeric then decide (leadingNumber (key a) ≤ leadingNumber (key b))
    else bytesLe (key a) (key b)
  let same := fun a b : Bytes => keyLe a b && keyLe b a
  let le := fun a b : Bytes =>
    if same a b then o.has 'u' || o.has 's' || (if o.has 'r' then bytesLe b a else bytesLe a b)
    else if o.has 'r' then keyLe b a else keyLe a b
  let sorted := ls.mergeSort le
  let sorted := if o.has 'u' then dropRepeated same sorted else sorted
  match o.value? 'o' with
  | some f =>
      match (← tree).writeBytes (pathOf f) (packBytes (unlines sorted)) with
      | .ok t => setTree t
      | .error e => complainOf "sort: open failed: " f e
  | none => put (unlines sorted)
  return status

/-- Runs of equal lines with their lengths. -/
def runsOf : List Bytes → List (Nat × Bytes)
  | [] => []
  | l :: rest =>
      match runsOf rest with
      | (n, m) :: more => if l = m then (n + 1, m) :: more else (1, l) :: (n, m) :: more
      | [] => [(1, l)]

/-- Joins equal neighbouring lines. -/
def uniq : Procedure := fun args => do
  let o := Options.parse [] args
  let (inputs, status) ← readFiles "uniq: " 1 o.rest
  let runs := runsOf (inputs.flatMap fun x => (linesOf x.2).1)
  for (n, l) in runs do
    let wanted := (!o.has 'd' || 1 < n) && (!o.has 'u' || n == 1)
    if wanted then
      let count := showNat n
      let lead := if o.has 'c' then List.replicate (7 - count.length) ' ' ++ count ++ [' '] else []
      put (lead ++ l ++ ['\n'])
  return status

def rev : Procedure := fun args => do
  let (inputs, status) ← readFiles "rev: cannot open " 1 args
  for (_, content) in inputs do
    let (ls, ended) := linesOf content
    let text := unlines (ls.map List.reverse)
    put (if ended then text else text.dropLast)
  return status

/-- A number with a fraction: the digits as one integer, and how many of them are decimals. -/
def decimalOf? (a : Bytes) : Option (Int × Nat) :=
  let (negative, digits) :=
    match a with
    | '-' :: ds => (true, ds)
    | '+' :: ds => (false, ds)
    | ds => (false, ds)
  let whole := digits.takeWhile Char.isDigit
  let fraction? : Option Bytes :=
    match digits.drop whole.length with
    | [] => some []
    | '.' :: ds => if ds.all Char.isDigit then some ds else none
    | _ => none
  match fraction? with
  | none => none
  | some fraction =>
      if whole.isEmpty && fraction.isEmpty then none
      else
        let n : Int := Chars.digitsValue (whole ++ fraction)
        some (if negative then -n else n, fraction.length)

/-- An integer with a point in front of its last digits. -/
def showDecimal (places : Nat) (n : Int) : Bytes :=
  if places = 0 then showInt n
  else
    let digits := showNat n.natAbs
    let digits := List.replicate (places + 1 - digits.length) '0' ++ digits
    (if n < 0 then ['-'] else []) ++ digits.take (digits.length - places) ++
      '.' :: digits.drop (digits.length - places)

def seq : Procedure := fun args => do
  let optional := fun a : Bytes => ['-', 'w'].isPrefixOf a || ['-', 's'].isPrefixOf a
  let o := if (args.head?.map optional).getD false then
      Options.takeFrom ['s'] false 3 ⟨[], [], [], none⟩ args
    else ⟨[], [], args, none⟩
  let args := o.rest
  let separator := (o.value? 's').getD ['\n']
  match args.find? fun a => (decimalOf? a).isNone with
  | some a =>
      complainUsage "seq" ("invalid floating point argument: ".toList ++ '\'' :: a ++ ['\''])
      return 1
  | none =>
      let numbers := args.filterMap decimalOf?
      let places := (numbers.map Prod.snd).foldl max 0
      let scaled := numbers.map fun x => x.1 * (tenTo (places - x.2) : Int)
      let unit : Int := tenTo places
      let run := fun (a step b : Int) =>
        let count := if step = 0 then 0 else ((b - a).tdiv step + 1).toNat
        let count := if (0 < step ∧ b < a) ∨ (step < 0 ∧ a < b) then 0 else count
        (List.range count).map fun i : Nat => showDecimal places (a + step * (i : Int))
      let items? :=
        match scaled with
        | [b] => some (run unit unit b)
        | [a, b] => some (run a unit b)
        | [a, step, b] => some (run a step b)
        | _ => none
      match items? with
      | none =>
          complainUsage "seq" (if args.isEmpty then "missing operand".toList
            else "extra operand ".toList ++ '\'' :: (args[3]?).getD [] ++ ['\''])
          return 1
      | some items =>
          let width := (items.map List.length).foldl max 0
          let items := if o.has 'w' then
              items.map fun s => List.replicate (width - s.length) '0' ++ s else items
          if !items.isEmpty then put ((items.intersperse separator).flatten ++ ['\n'])
          return 0

/-! ## Searching -/

/-- What is to be searched: the files, or those below the directories among them. -/
def searched (deep : Bool) (files : List Bytes) : Sh (List Bytes) := do
  let t ← tree
  let files := if deep && files.isEmpty then [".".toList] else files
  return files.flatMap fun f =>
    match deep, t.lookup (pathOf f) with
    | true, .ok (place, .directory) =>
        let inner := (t.filesBelow place).map fun names =>
          bytesOf (Text.join "/" (names.drop place.length))
        let f := if f.getLast? = some '/' then f else f ++ ['/']
        (inner.mergeSort bytesLe).map fun n => f ++ n
    | _, _ => [f]

/-- The lines to show around hits: each with its number and whether it is a hit; nothing stands
between groups that do not touch. -/
def withContext (before after : Nat) (ls : List (Bytes × Nat)) (hit : Bytes → Bool) :
    List (Option (Bytes × Nat × Bool)) :=
  let hits := (ls.filter fun x => hit x.1).map Prod.snd
  let near := ls.filter fun x => hits.any fun i =>
    decide (i ≤ x.2 + before) && decide (x.2 ≤ i + after)
  let shown := near.map fun x => (x.1, x.2, hits.contains x.2)
  let rec groups : List (Bytes × Nat × Bool) → List (Option (Bytes × Nat × Bool))
    | [] => []
    | [x] => [some x]
    | x :: y :: rest =>
        some x :: (if y.2.1 = x.2.1 + 1 then [] else [none]) ++ groups (y :: rest)
  groups shown

def grep (extendedUsual fixedUsual : Bool) : Procedure := fun args => do
  let o := Options.parse ['e', 'f', 'm', 'A', 'B', 'C'] (args.filter fun a => a.take 2 != ['-', '-'])
  let extended := extendedUsual || o.has 'E' || o.has 'P'
  let fixed := fixedUsual || o.has 'F'
  let given := (o.values.filter fun x => x.1 == 'e').map Prod.snd
  let listed ← match o.value? 'f' with
    | none => pure []
    | some f =>
        match ← readPath f with
        | .ok (content, _) => pure (linesOf content).1
        | .error e => do
            complainOf "grep: " f e
            return 2
  let given := given ++ listed
  let (patterns, files) :=
    match given, o.rest with
    | [], p :: files => ([p], files)
    | ps, files => (ps, files)
  if patterns.isEmpty then
    complainText "Usage: grep [OPTION]... PATTERNS [FILE]...\nTry 'grep --help' for more information."
    return 2
  let all := patterns.flatMap (Chars.splitAt '\n')
  let literal := fun p : Bytes => p.foldr (fun c r => Search.Re.seq (.literal c) r) .empty
  let parsed := all.map fun p => if fixed then some (literal p) else Search.parse? extended p
  if parsed.any Option.isNone then
    complainText "grep: Invalid regular expression"
    return 2
  let expressions := parsed.filterMap id
  let fold := o.has 'i' || o.has 'y'
  let hit := fun l : Bytes =>
    (expressions.any fun r =>
      let r := if o.has 'x' then Search.Re.seq .lineStart (.seq r .lineEnd)
        else if o.has 'w' then Search.Re.seq (.wordEdge true) (.seq r (.wordEdge true))
        else r
      (Search.find fold r l 0).isSome) != o.has 'v'
  let deep := o.has 'r' || o.has 'R'
  let targets ← searched deep files
  let silent := o.has 's'
  let t ← tree
  let failing := targets.filter fun f => silent && !(t.isFile (pathOf f)) && f != ['-']
  let (inputs, failed) ← if targets.length = failing.length && !targets.isEmpty then pure ([], 0)
    else readFiles "grep: " 2 (targets.filter fun f => !failing.contains f)
  let failed := if failing.isEmpty then failed else 2
  let named := (1 < files.length || deep) && !o.has 'h' || o.has 'H'
  let most := (o.value? 'm').bind number?
  let around := ((o.value? 'C').bind number?).getD 0
  let before := ((o.value? 'B').bind number?).getD around
  let after := ((o.value? 'A').bind number?).getD around
  let mut found := false
  for (f, content) in inputs do
    let name := if f = ['-'] then "(standard input)".toList else f
    let ls := (linesOf content).1
    let numbered := ls.zip (List.range ls.length)
    let hits := numbered.filter fun x => hit x.1
    let hits := match most with
      | some m => hits.take m
      | none => hits
    if !hits.isEmpty then found := true
    let lead := fun separator : Char => if named then name ++ [separator] else []
    if o.has 'q' then pure ()
    else if o.has 'c' then put (lead ':' ++ showNat hits.length ++ ['\n'])
    else if o.has 'l' then
      if !hits.isEmpty then put (name ++ ['\n'])
    else if o.has 'L' then
      if hits.isEmpty then put (name ++ ['\n'])
    else if o.has 'o' then
      for (l, i) in hits do
        let number := if o.has 'n' then showNat (i + 1) ++ [':'] else []
        for r in expressions do
          let mut start := 0
          for _ in List.range (l.length + 1) do
            match Search.find fold r l start with
            | some (a, b, _) =>
                if a < b then put (lead ':' ++ number ++ (l.drop a).take (b - a) ++ ['\n'])
                start := if a < b then b else b + 1
            | none => start := l.length + 1
    else
      let chosen := hits.map Prod.snd
      let shown := if before + after = 0 then hits.map fun x => some (x.1, x.2, true)
        else
          let last := match most, hits.getLast? with
            | some _, some x => x.2 + after
            | _, _ => ls.length
          withContext before after (numbered.filter fun x => decide (x.2 ≤ last)) fun l =>
            hit l && (numbered.any fun x => x.1 == l && chosen.contains x.2)
      for line in shown do
        match line with
        | none => put "--\n".toList
        | some (l, i, isHit) =>
            let separator := if isHit then ':' else '-'
            let number := if o.has 'n' then showNat (i + 1) ++ [separator] else []
            put (lead separator ++ number ++ l ++ ['\n'])
  if failed ≠ 0 && !(found && o.has 'q') then return 2
  return if found then 0 else 1

end Utility
end Shell
end Trainer
