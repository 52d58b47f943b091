import Mathlib
import Trainer.Proofs.Progress.Store

/-!
# A host in memory

A shelf keeps files in memory, in a given set of directories, and has room for more or has not.  It
is a host that keeps what a file system promises (`Shelf.keeps`): for every file but one that is its
own side file, whatever else lies on the shelf, and whether or not it is full.
-/

namespace Trainer

/-- The state of a host in memory. -/
structure Shelf where
  directories : List Path
  files : List (Path × String)
  /-- Whether nothing more can be written. -/
  full : Bool
deriving DecidableEq

namespace Shelf

def put (s : Shelf) (path : Path) (text : String) : Shelf :=
  { s with files := (path, text) :: s.files.filter (·.1 != path) }

def remove (s : Shelf) (path : Path) : Shelf :=
  { s with files := s.files.filter (·.1 != path) }

def kind? (path : Path) (s : Shelf) : Option FileKind :=
  if s.directories.contains path then some .directory
  else (s.files.lookup path).map fun _ => .file

def readText (path : Path) (s : Shelf) : Except IoError String :=
  if s.directories.contains path then .error .isDirectory
  else
    match s.files.lookup path with
    | some text => .ok text
    | none => .error .notFound

/-- Writes a file if there is room. -/
def writeText (path : Path) (text : String) : Act Shelf IoError Unit := fun s =>
  if s.directories.contains path then (.error .isDirectory, s)
  else if s.full then (.error (.other "No space left on device (os error 28)"), s)
  else (.ok (), s.put path text)

def rename (source target : Path) : Act Shelf IoError Unit := fun s =>
  if s.directories.contains source || s.directories.contains target then (.error .isDirectory, s)
  else
    match s.files.lookup source with
    | some text => (.ok (), (s.remove source).put target text)
    | none => (.error .notFound, s)

/-- The machine with a shelf for its files and a clock that stands still. -/
def host (now : Timestamp) : Host Shelf where
  now := fun _ => now
  kind? := kind?
  canonical := fun path _ => .ok path
  readText := readText
  filesBelow := fun root s => (s.files.map (·.1)).filter fun path => (root.below? path).isSome
  findsProgram := fun _ _ => false
  -- No file needs a directory to be made for it.
  makeDirs := fun _ s => (.ok (), s)
  writeText := writeText
  rename := rename
  openLog := fun _ s => (.ok (), s)
  lock := fun _ s => (.ok 0, s)
  unlock := fun _ s => s
  execute := fun _ _ _ s => (.error .notFound, s)

/-! ## Files after a change -/

theorem lookup_filter (l : List (Path × String)) {path q : Path} (hq : q ≠ path) :
    (l.filter (·.1 != path)).lookup q = l.lookup q := by
  induction l with
  | nil => rfl
  | cons x rest ih =>
      obtain ⟨k, text⟩ := x
      by_cases hk : k = path
      · have hbeq : (q == k) = false := by simpa [hk] using hq
        rw [List.filter_cons_of_neg (by simp [hk]), List.lookup_cons, hbeq]
        exact ih
      · rw [List.filter_cons_of_pos (by simp [hk]), List.lookup_cons, List.lookup_cons, ih]

/-- What was put on a shelf is found there, and the rest as before. -/
theorem lookup_put (s : Shelf) (path : Path) (text : String) (q : Path) :
    (s.put path text).files.lookup q = if q = path then some text else s.files.lookup q := by
  by_cases hq : q = path
  · simp [put, hq]
  · have hbeq : (q == path) = false := by simpa using hq
    rw [if_neg hq, put, List.lookup_cons, hbeq]
    exact lookup_filter s.files hq

theorem look_eq (now : Timestamp) (path : Path) (s : Shelf) : (host now).look path s =
    if s.directories.contains path then some (.error .isDirectory)
    else (s.files.lookup path).map .ok := by
  simp only [Host.look, Host.exists?, host, kind?, readText]
  split
  · rfl
  · cases s.files.lookup path with
    | none => rfl
    | some text => rfl

/-- What a reader finds depends on the directories and on the file that is asked for. -/
theorem look_congr (now : Timestamp) {path : Path} {s s' : Shelf}
    (hdirs : s'.directories = s.directories)
    (hfile : s'.files.lookup path = s.files.lookup path) :
    (host now).look path s' = (host now).look path s := by
  rw [look_eq, look_eq, hdirs, hfile]

/-! ## The promises -/

variable {now : Timestamp} {file : Path} {s s' : Shelf}

theorem writeText_cases {path : Path} {text : String} {r : Except IoError Unit}
    (h : writeText path text s = (r, s')) :
    (r = .ok () ∧ s.directories.contains path = false ∧ s' = s.put path text) ∨
      ((∃ cause, r = .error cause) ∧ s' = s) := by
  unfold writeText at h
  split at h
  · cases h
    exact .inr ⟨⟨_, rfl⟩, rfl⟩
  · rename_i hdir
    split at h
    · cases h
      exact .inr ⟨⟨_, rfl⟩, rfl⟩
    · cases h
      exact .inl ⟨rfl, by simpa using hdir, rfl⟩

theorem rename_cases {source target : Path} {r : Except IoError Unit}
    (h : rename source target s = (r, s')) :
    (∃ text, r = .ok () ∧ s.directories.contains source = false ∧
        s.directories.contains target = false ∧ s.files.lookup source = some text ∧
        s' = (s.remove source).put target text) ∨
      ((∃ cause, r = .error cause) ∧ s' = s) := by
  unfold rename at h
  split at h
  · cases h
    exact .inr ⟨⟨_, rfl⟩, rfl⟩
  · rename_i hdirs
    rw [Bool.or_eq_true, not_or] at hdirs
    split at h
    · rename_i text htext
      cases h
      exact .inl ⟨text, rfl, by simpa using hdirs.1, by simpa using hdirs.2, htext, rfl⟩
    · cases h
      exact .inr ⟨⟨_, rfl⟩, rfl⟩

/-- A shelf keeps its promises about every file that is not its own side file. -/
theorem keeps (now : Timestamp) (hside : Progress.sidePath file ≠ file) :
    (host now).Keeps file where
  look_makeDirs := by
    intro dir r s s' _ h
    cases h
    rfl
  look_write := by
    intro text r s s' h
    rcases writeText_cases h with ⟨-, -, rfl⟩ | ⟨-, rfl⟩
    · refine look_congr now rfl ?_
      rw [lookup_put, if_neg hside.symm]
    · rfl
  look_written := by
    intro text s s' h
    rcases writeText_cases h with ⟨-, hdir, rfl⟩ | ⟨⟨cause, hno⟩, -⟩
    · rw [look_eq, lookup_put, if_pos rfl]
      have hdir' : (s.put (Progress.sidePath file) text).directories.contains
          (Progress.sidePath file) = false := hdir
      rw [hdir']
      rfl
    · exact absurd hno (by simp)
  look_renamed := by
    intro s s' h
    rcases rename_cases h with ⟨text, -, hsource, htarget, htext, rfl⟩ | ⟨⟨cause, hno⟩, -⟩
    · have htarget' : ((s.remove (Progress.sidePath file)).put file text).directories.contains
          file = false := htarget
      rw [look_eq, look_eq, htarget', hsource, htext, lookup_put, if_pos rfl]
    · exact absurd hno (by simp)
  look_unrenamed := by
    intro cause s s' h
    rcases rename_cases h with ⟨text, hno, -⟩ | ⟨-, rfl⟩
    · exact absurd hno (by simp)
    · rfl

end Shelf
end Trainer
