/-!
# Failures of the operating system

The ways in which a request to the file system or to the process table can fail, with the wording
of the system's error texts.
-/

namespace Trainer

/-- Why the operating system refused a request. -/
inductive IoError where
  | notFound
  | alreadyExists
  | notDirectory
  | isDirectory
  | nameTooLong
  /-- A path with a NUL character. -/
  | nulInPath
  /-- A command line with a NUL character. -/
  | nulInCommand
  /-- A file read as text whose bytes are not UTF-8. -/
  | notText
  /-- Any other refusal, with the system's own wording. -/
  | other (wording : String)
deriving DecidableEq, Repr, Inhabited

def IoError.message : IoError → String
  | .notFound => "No such file or directory (os error 2)"
  | .alreadyExists => "File exists (os error 17)"
  | .notDirectory => "Not a directory (os error 20)"
  | .isDirectory => "Is a directory (os error 21)"
  | .nameTooLong => "File name too long (os error 36)"
  | .nulInPath => "file name contained an unexpected NUL byte"
  | .nulInCommand => "nul byte found in provided data"
  | .notText => "stream did not contain valid UTF-8"
  | .other wording => wording

end Trainer
