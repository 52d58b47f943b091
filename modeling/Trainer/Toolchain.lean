import Trainer.Path
import Trainer.ShellWord
import Trainer.Toml.Decode

/-!
# Toolchains

A toolchain is a set of command lines with places for the paths of an exercise, plus a file that
may have to be created before the first build.  `Toolchain.render` fills the places one kind after
the other, each with a text quoted for the shell.
-/

namespace Trainer

/-- A file created in an exercise's directory before the first build. -/
structure Scaffold where
  file : String
  /-- May hold `{name}`. -/
  contents : String
deriving DecidableEq, Repr, Inhabited

/-- The command lines of a toolchain. -/
structure Toolchain where
  sourceExtension : String
  build : String
  run : String
  test : String
  testSuffix : String
  scaffold : Option Scaffold
deriving DecidableEq, Repr, Inhabited

/-- What a command line may refer to. -/
structure CommandContext where
  source : Path
  test : Path
  artifact : Path
  name : String
deriving DecidableEq, Repr, Inhabited

namespace Toolchain

/-- The text that stands for the name of an exercise. -/
def namePlace : String := "\x7bname\x7d"

/-- The toolchain of a project that configures none. -/
def standard : Toolchain where
  sourceExtension := "go"
  build := "go build -o \x7bartifact\x7d ."
  run := "\x7bartifact\x7d"
  test := "go test -v ."
  testSuffix := "_test"
  scaffold := some ⟨"go.mod", "module \x7bname\x7d\n\ngo 1.21\n"⟩

def testFileName (t : Toolchain) (stem : String) : String :=
  stem ++ t.testSuffix ++ "." ++ t.sourceExtension

def hasExtension (path : Path) (extension : String) : Bool :=
  path.extension? == some extension

def isSourceFile (t : Toolchain) (path : Path) : Bool :=
  hasExtension path t.sourceExtension

/-- Fills the places of a command line. -/
def render (template : String) (c : CommandContext) : String :=
  let filled := Text.replaceAll "\x7bsource\x7d" (ShellWord.quote c.source.text) template
  let filled := Text.replaceAll "\x7btest\x7d" (ShellWord.quote c.test.text) filled
  let filled := Text.replaceAll "\x7bartifact\x7d" (ShellWord.quote c.artifact.text) filled
  Text.replaceAll namePlace (ShellWord.quote c.name) filled

/-- The program that the build command starts with. -/
def program? (t : Toolchain) : Option String :=
  (Text.words t.build).head?

/-- Why the toolchain cannot be used. -/
inductive Unavailable where
  | noBuild
  | notFound (program : String)
deriving DecidableEq, Repr

def Unavailable.message : Unavailable → String
  | .noBuild => "toolchain.build command is empty"
  | .notFound program =>
      "Toolchain program '" ++ program ++ "' not found on PATH: cannot find binary path"

/-- Looks for the program that the build command starts with. -/
def checkAvailable (t : Toolchain) (found : String → Bool) : Except Unavailable Unit :=
  match t.program? with
  | none => .error .noBuild
  | some program => if found program then .ok () else .error (.notFound program)

/-- The contents of a scaffold file for an exercise. -/
def scaffoldContents (s : Scaffold) (name : String) : String :=
  Text.replaceAll namePlace name s.contents

/-! ## Configuration -/

def decodeScaffold : Toml.Decoder Scaffold := fun v => do
  let fs ← Toml.asFields v
  let file ← fs.required 0 "file" Toml.asString
  let contents ← fs.required 1 "contents" Toml.asString
  return ⟨file, contents⟩

/-- Reads a toolchain; what is missing is as usual, but no file is created unless one is named. -/
def decode : Toml.Decoder Toolchain := fun v => do
  let fs ← Toml.asFields v
  let sourceExtension ←
    fs.withDefault 0 "source_extension" standard.sourceExtension Toml.asString
  let build ← fs.withDefault 1 "build" standard.build Toml.asString
  let run ← fs.withDefault 2 "run" standard.run Toml.asString
  let test ← fs.withDefault 3 "test" standard.test Toml.asString
  let testSuffix ← fs.withDefault 4 "test_suffix" standard.testSuffix Toml.asString
  let scaffold ← fs.optional 5 ["scaffold"] decodeScaffold
  return { sourceExtension, build, run, test, testSuffix, scaffold }

end Toolchain
end Trainer
