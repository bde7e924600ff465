import Companion.Compilation
import Companion.FileTree

/-! The source files of a run. Below a folder they are found in the order of their names, a folder
being entered where it stands; hidden folders and build output are passed over, but not when the run
starts in one. Generated files are not compiled. -/
namespace Companion

inductive RunError where
  | read (file : Path) (cause : FileError)
  /-- A source file that is not UTF-8. -/
  | notText (file : Path)
  | walk (root : Path) (cause : FileError)
  | write (file : Path) (cause : FileError)
  | compile (cause : CompileError)

def RunError.message : RunError → String
  | .read file cause => "Failed to read " ++ file.display ++ ": " ++ cause.message
  | .notText file => "Failed to read " ++ file.display ++ ": stream did not contain valid UTF-8"
  | .walk root cause =>
    "Failed to walk " ++ root.display ++ ": IO error for operation on " ++ root.display ++ ": " ++
      cause.message
  | .write file cause => "Failed to write " ++ file.display ++ ": " ++ cause.message
  | .compile cause => cause.message

/-- The folders that are passed over: hidden ones and build output. -/
def isSkippedFolder (name : RawText) : Bool :=
  name.decode.toList.head? = some '.' || name.decode = "target"

/-- Whether a file of that name is a source file. -/
def isSourceName (name : RawText) : Bool :=
  (Path.splitDot name.toList).2 = some (RawText.ofString "rs").toList

/-- The places of the source files in a folder, in the order of their names. -/
def Folder.sources : Folder → List (List RawText)
  | .empty => []
  | .file name _ rest => (if isSourceName name then [[name]] else []) ++ rest.sources
  | .folder name inner rest =>
    (if isSkippedFolder name then [] else inner.sources.map (name :: ·)) ++ rest.sources

/-- The path behind `root` at the given place. -/
def Path.below (root : Path) (place : List RawText) : Path := place.foldl Path.join root

namespace FileTree

/-- The source files below a path; a path that leads to a file is its own source file. -/
def discover (t : FileTree) (root : Path) : Logged RunError (List Path) :=
  match t.node root with
  | .ok (.file _) => return [root]
  | .ok (.folder f) => do
    let files := f.sources.map root.below
    Logged.report (.discovered files.length root)
    return files
  | .error cause => Logged.fail (.walk root cause)

/-- The text of a source file. -/
def readText (t : FileTree) (file : Path) : Except RunError String :=
  match t.read file with
  | .error cause => .error (.read file cause)
  | .ok bytes =>
    match String.fromUTF8? bytes with
    | some text => .ok text
    | none => .error (.notText file)

/-- The unit in a source file; a generated file holds none. -/
def load (t : FileTree) (file : Path) : Logged RunError (Option SourceUnit) := do
  let text ← Logged.ofExcept (t.readText file)
  if isGenerated text.toList then
    Logged.report (.skippedGenerated file)
    return none
  else
    let unit ← Logged.ofExcept ((SourceUnit.ofText file text).mapError .compile)
    return some unit

/-- The compilation of a source file. -/
def compileFile (t : FileTree) (g : Generator) (file : Path) : Logged RunError Compilation := do
  match ← t.load file with
  | none => return .empty
  | some unit => (Compilation.ofUnit g unit).mapError .compile

/-- The compilation of several source files. -/
def compileFiles (t : FileTree) (g : Generator) : List Path → Logged RunError Compilation
  | [] => return .empty
  | file :: files => do
    let first ← t.compileFile g file
    let others ← compileFiles t g files
    return first ++ others

/-- The compilation of all source files below a path. -/
def compile (t : FileTree) (g : Generator) (root : Path) : Logged RunError Compilation := do
  t.compileFiles g (← t.discover root)

end FileTree

end Companion
