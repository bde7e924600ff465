import Companion.Generation
import Companion.Text.Blank

/-! Output files. The artifacts of one directive in one source file go to a companion file next to
the source. Its first line is a marker, by which generated files are known. -/
namespace Companion

/-- The first line of every generated file. -/
def generatedMarker : String := "// Code generated by annogen; DO NOT EDIT."

/-- Whether a text is a generated file: its first line is the marker, blanks at its end aside. -/
def isGenerated (text : List Char) : Bool :=
  Text.trimEnd (text.takeWhile (· ≠ '\n')) = generatedMarker.toList

/-- The companion file of a source for a directive. Its name is a text, made of what the source's
name decodes to, while the directory keeps its bytes. -/
def Path.companion (source : Path) (directive : String) : Path :=
  source.withFileName <| source.stem.decode ++ "_" ++ directive ++ "." ++
    (source.extension?.map RawText.decode).getD "rs"

def Artifact.path (a : Artifact) : Path := a.source.companion a.directive

structure OutputFile where
  path : Path
  contents : String
  deriving DecidableEq, Repr

namespace OutputFile

/-- The bodies that go to one file. -/
structure Group where
  path : Path
  bodies : List String
  deriving DecidableEq, Repr

/-- Adds a body to the group with that path, or a new group behind the others. -/
def addBody (path : Path) (body : String) : List Group → List Group
  | [] => [⟨path, [body]⟩]
  | g :: gs =>
    if g.path.same path then ⟨g.path, g.bodies ++ [body]⟩ :: gs else g :: addBody path body gs

/-- The artifacts by the file they go to, in the order in which the files are first met. -/
def groups (artifacts : List Artifact) : List Group :=
  artifacts.foldl (fun gs a => addBody a.path a.body gs) []

/-- The file that a group makes. -/
def ofGroup (g : Group) : OutputFile :=
  ⟨g.path, generatedMarker ++ "\n\n" ++ String.intercalate "\n" g.bodies⟩

/-- The files that artifacts make. -/
def assemble (artifacts : List Artifact) : List OutputFile := (groups artifacts).map ofGroup

end OutputFile
end Companion
