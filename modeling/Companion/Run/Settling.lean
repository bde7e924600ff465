import Companion.Run.Sources

/-! Settling the files that come out of a run: to write those that differ, to say which differ, or
to say which there are. A file is written whole. -/
namespace Companion

/-- What becomes of a file. -/
inductive Disposition where
  | written | unchanged | stale | planned
  deriving DecidableEq, Repr

inductive Mode where
  /-- Write the files that differ. -/
  | write
  /-- Say which files differ. -/
  | check
  /-- Say which files there are. -/
  | dryRun
  deriving DecidableEq, Repr

namespace FileTree

/-- Whether a file holds the contents; a file that is not there does not. -/
def holds (t : FileTree) (file : Path) (contents : ByteArray) : Except RunError Bool :=
  match t.read file with
  | .ok found => .ok (found.data = contents.data)
  | .error .notFound => .ok false
  | .error cause => .error (.write file cause)

/-- Gives a file the contents, unless it holds them already. -/
def writeOutput (t : FileTree) (file : Path) (contents : ByteArray) :
    Logged RunError (Disposition × FileTree) := do
  if ← Logged.ofExcept (t.holds file contents) then
    Logged.report (.upToDate file)
    return (.unchanged, t)
  else
    let written ← Logged.ofExcept ((t.write file contents).mapError (.write file))
    Logged.report (.wroteBytes file contents.size)
    return (.written, written)

/-- Whether a file holds the contents already, so that nothing is to be written. -/
def checkOutput (t : FileTree) (file : Path) (contents : ByteArray) : Except RunError Bool :=
  t.holds file contents

end FileTree

namespace OutputFile

def bytes (f : OutputFile) : ByteArray := f.contents.toUTF8

/-- Settles one file. -/
def settle (mode : Mode) (t : FileTree) (f : OutputFile) :
    Logged RunError (Disposition × FileTree) :=
  match mode with
  | .write => do
    let (disposition, t) ← t.writeOutput f.path f.bytes
    if disposition = .written then Logged.report (.wrote f.path)
    return (disposition, t)
  | .check => do
    if ← Logged.ofExcept (t.checkOutput f.path f.bytes) then return (.unchanged, t)
    else
      Logged.report (.outOfDate f.path)
      return (.stale, t)
  | .dryRun => do
    Logged.report (.wouldWrite f.path)
    return (.planned, t)

/-- Settles several files in turn, until one cannot be settled. -/
def settleAll (mode : Mode) :
    FileTree → List OutputFile → FileTree × Logged RunError (List (Path × Disposition))
  | t, [] => (t, pure [])
  | t, f :: fs =>
    let first := f.settle mode t
    match first.result with
    | .error e => (t, ⟨first.events, .error e⟩)
    | .ok (disposition, t) =>
      let (t, rest) := settleAll mode t fs
      (t, do
        let _ ← first
        let others ← rest
        return (f.path, disposition) :: others)

end OutputFile

end Companion
