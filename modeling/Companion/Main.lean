import Companion.CommandLine

/-! The program: takes the files that a run may look at into a file tree, runs on it, and writes the
files that the run wrote. Files are opened under the texts of their names, so it sees only those
whose names are text. -/
namespace Companion

/-- Adds the file at a path. What cannot be read is left out. -/
def addFile (t : FileTree) (p : Path) : IO FileTree := do
  try
    match t.put p (← IO.FS.readBinFile p.display) with
    | .ok t => return t
    | .error _ => return t
  catch _ => return t

/-- Adds the files in a folder, and, if `deep`, those in the folders inside that a run enters. -/
partial def addFolder (deep : Bool) (t : FileTree) (p : Path) : IO FileTree := do
  let mut t := (t.makeFolder p).toOption.getD t
  for entry in ← (← IO.FS.realPath p.display).readDir do
    let inside := p.join entry.fileName
    if ← entry.path.isDir then
      t := (t.makeFolder inside).toOption.getD t
      if deep && !isSkippedFolder entry.fileName then t ← addFolder deep t inside
    else t ← addFile t inside
  return t

/-- The folder of a path, which is the current one for a bare name. -/
def folderOf (p : Path) : Path :=
  let folder := p.directory
  if folder.spelling.isEmpty then ⟨"."⟩ else folder

/-- The files that a run on a path may look at. -/
def snapshot (root : Path) : IO FileTree := do
  try
    if ← (← IO.FS.realPath root.display).isDir then addFolder true .empty root
    else addFolder false .empty (folderOf root)
  catch _ => return .empty

/-- The files that a command may look at. -/
def Command.snapshot : Command → IO FileTree
  | .run invocation => Companion.snapshot invocation.root
  | _ => return .empty

def environment : IO Environment := do
  return ⟨← IO.getEnv "ANNOGEN_PATH", ← IO.getEnv "ANNOGEN_LOG_FORMAT", ← IO.getEnv "RUST_LOG"⟩

/-- A line of the log. -/
def logLine : Value → String
  | .text s => s
  | v => v.json

end Companion

open Companion in
def main (arguments : List String) : IO UInt32 := do
  let env ← environment
  let before ← (CommandLine.read env arguments).snapshot
  let execution := CommandLine.execute env arguments before
  for path in execution.written do
    if let .ok contents := execution.tree.read path then IO.FS.writeBinFile path.display contents
  for entry in execution.log do IO.eprintln (logLine entry)
  for line in execution.output do IO.println line
  return execution.exit.toUInt32
