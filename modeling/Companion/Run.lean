import Companion.Run.Settling

/-! Runs: find the source files below a path, compile them, and settle the files that come out.
Nothing is written before everything is compiled. -/
namespace Companion

structure Summary where
  units : Nat
  types : Nat
  artifacts : Nat
  written : List Path
  unchanged : List Path
  stale : List Path
  planned : List Path
  diagnostics : List Diagnostic
  deriving DecidableEq, Repr

namespace Summary

/-- The paths of the files with that disposition. -/
def withDisposition (d : Disposition) (settled : List (Path × Disposition)) : List Path :=
  (settled.filter fun s => s.2 = d).map Prod.fst

def of (c : Compilation) (settled : List (Path × Disposition)) : Summary where
  units := c.units
  types := c.types.length
  artifacts := c.generation.artifacts.length
  written := withDisposition .written settled
  unchanged := withDisposition .unchanged settled
  stale := withDisposition .stale settled
  planned := withDisposition .planned settled
  diagnostics := c.generation.diagnostics

/-- Whether nothing is out of date. -/
def isClean (s : Summary) : Bool := s.stale.isEmpty

end Summary

/-- Runs a generator on the files below a path. Gives the tree afterwards, also when the run
fails. -/
def Generator.run (g : Generator) (mode : Mode) (t : FileTree) (root : Path) :
    FileTree × Logged RunError Summary :=
  let compiled := t.compile g root
  match compiled.result with
  | .error e => (t, ⟨compiled.events, .error e⟩)
  | .ok c =>
    let (t, settled) := OutputFile.settleAll mode t c.files
    (t, do
      let _ ← compiled
      let settled ← settled
      return Summary.of c settled)

end Companion
