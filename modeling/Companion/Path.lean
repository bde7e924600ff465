import Companion.Text.Raw

/-! Paths. A path keeps the spelling it was given, which is what messages show. What it leads to is
decided by its components: repeated slashes and inner `.` do not count, a leading `.` and every `..`
do. The name of a file splits into stem and extension at its last dot, unless that dot comes first.

Spellings and names are bytes. Only a slash and a dot mean anything, so a path need not be text. -/
namespace Companion

structure Path where
  spelling : RawText
  deriving DecidableEq, Repr

namespace Path

/-- The byte between the parts of a path. -/
def slash : UInt8 := 0x2f

/-- The byte in front of an extension; alone and doubled it is a part of its own. -/
def dot : UInt8 := 0x2e

/-- A step of a path. -/
inductive Component where
  | root
  | current
  | parent
  | name (text : RawText)
  deriving DecidableEq, Repr

/-- The path as it is shown. -/
def display (p : Path) : String := p.spelling.decode

/-- The parts of a text between slashes; there is always at least one. -/
def splitSlash : List UInt8 → List (List UInt8)
  | [] => [[]]
  | c :: cs =>
    if c = slash then [] :: splitSlash cs
    else
      match splitSlash cs with
      | [] => [[c]]
      | p :: ps => (c :: p) :: ps

/-- The parts with slashes between them. -/
def joinSlash : List (List UInt8) → List UInt8
  | [] => []
  | [p] => p
  | p :: ps => p ++ slash :: joinSlash ps

/-- Parts that do not count behind the first one. -/
def isIdle (part : List UInt8) : Bool := part = [] || part = [dot]

/-- A part that counts. -/
def Component.ofPart (part : List UInt8) : Component :=
  if part = [dot, dot] then .parent else .name (.ofList part)

/-- The parts behind the first one, as steps. -/
def innerSteps (parts : List (List UInt8)) : List Component :=
  (parts.filter fun p => !isIdle p).map Component.ofPart

/-- The steps of a path given by its parts. -/
def stepsOfParts : List (List UInt8) → List Component
  | [] => []
  | [[]] => []
  | [] :: rest => .root :: innerSteps rest
  | first :: rest =>
    if first = [dot] then .current :: innerSteps rest else innerSteps (first :: rest)

def parts (p : Path) : List (List UInt8) := splitSlash p.spelling.toList

def components (p : Path) : List Component := stepsOfParts p.parts

/-- Two spellings of one path. -/
def same (p q : Path) : Bool := p.components = q.components

/-- The name in which the path ends, if it ends in one. -/
def fileName? (p : Path) : Option RawText :=
  match p.components.getLast? with
  | some (.name n) => some n
  | _ => none

/-- A file name cut at its last dot, if there is one behind its first byte. -/
def splitDot (name : List UInt8) : List UInt8 × Option (List UInt8) :=
  let reversed := name.reverse
  match reversed.dropWhile (· ≠ dot) with
  | [] => (name, none)
  | [_] => (name, none)
  | _ :: stem => (stem.reverse, some (reversed.takeWhile (· ≠ dot)).reverse)

/-- The file name without its extension; empty for a path that ends in no name. -/
def stem (p : Path) : RawText :=
  match p.fileName? with
  | some n => .ofList (splitDot n.toList).1
  | none => ""

def extension? (p : Path) : Option RawText :=
  p.fileName?.bind fun n => (splitDot n.toList).2.map .ofList

/-- The path followed by a further step. -/
def join (p : Path) (name : RawText) : Path :=
  if p.spelling.isEmpty || p.spelling.toList.getLast? = some slash then ⟨p.spelling ++ name⟩
  else ⟨p.spelling ++ .ofList [slash] ++ name⟩

/-- The parts behind the first one up to the last that counts. -/
def dropIdleEnd (parts : List (List UInt8)) : List (List UInt8) :=
  (parts.reverse.dropWhile isIdle).reverse

/-- The parts behind the first one without the last that counts. -/
def dropLastName (parts : List (List UInt8)) : List (List UInt8) :=
  dropIdleEnd (dropIdleEnd parts).dropLast

/-- The directory of a path that ends in a name, in the path's own spelling. -/
def directory (p : Path) : Path :=
  match p.parts with
  | [] => ⟨.ofList []⟩
  | [] :: rest => ⟨.ofList (slash :: joinSlash (dropLastName rest))⟩
  | first :: rest =>
    if first = [dot] then ⟨.ofList (joinSlash ([dot] :: dropLastName rest))⟩
    else ⟨.ofList (joinSlash (dropLastName (first :: rest)))⟩

/-- The path with another file name; a path that ends in no name gets it as a further step. -/
def withFileName (p : Path) (name : RawText) : Path :=
  match p.fileName? with
  | some _ => p.directory.join name
  | none => p.join name

end Path
end Companion
