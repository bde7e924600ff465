import Companion.FileTree.Named

/-! File trees: a folder in which paths are followed from the top. A path is followed part by part.
A part that names nothing still asks for a folder in front of it, `..` leads back to the folder
around, and at the top to the top itself. -/
namespace Companion

/-- Why a path does not lead to what is asked for. -/
inductive FileError where
  | notFound | notDirectory | isDirectory
  deriving DecidableEq, Repr

def FileError.message : FileError → String
  | .notFound => "No such file or directory (os error 2)"
  | .notDirectory => "Not a directory (os error 20)"
  | .isDirectory => "Is a directory (os error 21)"

namespace Folder

/-- The place that the parts of a path lead to from `here`. All but its last name exist. -/
def follow (root : Folder) : List RawText → List (List UInt8) → Except FileError (List RawText)
  | here, [] => .ok here
  | here, part :: parts =>
    match root.at? here with
    | none => .error .notFound
    | some (.file _) => .error .notDirectory
    | some (.folder _) =>
      if Path.isIdle part then follow root here parts
      else if part = [Path.dot, Path.dot] then follow root here.dropLast parts
      else follow root (here ++ [RawText.ofList part]) parts

/-- The folder with all folders on the way of a path made. -/
def make (root : Folder) : List RawText → List (List UInt8) → Except FileError Folder
  | _, [] => .ok root
  | here, part :: parts =>
    if Path.isIdle part then make root here parts
    else if part = [Path.dot, Path.dot] then make root here.dropLast parts
    else
      let place := here ++ [RawText.ofList part]
      match root.at? place with
      | none => make (root.put place (.folder .empty)) place parts
      | some (.folder _) => make root place parts
      | some (.file _) => .error .notDirectory

theorem steps_concat {here : List RawText} {part : List UInt8}
    (hhere : ∀ name ∈ here, Path.IsStep name) (hidle : ¬ Path.isIdle part = true)
    (hparent : part ≠ [Path.dot, Path.dot]) (hslash : Path.slash ∉ part) :
    ∀ name ∈ here ++ [RawText.ofList part], Path.IsStep name := by
  intro name hname
  rcases List.mem_append.1 hname with hname | hname
  · exact hhere name hname
  · obtain rfl := List.mem_singleton.1 hname
    exact Path.isStep_ofList hidle hparent hslash

/-- A path leads along steps only. -/
theorem steps_follow {root : Folder} {here place : List RawText} {parts : List (List UInt8)}
    (hhere : ∀ name ∈ here, Path.IsStep name) (hparts : ∀ part ∈ parts, Path.slash ∉ part)
    (h : root.follow here parts = .ok place) : ∀ name ∈ place, Path.IsStep name := by
  fun_induction follow root here parts with
  | case1 => cases h; exact hhere
  | case2 => cases h
  | case3 => cases h
  | case4 _ _ _ _ _ _ ih => exact ih hhere (fun p hp => hparts p (List.mem_cons_of_mem _ hp)) h
  | case5 _ _ _ _ _ ih =>
    exact ih (fun n hn => hhere n (List.dropLast_subset _ hn))
      (fun p hp => hparts p (List.mem_cons_of_mem _ hp)) h
  | case6 here part parts _ _ hidle hparent ih =>
    exact ih (steps_concat hhere hidle hparent (hparts part List.mem_cons_self))
      (fun p hp => hparts p (List.mem_cons_of_mem _ hp)) h

theorem ordered_make {root made : Folder} {here : List RawText} {parts : List (List UInt8)}
    (hr : root.Ordered) (h : root.make here parts = .ok made) : made.Ordered := by
  fun_induction make root here parts with
  | case1 => cases h; exact hr
  | case2 _ _ _ _ _ ih => exact ih hr h
  | case3 _ _ _ _ ih => exact ih hr h
  | case4 _ _ _ _ _ _ _ _ ih => exact ih (ordered_put hr _ trivial) h
  | case5 _ _ _ _ _ _ _ _ _ ih => exact ih hr h
  | case6 => cases h

theorem named_make {root made : Folder} {here : List RawText} {parts : List (List UInt8)}
    (hr : root.Named) (hhere : ∀ name ∈ here, Path.IsStep name)
    (hparts : ∀ part ∈ parts, Path.slash ∉ part) (h : root.make here parts = .ok made) :
    made.Named := by
  fun_induction make root here parts with
  | case1 => cases h; exact hr
  | case2 _ _ _ _ _ ih => exact ih hr hhere (fun p hp => hparts p (List.mem_cons_of_mem _ hp)) h
  | case3 _ _ _ _ ih =>
    exact ih hr (fun n hn => hhere n (List.dropLast_subset _ hn))
      (fun p hp => hparts p (List.mem_cons_of_mem _ hp)) h
  | case4 _ here part parts hidle hparent place _ ih =>
    have hplace := steps_concat hhere hidle hparent (hparts part List.mem_cons_self)
    exact ih (named_put hr hplace trivial) hplace (fun p hp => hparts p (List.mem_cons_of_mem _ hp))
      h
  | case5 _ here part parts hidle hparent place _ _ ih =>
    have hplace := steps_concat hhere hidle hparent (hparts part List.mem_cons_self)
    exact ih hr hplace (fun p hp => hparts p (List.mem_cons_of_mem _ hp)) h
  | case6 => cases h

end Folder

structure FileTree where
  root : Folder
  ordered : root.Ordered
  named : root.Named

namespace FileTree

def empty : FileTree := ⟨.empty, trivial, trivial⟩

/-- The place that a path leads to. -/
def locate (t : FileTree) (p : Path) : Except FileError (List RawText) :=
  if p.spelling.isEmpty then .error .notFound else t.root.follow [] p.parts

/-- What a path leads to. -/
def node (t : FileTree) (p : Path) : Except FileError Node :=
  match t.locate p with
  | .error e => .error e
  | .ok place =>
    match t.root.at? place with
    | some node => .ok node
    | none => .error .notFound

/-- The contents of a file. -/
def read (t : FileTree) (p : Path) : Except FileError ByteArray :=
  match t.node p with
  | .ok (.file contents) => .ok contents
  | .ok (.folder _) => .error .isDirectory
  | .error e => .error e

/-- The parts of a path without slashes at its end, and whether there were any. -/
def openParts (p : Path) : List (List UInt8) × Bool :=
  let kept := (p.parts.reverse.dropWhile List.isEmpty).reverse
  (kept, kept.length < p.parts.length)

theorem slash_not_mem_openParts (p : Path) : ∀ part ∈ (openParts p).1, Path.slash ∉ part := by
  intro part hpart
  have hsub := (List.dropWhile_sublist List.isEmpty).mem (List.mem_reverse.1 hpart)
  exact Path.slash_not_mem_splitSlash _ part (List.mem_reverse.1 hsub)

/-- The tree with a file of these contents, whole, at the path. A slash at the end asks for a
folder, so nothing can be written there. -/
def write (t : FileTree) (p : Path) (contents : ByteArray) : Except FileError FileTree :=
  if p.spelling.isEmpty then .error .notFound
  else
    match h : t.root.follow [] (openParts p).1 with
    | .error e => .error e
    | .ok place =>
      match t.root.at? place with
      | some (.folder _) => .error .isDirectory
      | _ =>
        if (openParts p).2 then .error .isDirectory
        else
          have steps := Folder.steps_follow (by simp) (slash_not_mem_openParts p) h
          .ok ⟨t.root.put place (.file contents), Folder.ordered_put t.ordered _ trivial,
            Folder.named_put t.named steps trivial⟩

/-- The tree with a folder at the path, and all folders on the way. -/
def makeFolder (t : FileTree) (p : Path) : Except FileError FileTree :=
  match h : t.root.make [] p.parts with
  | .ok root =>
    .ok ⟨root, Folder.ordered_make t.ordered h,
      Folder.named_make t.named (by simp) (Path.slash_not_mem_splitSlash _) h⟩
  | .error e => .error e

/-- The tree with a file at the path, and all folders on the way. -/
def put (t : FileTree) (p : Path) (contents : ByteArray) : Except FileError FileTree := do
  (← t.makeFolder p.directory).write p contents

/-- The tree without the file at the path. -/
def removeFile (t : FileTree) (p : Path) : Except FileError FileTree :=
  match t.locate p, t.read p with
  | .ok place, .ok _ =>
    .ok ⟨t.root.remove place, Folder.ordered_remove t.ordered _, Folder.named_remove t.named _⟩
  | _, .error e => .error e
  | .error e, _ => .error e

/-- The path from the top to a place. -/
def pathTo (place : List RawText) : Path := ⟨.ofList (Path.joinSlash (place.map RawText.toList))⟩

/-- The paths of all files, in the order of their spellings. -/
def paths (t : FileTree) : List Path :=
  (t.root.files.map fun f => pathTo f.1).mergeSort fun p q => !decide (q.spelling < p.spelling)

end FileTree
end Companion
