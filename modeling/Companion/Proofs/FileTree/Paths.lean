import Mathlib
import Companion.Proofs.FileTree.Components
import Companion.Proofs.FileTree.Places

/-! Where paths lead. Only the parts of a path that are not idle matter to where it leads, as long
as something follows them (`follow_moves`). So a path with a further step leads behind the path
(`leads_join_of_locate`), the path of a file that is found below a folder leads to that file
(`locate_below`), and the path with another file name leads to the same folder
(`leads_withFileName`). -/
namespace Companion

namespace Path

/-- A step at the end of a path is no slash. -/
theorem openParts_join (p : Path) {name : RawText} (h : IsStep name) :
    FileTree.openParts (p.join name) = ((p.join name).parts, false) := by
  obtain ⟨front, hparts, -⟩ := parts_join p h
  have hempty : List.isEmpty name.toList = false := List.isEmpty_eq_false_iff.2 h.ne_nil
  simp [FileTree.openParts, hparts, hempty]

end Path

namespace Folder
open Companion.Path

/-! ### Following parts -/

/-- Idle parts do not matter in front of a further part. -/
theorem follow_moves (f : Folder) (here : List RawText) (parts : List (List UInt8))
    (last : List UInt8) :
    f.follow here (parts ++ [last]) = f.follow here (moves parts ++ [last]) := by
  induction parts generalizing here with
  | nil => rfl
  | cons part parts ih =>
    rw [List.cons_append, follow]
    cases hidle : isIdle part with
    | true =>
      have hmoves : moves (part :: parts) = moves parts := by simp [moves, hidle]
      rw [hmoves]
      -- the rest is not empty, so it asks for the same folder
      obtain ⟨next, rest, hnext⟩ : ∃ next rest, moves parts ++ [last] = next :: rest := by
        cases moves parts with
        | nil => exact ⟨last, [], rfl⟩
        | cons next rest => exact ⟨next, rest ++ [last], rfl⟩
      split
      · next hnone => rw [hnext, follow, hnone]
      · next hfile => rw [hnext, follow, hfile]
      · exact ih here
    | false =>
      have hmoves : moves (part :: parts) = part :: moves parts := by simp [moves, hidle]
      rw [hmoves, List.cons_append, follow, hidle]
      split
      · rfl
      · rfl
      · split
        · next hfalse => cases hfalse
        · split
          · exact ih _
          · exact ih _

theorem follow_step {f : Folder} {here : List RawText} {name : RawText}
    (hfolder : f.kind? here = some none) (h : IsStep name) :
    f.follow here [name.toList] = .ok (here ++ [name]) := by
  obtain ⟨inner, hinner⟩ := kind?_eq_folder_iff.1 hfolder
  rw [follow, hinner]
  simp [h.1, h.2.1, follow]

theorem folder_dropLast {f : Folder} {place : List RawText} (h : f.kind? place = some none) :
    f.kind? place.dropLast = some none := by
  cases hlast : place.getLast? with
  | none =>
    obtain rfl := List.getLast?_eq_none_iff.1 hlast
    exact h
  | some name =>
    obtain ⟨front, rfl⟩ := List.getLast?_eq_some_iff.1 hlast
    rw [List.dropLast_concat]
    exact folder_of_kind?_append (by simp) h

/-- A path that does not lead to a folder ends in the name of what it leads to: everything else ends
in a folder. -/
theorem ends_in_name {f : Folder} {parts : List (List UInt8)} {place : List RawText}
    (h : f.follow [] parts = .ok place) (hplace : f.kind? place ≠ some none) :
    ∃ front last dir, parts = front ++ [last] ∧ isIdle last = false ∧ last ≠ [dot, dot] ∧
      f.follow [] front = .ok dir ∧ f.kind? dir = some none ∧
        place = dir ++ [RawText.ofList last] := by
  cases hlast : parts.getLast? with
  | none =>
    obtain rfl := List.getLast?_eq_none_iff.1 hlast
    obtain rfl := Except.ok.inj h
    exact absurd rfl hplace
  | some last =>
    obtain ⟨front, rfl⟩ := List.getLast?_eq_some_iff.1 hlast
    rw [follow_append] at h
    cases hfront : f.follow [] front with
    | error e => rw [hfront] at h; cases h
    | ok dir =>
      rw [hfront] at h
      have h : f.follow dir [last] = .ok place := h
      rw [follow] at h
      split at h
      · cases h
      · cases h
      · next inner hinner =>
        have hdir : f.kind? dir = some none := kind?_eq_folder_iff.2 ⟨inner, hinner⟩
        split at h
        · obtain rfl : dir = place := Except.ok.inj h
          exact absurd hdir hplace
        · next hidle =>
          split at h
          · obtain rfl : dir.dropLast = place := Except.ok.inj h
            exact absurd (folder_dropLast hdir) hplace
          · next hparent =>
            obtain rfl : dir ++ [RawText.ofList last] = place := Except.ok.inj h
            exact ⟨front, last, dir, rfl, by simpa using hidle, hparent, hfront, hdir, rfl⟩

theorem steps_of_at? {f : Folder} (hf : f.Named) {place : List RawText} {node : Node}
    (h : f.at? place = some node) : ∀ name ∈ place, IsStep name := by
  induction place generalizing f with
  | nil => simp
  | cons name names ih =>
    intro n hn
    rw [at?] at h
    split at h
    · next g hg =>
      obtain ⟨hname, hg'⟩ := named_of_node? hf hg
      rcases List.mem_cons.1 hn with rfl | hn
      · exact hname
      · exact ih hg' h n hn
    · next contents hg =>
      obtain ⟨hname, -⟩ := named_of_node? hf hg
      split at h
      · next hempty =>
        obtain rfl : names = [] := by simpa using hempty
        obtain rfl := List.mem_singleton.1 hn
        exact hname
      · cases h
    · cases h

end Folder

namespace FileTree
open Companion.Path

/-! ### Trees -/

theorem locate_eq_follow {t : FileTree} {p : Path} (h : p.spelling.isEmpty = false) :
    t.locate p = t.root.follow [] p.parts := by
  simp [locate, h]

theorem nonempty_of_locate {t : FileTree} {p : Path} {place : List RawText}
    (h : t.locate p = .ok place) :
    p.spelling.isEmpty = false := by
  cases hempty : p.spelling.isEmpty with
  | false => rfl
  | true => simp [locate, hempty] at h

theorem read_eq_ok_iff {t : FileTree} {p : Path} {contents : ByteArray} :
    t.read p = .ok contents ↔
      ∃ place, t.locate p = .ok place ∧ t.root.kind? place = some (some contents) := by
  unfold read node
  cases t.locate p with
  | error e => simp
  | ok place =>
    cases hat : t.root.at? place with
    | none => simp [hat, Folder.kind?]
    | some node => cases node <;> simp [hat, Folder.kind?, Node.contents?]

/-- The path leads to an entry `name` of the folder at `dir`, be there such an entry or not, and
ends in no slash: a file can be written there. -/
structure Leads (t : FileTree) (p : Path) (dir : List RawText) (name : RawText) : Prop where
  nonempty : p.spelling.isEmpty = false
  opened : openParts p = (p.parts, false)
  follow : t.root.follow [] p.parts = .ok (dir ++ [name])
  folder : t.root.kind? dir = some none

theorem Leads.locate {t : FileTree} {p : Path} {dir : List RawText} {name : RawText}
    (h : t.Leads p dir name) : t.locate p = .ok (dir ++ [name]) := by
  rw [locate_eq_follow h.nonempty, h.follow]

theorem leads_join {t : FileTree} {p : Path} {dir : List RawText} {name : RawText}
    (hname : IsStep name)
    (h : t.root.follow [] (moves p.parts ++ [name.toList]) = .ok (dir ++ [name]))
    (hdir : t.root.kind? dir = some none) : t.Leads (p.join name) dir name where
  nonempty := join_nonempty p hname
  opened := openParts_join p hname
  follow := by
    obtain ⟨front, hparts, hmoves⟩ := parts_join p hname
    rw [hparts, Folder.follow_moves, hmoves, h]
  folder := hdir

/-- A path with a further step leads into the folder that the path leads to. -/
theorem leads_join_of_locate {t : FileTree} {p : Path} {dir : List RawText} {name : RawText}
    (hname : IsStep name) (h : t.locate p = .ok dir) (hdir : t.root.kind? dir = some none) :
    t.Leads (p.join name) dir name := by
  refine leads_join hname ?_ hdir
  rw [locate_eq_follow (nonempty_of_locate h)] at h
  rw [← Folder.follow_moves, Folder.follow_append, h]
  exact Folder.follow_step hdir hname

/-- The path of what stands below a folder leads there. -/
theorem locate_below {t : FileTree} {root : Path} {base place : List RawText} {k : Option ByteArray}
    (h : t.locate root = .ok base) (hplace : t.root.kind? (base ++ place) = some k) :
    t.locate (root.below place) = .ok (base ++ place) := by
  induction place using List.reverseRecOn generalizing k with
  | nil => rw [List.append_nil]; exact h
  | append_singleton place name ih =>
    rw [← List.append_assoc] at hplace ⊢
    have hdir := Folder.folder_of_kind?_append (by simp) hplace
    have hname : IsStep name := by
      obtain ⟨node, hnode, -⟩ := Option.map_eq_some_iff.1 hplace
      exact Folder.steps_of_at? t.named hnode name (by simp)
    rw [below, List.foldl_append]
    exact (leads_join_of_locate hname (ih hdir) hdir).locate

/-- A path that leads to a file leads into the same folder with another file name. -/
theorem leads_withFileName {t : FileTree} {p : Path} {place : List RawText} {contents : ByteArray}
    (h : t.locate p = .ok place) (hfile : t.root.kind? place = some (some contents)) :
    ∃ dir name, place = dir ++ [name] ∧ p.fileName? = some name ∧
      ∀ n, IsStep n → t.Leads (p.withFileName n) dir n := by
  rw [locate_eq_follow (nonempty_of_locate h)] at h
  obtain ⟨front, last, dir, hparts, hidle, hparent, hfront, hdir, rfl⟩ :=
    Folder.ends_in_name h (by simp [hfile])
  have hname := fileName?_of_parts hparts hidle hparent
  refine ⟨dir, RawText.ofList last, rfl, hname, ?_⟩
  intro n hn
  have hmoves : moves front = moves p.directory.parts := by
    have h := moves_directory hname
    rw [hparts, moves_append, moves_step hidle] at h
    exact List.append_cancel_right h
  rw [withFileName, hname]
  refine leads_join hn ?_ hdir
  rw [← hmoves, ← Folder.follow_moves, Folder.follow_append, hfront]
  exact Folder.follow_step hdir hn

end FileTree

end Companion
