import Mathlib
import Companion.Proofs.FileTree.Companions
import Companion.Proofs.FileTree.Creation

/-! Exactly which source files a run finds, and in which order. `Sought` says of a place below the
root, by its names alone, that a source file is looked for there; below a folder the files at such
places are found, each at the path that leads to it, in the order of their names' bytes
(`discover_exact`). A folder is entered where its own name stands, so `a/x.rs` comes before
`a-b.rs`: whole places are compared name by name, not as texts.

What is found is therefore determined by which of these places hold a file (`discover_congr`), and
not by the history of the tree. -/
namespace Companion

/-! ### Names of source files -/

/-- A source file's name is a stem that is not empty and the extension. -/
theorem isSourceName_iff {name : RawText} :
    isSourceName name = true ↔ ∃ stem : RawText, stem ≠ "" ∧ name = stem ++ ".rs" := by
  rw [isSourceName, decide_eq_true_iff]
  constructor
  · intro h
    refine ⟨.ofList (Path.splitDot name.toList).1, ?_, ?_⟩
    · rw [Ne, ← RawText.toList_inj]
      exact Path.stem_ne_nil h
    · rw [← RawText.toList_inj]
      exact Path.splitDot_eq_some h
  · rintro ⟨stem, hstem, rfl⟩
    have hne : stem.toList ≠ [] := by rwa [Ne, ← RawText.toList_inj] at hstem
    exact congrArg Prod.snd (Path.splitDot_concat hne (by decide))

/-- A place below the root at which a source file is looked for: the file's name has the extension,
and no folder on the way is hidden or holds build output. -/
def Sought (place : List RawText) : Prop :=
  ∃ (dirs : List RawText) (stem : RawText), place = dirs ++ [stem ++ ".rs"] ∧ stem ≠ "" ∧
    ∀ dir ∈ dirs, dir.toList.head? ≠ some Path.dot ∧ dir ≠ "target"

/-- What a name decodes to starts with a dot when the name does. -/
theorem head?_decode_eq_dot_iff {name : RawText} :
    name.decode.toList.head? = some '.' ↔ name.toList.head? = some Path.dot := by
  rw [RawText.decode, String.toList_ofList]
  exact (Text.decodes_decodeLossy name.toList).head?_eq_iff (by decide)

theorem isSkippedFolder_eq_false_iff {dir : RawText} :
    isSkippedFolder dir = false ↔ dir.toList.head? ≠ some Path.dot ∧ dir ≠ "target" := by
  have htarget : dir.decode = "target" ↔ dir = "target" := by
    constructor
    · intro h
      have htext : dir.IsText := RawText.isText_of_not_mem (by rw [h]; decide)
      rw [← htext, h]
    · rintro rfl
      exact RawText.decode_ofString _
  rw [isSkippedFolder, Bool.or_eq_false_iff, decide_eq_false_iff_not, decide_eq_false_iff_not,
    head?_decode_eq_dot_iff, htarget]

theorem isSourcePlace_concat {dirs : List RawText} {name : RawText} :
    IsSourcePlace (dirs ++ [name]) ↔ (∀ dir ∈ dirs, isSkippedFolder dir = false) ∧
      isSourceName name = true := by
  induction dirs with
  | nil => simp [IsSourcePlace]
  | cons dir dirs ih =>
    rw [List.cons_append, isSourcePlace_cons (by simp), ih, List.forall_mem_cons, and_assoc]

theorem sought_iff {place : List RawText} : Sought place ↔ IsSourcePlace place := by
  constructor
  · rintro ⟨dirs, stem, rfl, hstem, hdirs⟩
    refine isSourcePlace_concat.2 ⟨?_, isSourceName_iff.2 ⟨stem, hstem, rfl⟩⟩
    exact fun dir hdir => isSkippedFolder_eq_false_iff.2 (hdirs dir hdir)
  · intro h
    obtain ⟨dirs, name, rfl, -⟩ := h.last
    obtain ⟨hdirs, hname⟩ := isSourcePlace_concat.1 h
    obtain ⟨stem, hstem, rfl⟩ := isSourceName_iff.1 hname
    exact ⟨dirs, stem, rfl, hstem, fun dir hdir => isSkippedFolder_eq_false_iff.1 (hdirs dir hdir)⟩

/-- Places stand in the order of their names' bytes, compared name by name. -/
theorem map_toList_lt {a b : List RawText} (h : a < b) :
    a.map RawText.toList < b.map RawText.toList :=
  List.map_lt (fun _ _ hlt => hlt) h

/-! ### What determines the source files -/

/-- Ordered folders with the same source files have them in the same order. -/
theorem Folder.sources_congr {f g : Folder} (hf : f.Ordered) (hg : g.Ordered)
    (h : ∀ place, place ∈ f.sources ↔ place ∈ g.sources) : f.sources = g.sources := by
  have hperm : f.sources.Perm g.sources :=
    (List.perm_ext_iff_of_nodup (nodup_sources hf) (nodup_sources hg)).2 h
  refine hperm.eq_of_pairwise ?_ (pairwise_sources hf) (pairwise_sources hg)
  intro a b _ _ hab hba
  exact absurd hba (List.lt_asymm hab)

namespace FileTree

theorem discover_folder {t : FileTree} {root : Path} {base : List RawText} {f : Folder}
    (hroot : t.locate root = .ok base) (hf : t.root.at? base = some (.folder f)) :
    (t.discover root).result = .ok (f.sources.map root.below) :=
  discover_eq_ok_iff.2 ⟨base, hroot, Or.inr ⟨f, hf, rfl⟩⟩

/-- **What is found below a folder is determined by which of the places sought hold a file.** -/
theorem discover_congr {t t' : FileTree} {root : Path} {base base' : List RawText}
    (hroot : t.locate root = .ok base) (hfolder : t.root.kind? base = some none)
    (hroot' : t'.locate root = .ok base') (hfolder' : t'.root.kind? base' = some none)
    (h : ∀ place, Sought place →
      (t.root.HasFile (base ++ place) ↔ t'.root.HasFile (base' ++ place))) :
    (t.discover root).result = (t'.discover root).result := by
  obtain ⟨f, hf⟩ := Folder.kind?_eq_folder_iff.1 hfolder
  obtain ⟨f', hf'⟩ := Folder.kind?_eq_folder_iff.1 hfolder'
  have hsources : f.sources = f'.sources := by
    refine Folder.sources_congr (Folder.ordered_of_at? t.ordered hf)
      (Folder.ordered_of_at? t'.ordered hf') ?_
    intro place
    rw [mem_sources_of_at? hf, mem_sources_of_at? hf']
    exact and_congr_right fun hplace => h place (sought_iff.2 hplace)
  rw [discover_folder hroot hf, discover_folder hroot' hf', hsources]

/-- A path that leads somewhere leads to the same place when files have been put into the tree. -/
theorem locate_putAll {t t' : FileTree} {files : List (Path × ByteArray)} {root : Path}
    {base : List RawText} (hroot : t.locate root = .ok base) (h : t.putAll files = .ok t') :
    t'.locate root = .ok base := by
  have hnonempty := nonempty_of_locate hroot
  rw [locate_eq_follow hnonempty] at hroot ⊢
  exact Folder.follow_of_folders (grows_putAll h).folder hroot

/-! ### The paths -/

/-- The path of a source file below a folder leads to the file, goes on from the folder's path with
the names on the way, and has the extension. -/
theorem below_sought {t : FileTree} {root : Path} {base place : List RawText}
    (hroot : t.locate root = .ok base) (hfile : t.root.HasFile (base ++ place))
    (hplace : Sought place) :
    t.locate (root.below place) = .ok (base ++ place) ∧
      (root.below place).components = root.components ++ place.map Path.Component.name ∧
      (root.below place).extension? = some "rs" := by
  obtain ⟨contents, hkind⟩ := hfile
  obtain ⟨node, hnode, -⟩ := Option.map_eq_some_iff.1 hkind
  have hsteps : ∀ n ∈ place, Path.IsStep n := fun n hn =>
    Folder.steps_of_at? t.named hnode n (List.mem_append_right base hn)
  have hcomponents := Path.components_below root hsteps
  refine ⟨locate_below hroot hkind, hcomponents, ?_⟩
  obtain ⟨dirs, stem, rfl, hstem, -⟩ := hplace
  have hname : (root.below (dirs ++ [stem ++ ".rs"])).fileName? = some (stem ++ ".rs") := by
    rw [Path.fileName?_eq_some_iff, hcomponents, List.map_append, ← List.append_assoc]
    exact List.getLast?_concat
  have hsource : isSourceName (stem ++ ".rs") = true := isSourceName_iff.2 ⟨stem, hstem, rfl⟩
  rw [isSourceName, decide_eq_true_iff] at hsource
  rw [Path.extension?, hname, Option.bind_some, hsource]
  rfl

/-- **Discovery below a folder is exact and ordered.** It succeeds with the paths of the files that
stand at the places sought below the root. The places increase strictly, name by name and each name
by its bytes; the path of each leads to its file, is the root's path followed by the place, and has
the extension of source files. Another tree in which the same places hold files gives the same
paths, and so do two trees made by putting the same files into this one in different orders. -/
theorem discover_exact {t : FileTree} {root : Path} {base : List RawText}
    (hroot : t.locate root = .ok base) (hfolder : t.root.kind? base = some none) :
    (∃ places : List (List RawText), (t.discover root).result = .ok (places.map root.below) ∧
      (∀ place, place ∈ places ↔ t.root.HasFile (base ++ place) ∧ Sought place) ∧
      places.Pairwise (fun a b => a.map RawText.toList < b.map RawText.toList) ∧
      ∀ place ∈ places, t.locate (root.below place) = .ok (base ++ place) ∧
        (root.below place).components = root.components ++ place.map Path.Component.name ∧
        (root.below place).extension? = some "rs") ∧
    (∀ (t' : FileTree) (base' : List RawText), t'.locate root = .ok base' →
      t'.root.kind? base' = some none →
      (∀ place, Sought place →
        (t.root.HasFile (base ++ place) ↔ t'.root.HasFile (base' ++ place))) →
      (t.discover root).result = (t'.discover root).result) ∧
    ∀ (files₁ files₂ : List (Path × ByteArray)) (t₁ t₂ : FileTree), files₁.Perm files₂ →
      t.putAll files₁ = .ok t₁ → t.putAll files₂ = .ok t₂ →
      (t₁.discover root).result = (t₂.discover root).result := by
  refine ⟨?_, ?_, ?_⟩
  · obtain ⟨f, hf⟩ := Folder.kind?_eq_folder_iff.1 hfolder
    have hmem : ∀ place, place ∈ f.sources ↔ t.root.HasFile (base ++ place) ∧ Sought place := by
      intro place
      rw [mem_sources_of_at? hf, sought_iff, and_comm]
    refine ⟨f.sources, discover_folder hroot hf, hmem, ?_, ?_⟩
    · exact (Folder.pairwise_sources (Folder.ordered_of_at? t.ordered hf)).imp map_toList_lt
    · intro place hplace
      obtain ⟨hfile, hsought⟩ := (hmem place).1 hplace
      exact below_sought hroot hfile hsought
  · intro t' base' hroot' hfolder' h
    exact discover_congr hroot hfolder hroot' hfolder' h
  · intro files₁ files₂ t₁ t₂ hperm h₁ h₂
    refine discover_congr (locate_putAll hroot h₁) ((grows_putAll h₁).folder base hfolder)
      (locate_putAll hroot h₂) ((grows_putAll h₂).folder base hfolder) ?_
    intro place _
    exact hasFile_of_perm hperm h₁ h₂ (base ++ place)

/-- A tree that holds a hidden folder. -/
def hidden : FileTree :=
  ⟨.folder ".c" .empty .empty, by simp [Folder.Ordered, Folder.names],
    ⟨by decide, trivial, trivial⟩⟩

/-- Files in folders that are entered, one of which has a source file's name, and in folders that
are not. Two files are hidden themselves, and one of these has no extension. -/
def crowd : List (Path × ByteArray) :=
  [".c/a-b.rs", ".c/m.rs/n.rs", ".c/.git/y.rs", ".c/a/ä.rs", ".c/.rs", ".c/target/z.rs",
    ".c/a/x.rs", ".c/.h.rs"].map fun spelling => (⟨spelling⟩, .empty)

theorem discover_exact_reversed : ∃ t₁ t₂ : FileTree,
    hidden.locate ⟨".c"⟩ = .ok [".c"] ∧ hidden.root.kind? [".c"] = some none ∧
      hidden.putAll crowd = .ok t₁ ∧ hidden.putAll crowd.reverse = .ok t₂ ∧
      (t₁.discover ⟨".c"⟩).result =
        .ok [⟨".c/.h.rs"⟩, ⟨".c/a/x.rs"⟩, ⟨".c/a/ä.rs"⟩, ⟨".c/a-b.rs"⟩, ⟨".c/m.rs/n.rs"⟩] ∧
      (t₁.discover ⟨".c"⟩).result = (t₂.discover ⟨".c"⟩).result := by
  have hroot : hidden.locate ⟨".c"⟩ = .ok [".c"] := by decide +kernel
  have hfolder : hidden.root.kind? [".c"] = some none := rfl
  have hfound : (hidden.putAll crowd).toOption.bind (fun t => (t.discover ⟨".c"⟩).result.toOption) =
      some [⟨".c/.h.rs"⟩, ⟨".c/a/x.rs"⟩, ⟨".c/a/ä.rs"⟩, ⟨".c/a-b.rs"⟩, ⟨".c/m.rs/n.rs"⟩] := by
    decide +kernel
  have hmade : (hidden.putAll crowd.reverse).toOption.isSome = true := by decide +kernel
  cases h₁ : hidden.putAll crowd with
  | error e => rw [h₁] at hfound; cases hfound
  | ok t₁ =>
    cases h₂ : hidden.putAll crowd.reverse with
    | error e => rw [h₂] at hmade; cases hmade
    | ok t₂ =>
      rw [h₁] at hfound
      refine ⟨t₁, t₂, hroot, hfolder, rfl, rfl, Logged.toOption_result_eq_some_iff.1 hfound, ?_⟩
      exact (discover_exact hroot hfolder).2.2 _ _ t₁ t₂ crowd.reverse_perm.symm h₁ h₂

end FileTree
end Companion
