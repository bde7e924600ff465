import Mathlib
import Companion.Proofs.FileTree.Paths

/-! Which source files are found below a folder. `IsSourcePlace` says by the names on the way
whether a place is looked at; a folder's source files are the files at such places
(`mem_sources_iff`), in the order of their places (`pairwise_sources`) and so each once. So
discovery depends on what stands at the places of the tree and on nothing else. -/
namespace Companion

/-- A place at which a source file is looked for: its last name is a source file's, and no folder on
the way is passed over. -/
def IsSourcePlace : List RawText → Prop
  | [] => False
  | [name] => isSourceName name = true
  | dir :: rest => isSkippedFolder dir = false ∧ IsSourcePlace rest

theorem isSourcePlace_cons {dir : RawText} {rest : List RawText} (h : rest ≠ []) :
    IsSourcePlace (dir :: rest) ↔ isSkippedFolder dir = false ∧ IsSourcePlace rest := by
  cases rest with
  | nil => exact absurd rfl h
  | cons name rest => rfl

/-- The last name of a source place is a source file's. -/
theorem IsSourcePlace.last {place : List RawText} (h : IsSourcePlace place) :
    ∃ dir name, place = dir ++ [name] ∧ isSourceName name = true := by
  induction place with
  | nil => exact h.elim
  | cons first rest ih =>
    cases rest with
    | nil => exact ⟨[], first, rfl, h⟩
    | cons second rest =>
      obtain ⟨dir, name, hcut, hname⟩ := ih h.2
      exact ⟨first :: dir, name, by rw [hcut]; rfl, hname⟩

namespace Folder

theorem mem_names_of_node? {f : Folder} {name : RawText} {node : Node}
    (h : f.node? name = some node) :
    name ∈ f.names := by
  induction f with
  | empty => simp [node?] at h
  | file n contents rest ih =>
    rw [node?] at h
    rw [names]
    split at h
    · next hn => exact hn ▸ List.mem_cons_self
    · exact List.mem_cons_of_mem n (ih h)
  | folder n inner rest _ ih =>
    rw [node?] at h
    rw [names]
    split at h
    · next hn => exact hn ▸ List.mem_cons_self
    · exact List.mem_cons_of_mem n (ih h)

theorem mem_names_of_kind? {f : Folder} {name : RawText} {names : List RawText}
    {k : Option ByteArray} (h : f.kind? (name :: names) = some k) : name ∈ f.names := by
  rw [kind?, at?] at h
  cases hnode : f.node? name with
  | none => rw [hnode] at h; cases h
  | some node => exact mem_names_of_node? hnode

/-- A file that stands at a place of the folder. -/
def HasFile (f : Folder) (place : List RawText) : Prop :=
  ∃ contents, f.kind? place = some (some contents)

theorem not_hasFile_nil (f : Folder) : ¬ f.HasFile [] := by
  rintro ⟨contents, h⟩
  cases h

/-- In front of the rest of a folder stands a file. -/
theorem hasFile_file {name : RawText} {contents : ByteArray} {rest : Folder}
    (hordered : (Folder.file name contents rest).Ordered) (place : List RawText) :
    (Folder.file name contents rest).HasFile place ↔ place = [name] ∨ rest.HasFile place := by
  cases place with
  | nil => simp [not_hasFile_nil]
  | cons n names =>
    by_cases hn : name = n
    · subst hn
      have hrest : ¬ rest.HasFile (name :: names) := by
        rintro ⟨c, hc⟩
        exact RawText.lt_irrefl _ (hordered.1 name (mem_names_of_kind? hc))
      have hfile : (Folder.file name contents rest).HasFile (name :: names) ↔ names = [] := by
        cases names <;> simp [HasFile, kind?, at?, node?, Node.contents?]
      simp [hfile, hrest]
    · have hne : ¬ n :: names = [name] := fun h => hn (List.cons.inj h).1.symm
      simp [HasFile, kind?, at?, node?, hn, hne]

/-- In front of the rest of a folder stands a folder. -/
theorem hasFile_folder {name : RawText} {inner rest : Folder}
    (hordered : (Folder.folder name inner rest).Ordered) (place : List RawText) :
    (Folder.folder name inner rest).HasFile place ↔
      (∃ names, place = name :: names ∧ inner.HasFile names) ∨ rest.HasFile place := by
  cases place with
  | nil => simp [not_hasFile_nil]
  | cons n names =>
    by_cases hn : name = n
    · subst hn
      have hrest : ¬ rest.HasFile (name :: names) := by
        rintro ⟨c, hc⟩
        exact RawText.lt_irrefl _ (hordered.1 name (mem_names_of_kind? hc))
      simp [hrest]
      simp [HasFile, kind?, at?, node?]
    · have hne : ¬ n = name := fun h => hn h.symm
      simp [HasFile, kind?, at?, node?, hn, hne]

/-- **The source files of a folder are the files at its source places.** -/
theorem mem_sources_iff {f : Folder} (hf : f.Ordered) (place : List RawText) :
    place ∈ f.sources ↔ IsSourcePlace place ∧ f.HasFile place := by
  induction f generalizing place with
  | empty =>
    have hnone : ¬ Folder.empty.HasFile place := by
      rintro ⟨contents, h⟩
      cases place with
      | nil => cases h
      | cons name names => cases h
    simp [sources, hnone]
  | file name contents rest ih =>
    rw [sources, List.mem_append, ih hf.2, hasFile_file hf]
    constructor
    · rintro (hhead | ⟨hplace, hfile⟩)
      · split at hhead
        · next hname =>
          obtain rfl := List.mem_singleton.1 hhead
          exact ⟨hname, Or.inl rfl⟩
        · simp at hhead
      · exact ⟨hplace, Or.inr hfile⟩
    · rintro ⟨hplace, rfl | hfile⟩
      · have hname : isSourceName name = true := hplace
        simp [hname]
      · exact Or.inr ⟨hplace, hfile⟩
  | folder name inner rest ihInner ihRest =>
    rw [sources, List.mem_append, ihRest hf.2.2, hasFile_folder hf]
    constructor
    · rintro (hhead | ⟨hplace, hfile⟩)
      · split at hhead
        · simp at hhead
        · next hskip =>
          obtain ⟨names, hmem, rfl⟩ := List.mem_map.1 hhead
          obtain ⟨hplace, hfile⟩ := (ihInner hf.2.1 names).1 hmem
          have hne : names ≠ [] := by
            rintro rfl
            exact hplace
          exact ⟨(isSourcePlace_cons hne).2 ⟨by simpa using hskip, hplace⟩,
            Or.inl ⟨names, rfl, hfile⟩⟩
      · exact ⟨hplace, Or.inr hfile⟩
    · rintro ⟨hplace, ⟨names, rfl, hfile⟩ | hfile⟩
      · have hne : names ≠ [] := by
          rintro rfl
          exact not_hasFile_nil inner hfile
        obtain ⟨hskip, hplace⟩ := (isSourcePlace_cons hne).1 hplace
        left
        rw [if_neg (by simp [hskip])]
        exact List.mem_map.2 ⟨names, (ihInner hf.2.1 names).2 ⟨hplace, hfile⟩, rfl⟩
      · exact Or.inr ⟨hplace, hfile⟩

/-- A source file behind the first entry comes after everything that stands in that entry. -/
theorem lt_of_mem_sources {rest : Folder} (hrest : rest.Ordered) {name : RawText}
    (hname : ∀ n ∈ rest.names, name < n) {place : List RawText} (hplace : place ∈ rest.sources)
    (names : List RawText) : name :: names < place := by
  obtain ⟨-, contents, hkind⟩ := (mem_sources_iff hrest _).1 hplace
  cases place with
  | nil => cases hkind
  | cons n place => exact List.cons_lt_cons_iff.2 (Or.inl (hname n (mem_names_of_kind? hkind)))

/-- **The source files of a folder stand in the order of their places**, which compares them name by
name. -/
theorem pairwise_sources {f : Folder} (hf : f.Ordered) : f.sources.Pairwise (· < ·) := by
  induction f with
  | empty => exact List.Pairwise.nil
  | file name contents rest ih =>
    rw [sources]
    refine List.pairwise_append.2 ⟨?_, ih hf.2, ?_⟩
    · split <;> simp
    · intro a ha b hb
      have hname : a = [name] := by
        split at ha
        · exact List.mem_singleton.1 ha
        · simp at ha
      rw [hname]
      exact lt_of_mem_sources hf.2 hf.1 hb []
  | folder name inner rest ihInner ihRest =>
    rw [sources]
    refine List.pairwise_append.2 ⟨?_, ihRest hf.2.2, ?_⟩
    · split
      · exact List.Pairwise.nil
      · refine List.pairwise_map.2 ((ihInner hf.2.1).imp ?_)
        intro a b hlt
        exact List.cons_lt_cons_iff.2 (Or.inr ⟨rfl, hlt⟩)
    · intro a ha b hb
      split at ha
      · simp at ha
      · obtain ⟨names, -, rfl⟩ := List.mem_map.1 ha
        exact lt_of_mem_sources hf.2.2 hf.1 hb names

theorem nodup_sources {f : Folder} (hf : f.Ordered) : f.sources.Nodup := by
  refine (pairwise_sources hf).imp ?_
  rintro a b hlt rfl
  exact List.lt_irrefl a hlt

end Folder

namespace FileTree

/-! ### Discovery -/

/-- A file is found at its own path, and the source files of a folder below the folder's. -/
theorem discover_eq_ok_iff {t : FileTree} {root : Path} {files : List Path} :
    (t.discover root).result = .ok files ↔ ∃ base, t.locate root = .ok base ∧
      ((∃ contents, t.root.kind? base = some (some contents)) ∧ files = [root] ∨
        ∃ f, t.root.at? base = some (.folder f) ∧ files = f.sources.map root.below) := by
  unfold discover node
  cases t.locate root with
  | error e => simp
  | ok base =>
    cases hat : t.root.at? base with
    | none => simp [hat, Folder.kind?]
    | some node =>
      cases node <;> simp [hat, Folder.kind?, Node.contents?, Except.bind, eq_comm]

/-- The source files of a folder, by what stands below the folder. -/
theorem mem_sources_of_at? {t : FileTree} {base place : List RawText} {f : Folder}
    (h : t.root.at? base = some (.folder f)) :
    place ∈ f.sources ↔ IsSourcePlace place ∧ t.root.HasFile (base ++ place) := by
  have hordered : f.Ordered := Folder.ordered_of_at? t.ordered h
  rw [Folder.mem_sources_iff hordered, Folder.HasFile, Folder.HasFile, Folder.kind?, Folder.kind?,
    Folder.at?_append h]

end FileTree
end Companion
