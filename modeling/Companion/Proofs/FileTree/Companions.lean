import Mathlib
import Companion.Proofs.OutputFile
import Companion.Proofs.Run.Discovery
import Companion.Proofs.Text.Raw

/-! Where companion files go. The companion of a file stands in the same folder under a name made of
what the file's own name decodes to (`leads_companion`). Of the files that discovery finds, the
companions that are different paths stand at different places (`found_discover`). A source file can
be told from its companion as long as its name can be told from the others when it is decoded
(`same_of_same_companion`, `companions_of_discover`); so it is with names that are text
(`toldApart_of_isText`). A found file stands where the companion of another goes only when it is at
the companion's path (`same_of_locate_companion`). -/
namespace Companion

namespace Path

/-! ### Stem and extension -/

/-- A name is cut at a dot, or not at all. -/
theorem splitDot_cases (name : List UInt8) : splitDot name = (name, none) ∨
    ∃ stem ext, splitDot name = (stem, some ext) ∧ name = stem ++ dot :: ext := by
  have hcut := @List.takeWhile_append_dropWhile _ (fun c => decide (c ≠ dot)) name.reverse
  have hdot := List.head?_dropWhile_not (fun c => decide (c ≠ dot)) name.reverse
  unfold splitDot
  dsimp only
  split
  · exact Or.inl rfl
  · exact Or.inl rfl
  · next last stem _ hrest =>
    refine Or.inr ⟨_, _, rfl, ?_⟩
    rw [hrest] at hcut hdot
    have hname := congrArg List.reverse hcut
    obtain rfl : last = dot := by simpa using hdot
    simpa using hname.symm

/-- A name with an extension is its stem, a dot and the extension. -/
theorem splitDot_eq_some {name ext : List UInt8} (h : (splitDot name).2 = some ext) :
    name = (splitDot name).1 ++ dot :: ext := by
  rcases splitDot_cases name with hwhole | ⟨stem, ext', hcut, hname⟩
  · rw [hwhole] at h
    cases h
  · rw [hcut] at h ⊢
    obtain rfl := Option.some.inj h
    exact hname

theorem stem_subset (name : List UInt8) : (splitDot name).1 ⊆ name := by
  rcases splitDot_cases name with hwhole | ⟨stem, ext, hcut, hname⟩
  · rw [hwhole]
    exact List.Subset.refl name
  · rw [hcut, hname]
    exact List.subset_append_left stem _

theorem extension_subset {name ext : List UInt8} (h : (splitDot name).2 = some ext) :
    ext ⊆ name := by
  intro c hc
  rw [splitDot_eq_some h]
  exact List.mem_append_right _ (List.mem_cons_of_mem dot hc)

theorem stem_ne_nil {name ext : List UInt8} (h : (splitDot name).2 = some ext) :
    (splitDot name).1 ≠ [] := by
  unfold splitDot at h ⊢
  rcases hdrop : name.reverse.dropWhile (fun c => decide (c ≠ dot)) with
    _ | ⟨dot, _ | ⟨last, front⟩⟩
  · simp only [hdrop] at h
    cases h
  · simp only [hdrop] at h
    cases h
  · simp only [hdrop]
    simp

/-- A stem, a dot and an extension without dots are cut there. -/
theorem splitDot_concat {stem ext : List UInt8} (hstem : stem ≠ []) (hext : dot ∉ ext) :
    splitDot (stem ++ dot :: ext) = (stem, some ext) := by
  have hmem : ∀ c ∈ ext.reverse, decide (c ≠ dot) = true := by
    intro c hc
    refine decide_eq_true ?_
    rintro rfl
    exact hext (List.mem_reverse.1 hc)
  obtain ⟨last, front, hlast⟩ := List.exists_cons_of_ne_nil (List.reverse_ne_nil_iff.2 hstem)
  have hreversed : (stem ++ dot :: ext).reverse = ext.reverse ++ dot :: last :: front := by
    simp [hlast]
  have hdrop : (stem ++ dot :: ext).reverse.dropWhile (fun c => decide (c ≠ dot)) =
    dot :: last :: front := by
    rw [hreversed, List.dropWhile_append_of_pos hmem]
    rfl
  have htake : (stem ++ dot :: ext).reverse.takeWhile (fun c => decide (c ≠ dot)) =
    ext.reverse := by
    rw [hreversed, List.takeWhile_append_of_pos hmem]
    simp
  simp only [splitDot, hdrop, htake, List.reverse_reverse]
  rw [← hlast, List.reverse_reverse]

/-! ### Names of companions -/

/-- The name of the companion of a file of the given name. -/
def companionName (name : RawText) (directive : String) : RawText :=
  RawText.ofString <| (RawText.ofList (splitDot name.toList).1).decode ++ "_" ++ directive ++ "." ++
    ((splitDot name.toList).2.map fun ext => (RawText.ofList ext).decode).getD "rs"

theorem companion_eq {p : Path} {name : RawText} (h : p.fileName? = some name)
    (directive : String) :
    p.companion directive = p.withFileName (companionName name directive) := by
  simp [companion, companionName, stem, extension?, h, Function.comp_def]

/-- A slash in what a raw text decodes to is one of its bytes. -/
theorem slash_not_mem_decode {bytes : List UInt8} (h : slash ∉ bytes) :
    '/' ∉ (RawText.ofList bytes).decode.toList :=
  fun hmem => h (RawText.mem_of_mem_decode (by decide) hmem)

theorem isStep_companionName {name : RawText} {directive : String} (hname : IsStep name)
    (hdirective : '/' ∉ directive.toList) : IsStep (companionName name directive) := by
  have hmark : UInt8.ofNat '_'.toNat ∈ (companionName name directive).toList :=
    (RawText.mem_ofString_iff (by decide)).2 (by simp)
  refine ⟨isIdle_eq_false_iff.2 ⟨?_, ?_⟩, ?_, ?_⟩
  · intro heq
    simp [heq] at hmark
  · intro heq
    rw [heq] at hmark
    exact absurd hmark (by decide)
  · intro heq
    rw [heq] at hmark
    exact absurd hmark (by decide)
  · have hstem : '/' ∉ (RawText.ofList (splitDot name.toList).1).decode.toList :=
      slash_not_mem_decode fun h => hname.2.2 (stem_subset _ h)
    have hext : '/' ∉ (((splitDot name.toList).2.map fun ext =>
        (RawText.ofList ext).decode).getD "rs").toList := by
      cases hcut : (splitDot name.toList).2 with
      | none => decide
      | some ext => exact slash_not_mem_decode fun h => hname.2.2 (extension_subset hcut h)
    have hascii : '/'.toNat ≤ 0x7f := by decide
    refine mt (@RawText.mem_ofString_iff _ _ hascii).1 ?_
    simp only [String.toList_append, List.mem_append, not_or]
    exact ⟨⟨⟨⟨hstem, by decide⟩, hdirective⟩, by decide⟩, hext⟩

/-- Source files of different names have companions of different names, if their stems are told
apart when they are decoded. -/
theorem companionName_inj {name name' : RawText} {directive : String} (h : isSourceName name = true)
    (h' : isSourceName name' = true)
    (htold : (RawText.ofList (splitDot name.toList).1).decode =
      (RawText.ofList (splitDot name'.toList).1).decode →
        (splitDot name.toList).1 = (splitDot name'.toList).1)
    (heq : companionName name directive = companionName name' directive) : name = name' := by
  have hext : (splitDot name.toList).2 = some (RawText.ofString "rs").toList := of_decide_eq_true h
  have hext' : (splitDot name'.toList).2 = some (RawText.ofString "rs").toList :=
    of_decide_eq_true h'
  have hstem := htold <| by
    have hlist := congrArg String.toList (RawText.ofString_inj.1 heq)
    rw [hext, hext'] at hlist
    rw [← String.toList_inj]
    simpa using hlist
  rw [← RawText.toList_inj, splitDot_eq_some hext, splitDot_eq_some hext', hstem]

/-- No file is its own companion: the companion's name is longer. -/
theorem companionName_ne (name : RawText) (directive : String) :
    companionName name directive ≠ name := by
  intro heq
  have hlength := congrArg (fun t => t.toList.length) heq
  have hmark : (RawText.ofString "_").toList.length = 1 := rfl
  have hdot : (RawText.ofString ".").toList.length = 1 := rfl
  simp only [companionName, RawText.ofString_append, RawText.toList_append,
    List.length_append] at hlength
  rcases splitDot_cases name.toList with hwhole | ⟨stem, ext, hcut, hname⟩
  · have hstem := RawText.length_le_decode (.ofList name.toList)
    rw [hwhole] at hlength
    dsimp only [Option.map_none, Option.getD_none] at hlength hstem
    omega
  · have hstem := RawText.length_le_decode (.ofList stem)
    have hext := RawText.length_le_decode (.ofList ext)
    rw [hcut, hname, List.length_append, List.length_cons] at hlength
    dsimp only [Option.map_some, Option.getD_some] at hlength hstem hext
    omega

theorem components_companion {p : Path} {name : RawText} {directive : String}
    (h : p.fileName? = some name) (hdirective : '/' ∉ directive.toList) :
    (p.companion directive).components = p.components.dropLast ++
      [.name (companionName name directive)] := by
  rw [companion_eq h,
    components_withFileName h (isStep_companionName (isStep_of_fileName? h) hdirective)]

/-- A companion is called otherwise than its file. -/
theorem same_companion_self {p : Path} {name : RawText} {directive : String}
    (h : p.fileName? = some name) (hdirective : '/' ∉ directive.toList) :
    p.same (p.companion directive) = false := by
  refine Bool.eq_false_iff.2 fun hsame => companionName_ne name directive ?_
  have hlast : p.components.getLast? = some (.name (companionName name directive)) := by
    rw [same_iff.1 hsame, components_companion h hdirective, List.getLast?_concat]
  rw [fileName?, hlast] at h
  exact Option.some.inj h

/-- A path has the extension of source files when it ends in the name of one. -/
theorem isSourceName_of_extension? {p : Path} (h : p.extension? = some "rs") :
    ∃ name, p.fileName? = some name ∧ isSourceName name = true := by
  obtain ⟨name, hname, hext⟩ := Option.bind_eq_some_iff.1 h
  obtain ⟨ext, hcut, hext⟩ := Option.map_eq_some_iff.1 hext
  refine ⟨name, hname, decide_eq_true ?_⟩
  rw [hcut, ← hext]

/-- **Source files with spellings of one path as companions are spellings of one path**, if their
stems are told apart when they are decoded. -/
theorem same_of_same_companion {p q : Path} {directive : String} (hp : p.extension? = some "rs")
    (hq : q.extension? = some "rs") (htold : p.directory.same q.directory = true →
      p.stem.decode = q.stem.decode → p.stem = q.stem) (hdirective : '/' ∉ directive.toList)
    (h : (p.companion directive).same (q.companion directive) = true) : p.same q = true := by
  obtain ⟨name, hname, hsource⟩ := isSourceName_of_extension? hp
  obtain ⟨name', hname', hsource'⟩ := isSourceName_of_extension? hq
  obtain ⟨dir, hdir⟩ := List.getLast?_eq_some_iff.1 (fileName?_eq_some_iff.1 hname)
  obtain ⟨dir', hdir'⟩ := List.getLast?_eq_some_iff.1 (fileName?_eq_some_iff.1 hname')
  have hcomponents := same_iff.1 h
  rw [components_companion hname hdirective, components_companion hname' hdirective, hdir, hdir',
    List.dropLast_concat, List.dropLast_concat] at hcomponents
  obtain ⟨rfl, hlast⟩ := List.append_inj' hcomponents (by simp)
  have hsame : p.directory.same q.directory = true := by
    rw [same_iff, components_directory hname, components_directory hname', hdir, hdir',
      List.dropLast_concat, List.dropLast_concat]
  replace htold := htold hsame
  simp only [stem, hname, hname', RawText.ofList.injEq] at htold
  obtain rfl :=
    companionName_inj hsource hsource' htold (Component.name.inj (List.singleton_inj.1 hlast))
  rw [same_iff, hdir, hdir']

/-! ### Names that are told apart -/

/-- The stems of paths in one directory are still told apart when they are decoded. -/
def ToldApart (paths : List Path) : Prop :=
  ∀ p ∈ paths, ∀ q ∈ paths, p.directory.same q.directory = true → p.stem.decode = q.stem.decode →
    p.stem = q.stem

/-- The stem of a name that is text is text. -/
theorem isText_stem {p : Path} (h : ∀ name ∈ p.fileName?, name.IsText) : p.stem.IsText := by
  rw [stem]
  split
  · next name hname =>
    have htext := h name hname
    rcases splitDot_cases name.toList with hwhole | ⟨stem, ext, hcut, hcat⟩
    · rwa [hwhole]
    · obtain ⟨s, hs⟩ := RawText.isText_iff.1 htext
      rw [hs] at hcat
      obtain ⟨as, -, has, -⟩ := Text.exists_of_encode_eq (by decide) hcat
      rw [hcut]
      exact RawText.isText_iff.2 ⟨String.ofList as, by simp [RawText.ofString, has]⟩
  · exact RawText.isText_iff.2 ⟨"", rfl⟩

/-- **Paths that end in text are told apart.** -/
theorem toldApart_of_isText {paths : List Path}
    (h : ∀ p ∈ paths, ∀ name ∈ p.fileName?, name.IsText) :
    ToldApart paths :=
  fun p hp q hq _ heq => (isText_stem (h p hp)).eq_of_decode_eq (isText_stem (h q hq)) heq

/-! ### Different spellings of one path -/

theorem moves_eq_of_same {p q : Path} (h : p.same q = true) : moves p.parts = moves q.parts := by
  rw [← filterMap_components, ← filterMap_components, same_iff.1 h]

/-- The path ends in a part that leads somewhere else. -/
def EndsInStep (p : Path) : Prop := ∃ front last, p.parts = front ++ [last] ∧ isIdle last = false

theorem EndsInStep.nonempty {p : Path} (h : p.EndsInStep) : p.spelling.isEmpty = false := by
  obtain ⟨front, last, hparts, hlast⟩ := h
  refine Bool.eq_false_iff.2 fun hempty => ?_
  have hspelling : p.spelling.toList = [] := List.isEmpty_iff.1 hempty
  have hnone : p.parts = [[]] := by simp [parts, hspelling, splitSlash]
  have hmem : last ∈ p.parts := by simp [hparts]
  rw [hnone, List.mem_singleton] at hmem
  rw [hmem] at hlast
  cases hlast

end Path

namespace FileTree
open Companion.Path

/-- Spellings of one path that end in a step lead to one place. -/
theorem locate_eq_of_same (t : FileTree) {p q : Path} (hp : p.EndsInStep) (hq : q.EndsInStep)
    (h : p.same q = true) : t.locate p = t.locate q := by
  have hmoves := moves_eq_of_same h
  rw [locate_eq_follow hp.nonempty, locate_eq_follow hq.nonempty]
  obtain ⟨front, last, hparts, hlast⟩ := hp
  obtain ⟨front', last', hparts', hlast'⟩ := hq
  rw [hparts, hparts', moves_append, moves_append, moves_step hlast, moves_step hlast'] at hmoves
  rw [hparts, hparts', Folder.follow_moves, hmoves, ← Folder.follow_moves]

/-- The path of a file ends in a step. -/
theorem endsInStep_of_file {t : FileTree} {p : Path} {place : List RawText} {contents : ByteArray}
    (h : t.locate p = .ok place) (hfile : t.root.kind? place = some (some contents)) :
    p.EndsInStep := by
  rw [locate_eq_follow (nonempty_of_locate h)] at h
  obtain ⟨front, last, -, hparts, hidle, -⟩ := Folder.ends_in_name h (by simp [hfile])
  exact ⟨front, last, hparts, hidle⟩

/-! ### Places of companions -/

variable {t : FileTree} {p q : Path} {place : List RawText} {contents contents' : ByteArray}
  {directive : String}

/-- The companion of a file goes into the same folder. -/
theorem leads_companion (hp : t.locate p = .ok place)
    (hfile : t.root.kind? place = some (some contents)) (hdirective : '/' ∉ directive.toList) :
    ∃ dir name, place = dir ++ [name] ∧ p.fileName? = some name ∧ IsStep name ∧
      t.Leads (p.companion directive) dir (companionName name directive) := by
  obtain ⟨dir, name, rfl, hname, hleads⟩ := leads_withFileName hp hfile
  obtain ⟨node, hnode, -⟩ := Option.map_eq_some_iff.1 hfile
  have hstep : IsStep name := Folder.steps_of_at? t.named hnode name (by simp)
  refine ⟨dir, name, rfl, hname, hstep, ?_⟩
  rw [companion_eq hname]
  exact hleads _ (isStep_companionName hstep hdirective)

/-- What stands below a folder stands behind steps. -/
theorem steps_of_kind? {base : List RawText} {kind : Option ByteArray}
    (h : t.root.kind? (base ++ place) = some kind) : ∀ name ∈ place, IsStep name := by
  obtain ⟨node, hnode, -⟩ := Option.map_eq_some_iff.1 h
  exact fun name hname =>
    Folder.steps_of_at? t.named hnode name (List.mem_append_right base hname)

/-- A file below a folder ends in its own name, and its companion, by its place and by its
components, is in the file's own folder under the companion's name. -/
theorem companion_below {root : Path} {base dir : List RawText} {name : RawText}
    (hroot : t.locate root = .ok base)
    (hfile : t.root.kind? (base ++ (dir ++ [name])) = some (some contents))
    (hdirective : '/' ∉ directive.toList) :
    (root.below (dir ++ [name])).fileName? = some name ∧
      t.locate ((root.below (dir ++ [name])).companion directive) =
        .ok (base ++ dir ++ [companionName name directive]) ∧
      ((root.below (dir ++ [name])).companion directive).components =
        root.components ++ dir.map Component.name ++ [.name (companionName name directive)] := by
  obtain ⟨d, n, hplace, hname, -, hleads⟩ :=
    leads_companion (locate_below hroot hfile) hfile hdirective
  have hsteps := steps_of_kind? hfile
  rw [← List.append_assoc] at hplace
  obtain ⟨rfl, hlast⟩ := List.append_inj' hplace rfl
  obtain rfl := List.singleton_inj.1 hlast
  refine ⟨hname, hleads.locate, ?_⟩
  rw [components_companion hname hdirective, components_below root hsteps, List.map_append,
    ← List.append_assoc, List.map_singleton, List.dropLast_concat]

/-! ### Companions of the files found -/

/-- Files whose companions stand at one place only when they are one path. -/
structure Found (t : FileTree) (files : List Path) : Prop where
  file : ∀ p ∈ files, ∃ place contents, t.locate p = .ok place ∧
    t.root.kind? place = some (some contents)
  same : ∀ p ∈ files, ∀ q ∈ files, ∀ directive directive' : String, '/' ∉ directive.toList →
    '/' ∉ directive'.toList → t.locate (p.companion directive) = t.locate (q.companion directive') →
      (p.companion directive).same (q.companion directive') = true

/-- A single file has companions at places of their own. -/
theorem found_file {root : Path} (hroot : t.locate root = .ok place)
    (hfile : t.root.kind? place = some (some contents)) : t.Found [root] where
  file p hp := by
    obtain rfl := List.mem_singleton.1 hp
    exact ⟨place, contents, hroot, hfile⟩
  same p hp q hq directive directive' hdirective hdirective' heq := by
    obtain rfl := List.mem_singleton.1 hp
    obtain rfl := List.mem_singleton.1 hq
    obtain ⟨dir, name, rfl, hname, -, hleads⟩ := leads_companion hroot hfile hdirective
    obtain ⟨dir', name', hplace, hname', -, hleads'⟩ := leads_companion hroot hfile hdirective'
    rw [hleads.locate, hleads'.locate] at heq
    obtain rfl : name = name' := Option.some.inj (hname.symm.trans hname')
    obtain ⟨-, hlast⟩ := List.append_inj' (Except.ok.inj heq) (by simp)
    rw [companion_eq hname, companion_eq hname, List.singleton_inj.1 hlast, same_self]

/-- Source files below a folder have companions at places of their own. -/
theorem found_below {root : Path} {base : List RawText} {f : Folder}
    (hroot : t.locate root = .ok base) (hf : t.root.at? base = some (.folder f)) :
    t.Found (f.sources.map root.below) := by
  have hplace : ∀ q ∈ f.sources, ∃ dir name contents, q = dir ++ [name] ∧
      t.root.kind? (base ++ (dir ++ [name])) = some (some contents) := by
    intro q hq
    obtain ⟨hsource, contents, hkind⟩ := (mem_sources_of_at? hf).1 hq
    obtain ⟨dir, name, rfl, -⟩ := hsource.last
    exact ⟨dir, name, contents, rfl, hkind⟩
  refine ⟨?_, ?_⟩
  · intro p hp
    obtain ⟨q, hq, rfl⟩ := List.mem_map.1 hp
    obtain ⟨dir, name, contents, rfl, hkind⟩ := hplace q hq
    exact ⟨_, contents, locate_below hroot hkind, hkind⟩
  · intro p hp p' hp' directive directive' hdirective hdirective' heq
    obtain ⟨q, hq, rfl⟩ := List.mem_map.1 hp
    obtain ⟨q', hq', rfl⟩ := List.mem_map.1 hp'
    obtain ⟨dir, name, contents, rfl, hkind⟩ := hplace q hq
    obtain ⟨dir', name', contents', rfl, hkind'⟩ := hplace q' hq'
    obtain ⟨-, hlocate, hcomponents⟩ := companion_below hroot hkind hdirective
    obtain ⟨-, hlocate', hcomponents'⟩ := companion_below hroot hkind' hdirective'
    rw [hlocate, hlocate'] at heq
    obtain ⟨hdir, hlast⟩ := List.append_inj' (Except.ok.inj heq) (by simp)
    obtain rfl := List.append_cancel_left hdir
    rw [same_iff, hcomponents, hcomponents', List.singleton_inj.1 hlast]

/-- **Source files below a folder have different companions for a directive**, if their stems are
told apart when they are decoded. -/
theorem companions_below {root : Path} {base : List RawText} {f : Folder}
    (hroot : t.locate root = .ok base) (hf : t.root.at? base = some (.folder f))
    (htold : ToldApart (f.sources.map root.below)) (hdirective : '/' ∉ directive.toList) :
    (f.sources.map root.below).Pairwise fun p q =>
      (p.companion directive).same (q.companion directive) = false := by
  have hnodup := Folder.nodup_sources (Folder.ordered_of_at? t.ordered hf)
  refine List.pairwise_map.2 (List.Pairwise.imp_of_mem ?_ hnodup)
  intro q q' hq hq' hne
  refine Bool.eq_false_iff.2 fun hsame => hne ?_
  have htold := htold _ (List.mem_map_of_mem hq) _ (List.mem_map_of_mem hq')
  obtain ⟨hsource, contents, hkind⟩ := (mem_sources_of_at? hf).1 hq
  obtain ⟨hsource', contents', hkind'⟩ := (mem_sources_of_at? hf).1 hq'
  obtain ⟨dir, name, rfl, hname⟩ := hsource.last
  obtain ⟨dir', name', rfl, hname'⟩ := hsource'.last
  obtain ⟨hends, -, hcomponents⟩ := companion_below hroot hkind hdirective
  obtain ⟨hends', -, hcomponents'⟩ := companion_below hroot hkind' hdirective
  rw [same_iff, hcomponents, hcomponents'] at hsame
  obtain ⟨hdirs, hlast⟩ := List.append_inj' hsame rfl
  have hdir : dir = dir' :=
    List.map_injective_iff.2 (fun _ _ => Component.name.inj) (List.append_cancel_left hdirs)
  subst hdir
  have hdirectory : (root.below (dir ++ [name])).directory.same
      (root.below (dir ++ [name'])).directory = true := by
    rw [same_iff, components_directory hends, components_directory hends',
      components_below root (steps_of_kind? hkind), components_below root (steps_of_kind? hkind')]
    simp
  replace htold := htold hdirectory
  simp only [stem, hends, hends', RawText.ofList.injEq] at htold
  rw [companionName_inj hname hname' htold (Component.name.inj (List.singleton_inj.1 hlast))]

/-- A companion does not stand where its own file does. -/
theorem locate_companion_ne (hp : t.locate p = .ok place)
    (hfile : t.root.kind? place = some (some contents)) (hdirective : '/' ∉ directive.toList) :
    t.locate (p.companion directive) ≠ .ok place := by
  obtain ⟨dir, name, rfl, -, -, hleads⟩ := leads_companion hp hfile hdirective
  rw [hleads.locate]
  intro heq
  obtain ⟨-, hlast⟩ := List.append_inj' (Except.ok.inj heq) (by simp)
  exact companionName_ne name directive (List.singleton_inj.1 hlast)

/-- Discovery finds such files. -/
theorem found_discover {root : Path} {files : List Path}
    (h : (t.discover root).result = .ok files) :
    t.Found files := by
  obtain ⟨base, hroot, ⟨⟨contents, hfile⟩, rfl⟩ | ⟨f, hf, rfl⟩⟩ := discover_eq_ok_iff.1 h
  · exact found_file hroot hfile
  · exact found_below hroot hf

/-- Discovery finds no file twice. -/
theorem nodup_of_discover {root : Path} {files : List Path}
    (h : (t.discover root).result = .ok files) :
    files.Nodup := by
  obtain ⟨base, hroot, ⟨-, rfl⟩ | ⟨f, hf, rfl⟩⟩ := discover_eq_ok_iff.1 h
  · exact List.nodup_singleton _
  · refine List.Nodup.map_on ?_ (Folder.nodup_sources (Folder.ordered_of_at? t.ordered hf))
    intro q hq q' hq' heq
    obtain ⟨-, contents, hkind⟩ := (mem_sources_of_at? hf).1 hq
    obtain ⟨-, contents', hkind'⟩ := (mem_sources_of_at? hf).1 hq'
    have hlocate := locate_below hroot hkind
    rw [heq, locate_below hroot hkind'] at hlocate
    exact (List.append_cancel_left (Except.ok.inj hlocate)).symm

/-- Files that discovery finds have different companions, if their stems are told apart. -/
theorem companions_of_discover {root : Path} {files : List Path}
    (h : (t.discover root).result = .ok files) (htold : ToldApart files)
    (hdirective : '/' ∉ directive.toList) :
    files.Pairwise fun p q => (p.companion directive).same (q.companion directive) = false := by
  obtain ⟨base, hroot, ⟨-, rfl⟩ | ⟨f, hf, rfl⟩⟩ := discover_eq_ok_iff.1 h
  · exact List.pairwise_singleton _ _
  · exact companions_below hroot hf htold hdirective

theorem same_companion_of_discover {root : Path} {files : List Path}
    (h : (t.discover root).result = .ok files) (htold : ToldApart files)
    (hdirective : '/' ∉ directive.toList) (hp : p ∈ files) (hq : q ∈ files) (hne : p ≠ q) :
    (p.companion directive).same (q.companion directive) = false := by
  have hsymm : Std.Symm fun p q : Path =>
      (p.companion directive).same (q.companion directive) = false := by
    refine ⟨fun p q hne => ?_⟩
    rw [same_comm]
    exact hne
  exact (companions_of_discover h htold hdirective).forall hp hq hne

/-- **A file that discovery finds where a companion goes stands at the companion's path**, and the
companion is that of another file. -/
theorem same_of_locate_companion {root : Path} {files : List Path}
    (h : (t.discover root).result = .ok files) (hp : p ∈ files) (hq : q ∈ files)
    (hdirective : '/' ∉ directive.toList) (heq : t.locate (q.companion directive) = t.locate p) :
    q ≠ p ∧ p.same (q.companion directive) = true := by
  have hne : q ≠ p := by
    rintro rfl
    obtain ⟨place, contents, hplace, hfile⟩ := (found_discover h).file q hq
    exact locate_companion_ne hplace hfile hdirective (heq.trans hplace)
  refine ⟨hne, ?_⟩
  obtain ⟨base, hroot, ⟨-, rfl⟩ | ⟨f, hf, rfl⟩⟩ := discover_eq_ok_iff.1 h
  · rw [List.mem_singleton.1 hp, List.mem_singleton.1 hq] at hne
    exact absurd rfl hne
  · obtain ⟨place, hplace, rfl⟩ := List.mem_map.1 hp
    obtain ⟨place', hplace', rfl⟩ := List.mem_map.1 hq
    obtain ⟨-, contents, hfile⟩ := (mem_sources_of_at? hf).1 hplace
    obtain ⟨hsource', contents', hfile'⟩ := (mem_sources_of_at? hf).1 hplace'
    obtain ⟨dir', name', rfl, -⟩ := hsource'.last
    obtain ⟨-, hlocate, hcomponents⟩ := companion_below hroot hfile' hdirective
    rw [hlocate, locate_below hroot hfile, List.append_assoc] at heq
    obtain rfl := List.append_cancel_left (Except.ok.inj heq)
    rw [same_iff, hcomponents, components_below root (steps_of_kind? hfile), List.map_append,
      List.append_assoc]
    rfl

end FileTree
end Companion
