import Mathlib
import Companion.Proofs.OutputFile

/-! What assembling keeps.

Files divide the artifacts: there is one file for each path, however often and in whatever spellings
the path comes up, and the files stand in the order in which their paths are first met. A file holds
the bodies of the artifacts that are sent to it, in their order. So no artifact is lost or comes
twice, and no two bodies of a file change places (`assemble_divides`). -/
namespace Companion.OutputFile

/-! ### Artifacts by their path -/

/-- The artifacts that go to a path. -/
def sentTo (path : Path) (artifacts : List Artifact) : List Artifact :=
  artifacts.filter (·.path.same path)

/-- What goes to one path is not among what goes to another. -/
theorem sentTo_filter_not {p q : Path} (h : p.same q = false) (artifacts : List Artifact) :
    sentTo q (artifacts.filter fun a => !a.path.same p) = sentTo q artifacts := by
  rw [sentTo, sentTo, List.filter_filter]
  refine List.filter_congr fun a _ => ?_
  cases hq : a.path.same q with
  | false => rfl
  | true =>
    have hp : a.path.same p = false := by rw [Path.same_congr hq, Path.same_comm, h]
    rw [hp]
    rfl

/-- **Different paths to which all artifacts go divide the artifacts.** -/
theorem perm_flatMap_sentTo {paths : List Path} {artifacts : List Artifact}
    (hapart : paths.Pairwise fun p q => p.same q = false)
    (hall : ∀ a ∈ artifacts, ∃ p ∈ paths, a.path.same p = true) :
    (paths.flatMap (sentTo · artifacts)).Perm artifacts := by
  induction paths generalizing artifacts with
  | nil =>
    obtain rfl : artifacts = [] := List.eq_nil_iff_forall_not_mem.2 fun a ha => by
      simpa using hall a ha
    exact .nil
  | cons p paths ih =>
    obtain ⟨hp, hapart⟩ := List.pairwise_cons.1 hapart
    have hothers : ∀ a ∈ artifacts.filter fun a => !a.path.same p,
        ∃ q ∈ paths, a.path.same q = true := by
      intro a ha
      obtain ⟨ha, hne⟩ := List.mem_filter.1 ha
      obtain ⟨q, hq, hsame⟩ := hall a ha
      rcases List.mem_cons.1 hq with rfl | hq
      · simp [hsame] at hne
      · exact ⟨q, hq, hsame⟩
    have hrest : paths.flatMap (sentTo · artifacts) =
        paths.flatMap (sentTo · (artifacts.filter fun a => !a.path.same p)) :=
      List.flatMap_congr fun q hq => (sentTo_filter_not (hp q hq) artifacts).symm
    rw [List.flatMap_cons, hrest]
    exact ((ih hapart hothers).append_left _).trans (List.filter_append_perm _ artifacts)

/-! ### Files -/

variable {artifacts : List Artifact} {o o' : OutputFile}

/-- There is one file for each path, in the order and the spelling in which the paths come first. -/
theorem paths_assemble (artifacts : List Artifact) :
    (assemble artifacts).map path = (artifacts.map Artifact.path).eraseDupsBy Path.same := by
  have hpaths : (groups artifacts).map Group.path = _ := paths_extend [] artifacts
  have hnew : newPaths [] (artifacts.map Artifact.path) = artifacts.map Artifact.path := by
    simp [newPaths]
  have hfiles : (assemble artifacts).map path = (groups artifacts).map Group.path := List.map_map
  rw [hfiles, hpaths, List.map_nil, List.nil_append, hnew]

/-- A file is the marker, an empty line, and the bodies that are sent to it. -/
theorem contents_of_mem_assemble (h : o ∈ assemble artifacts) : o.contents =
    generatedMarker ++ "\n\n" ++ String.intercalate "\n"
      ((sentTo o.path artifacts).map Artifact.body) := by
  obtain ⟨g, hg, rfl⟩ := List.mem_map.1 h
  rw [ofGroup, bodies_of_mem_groups hg]
  rfl

theorem eq_of_same_path (h : o ∈ assemble artifacts) (h' : o' ∈ assemble artifacts)
    (hsame : o.path.same o'.path = true) : o = o' := by
  obtain ⟨g, hg, rfl⟩ := List.mem_map.1 h
  obtain ⟨g', hg', rfl⟩ := List.mem_map.1 h'
  rw [List.inj_on_of_nodup_map (nodup_components_groups artifacts) hg hg' (Path.same_iff.1 hsame)]

/-- Every artifact is sent to one file. -/
theorem existsUnique_file {a : Artifact} (h : a ∈ artifacts) :
    ∃! o, o ∈ assemble artifacts ∧ a ∈ sentTo o.path artifacts := by
  obtain ⟨g, hg, hsame⟩ := exists_group_of_mem h
  rw [Path.same_comm] at hsame
  refine ⟨ofGroup g, ⟨List.mem_map_of_mem hg, List.mem_filter.2 ⟨h, hsame⟩⟩, ?_⟩
  rintro o ⟨ho, ha⟩
  refine eq_of_same_path ho (List.mem_map_of_mem hg) ?_
  rw [← Path.same_congr (List.mem_filter.1 ha).2]
  exact hsame

/-- Artifacts go to different paths when their files have different paths. -/
theorem not_same_of_files {others : List Artifact}
    (h : ∀ o ∈ assemble artifacts, ∀ o' ∈ assemble others, o.path.components ≠ o'.path.components) :
    ∀ a ∈ artifacts, ∀ b ∈ others, a.path.same b.path = false := by
  intro a ha b hb
  obtain ⟨o, ⟨ho, hao⟩, -⟩ := existsUnique_file ha
  obtain ⟨o', ⟨ho', hbo⟩, -⟩ := existsUnique_file hb
  refine Bool.eq_false_iff.2 fun hab => h o ho o' ho' ?_
  rw [← Path.same_iff.1 (List.mem_filter.1 hao).2, ← Path.same_iff.1 (List.mem_filter.1 hbo).2]
  exact Path.same_iff.1 hab

/-- **Assembling loses, repeats and moves nothing.** The files are one for each path, in the order
and the spelling in which the paths come first; each holds the marker, an empty line and the bodies
of the artifacts that are sent to it, in their order, and is known as generated; every artifact is
sent to one file, and all files together hold all artifacts, each as often as it comes. So artifacts
whose files have different paths are assembled apart. -/
theorem assemble_divides (artifacts : List Artifact) :
    (assemble artifacts).map path = (artifacts.map Artifact.path).eraseDupsBy Path.same ∧
    (assemble artifacts).Pairwise (fun o o' => o.path.components ≠ o'.path.components) ∧
    (∀ o ∈ assemble artifacts, isGenerated o.contents.toList = true ∧ o.contents =
      generatedMarker ++ "\n\n" ++ String.intercalate "\n"
        ((sentTo o.path artifacts).map Artifact.body)) ∧
    (∀ a ∈ artifacts, ∃! o, o ∈ assemble artifacts ∧ a ∈ sentTo o.path artifacts) ∧
    ((assemble artifacts).flatMap fun o => sentTo o.path artifacts).Perm artifacts ∧
    ∀ others,
      (∀ o ∈ assemble artifacts, ∀ o' ∈ assemble others, o.path.components ≠ o'.path.components) →
      assemble (artifacts ++ others) = assemble artifacts ++ assemble others := by
  refine ⟨paths_assemble artifacts, ?_, ?_, fun a ha => existsUnique_file ha, ?_, ?_⟩
  · exact (pairwise_assemble artifacts).imp fun hne heq => by simp [Path.same_iff.2 heq] at hne
  · exact fun o ho => ⟨isGenerated_contents ho, contents_of_mem_assemble ho⟩
  · have hapart : ((assemble artifacts).map path).Pairwise fun p q => p.same q = false :=
      List.pairwise_map.2 (pairwise_assemble artifacts)
    have hperm := perm_flatMap_sentTo hapart fun a ha => by
      obtain ⟨o, ⟨ho, hao⟩, -⟩ := existsUnique_file ha
      exact ⟨o.path, List.mem_map_of_mem ho, (List.mem_filter.1 hao).2⟩
    rwa [List.flatMap_map] at hperm
  · exact fun others h => assemble_append (not_same_of_files h)

/-- Artifacts for three files, the first of which is spelled in two ways and met again behind the
second. -/
def interleaved : List Artifact :=
  [⟨⟨"src/a.rs"⟩, "i18n", "A", "struct A;\n"⟩, ⟨⟨"src/b.rs"⟩, "i18n", "B", "struct B;\n"⟩,
    ⟨⟨"src//a.rs"⟩, "i18n", "C", "struct C;\n"⟩, ⟨⟨"src/a.rs"⟩, "audit", "A", "struct A;\n"⟩]

/-- An artifact whose file has the name of one of them, in another directory. -/
def aside : List Artifact := [⟨⟨"lib/a.rs"⟩, "i18n", "A", "struct A;\n"⟩]

theorem assemble_divides_interleaved :
    (assemble interleaved).map path = [⟨"src/a_i18n.rs"⟩, ⟨"src/b_i18n.rs"⟩, ⟨"src/a_audit.rs"⟩] ∧
    ⟨⟨"src/a_i18n.rs"⟩, generatedMarker ++ "\n\nstruct A;\n\nstruct C;\n"⟩ ∈ assemble interleaved ∧
    ((assemble interleaved).flatMap fun o => sentTo o.path interleaved).Perm interleaved ∧
    assemble (interleaved ++ aside) = assemble interleaved ++ assemble aside := by
  obtain ⟨-, -, -, -, hperm, happend⟩ := assemble_divides interleaved
  exact ⟨by decide +kernel, by decide +kernel, hperm, happend aside (by decide +kernel)⟩

end Companion.OutputFile
