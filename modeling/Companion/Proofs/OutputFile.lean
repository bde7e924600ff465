import Mathlib
import Companion.OutputFile

/-! Assembling output files. A file holds the bodies of all artifacts of its own path and of no
others (`bodies_of_mem_groups`), so artifacts that go to different paths are assembled apart
(`assemble_append`). No path comes twice (`pairwise_assemble`), and every file that is assembled is
known as generated (`isGenerated_contents`). -/
namespace Companion

namespace Path

@[simp] theorem same_self (p : Path) : p.same p = true := by
  simp [same]

theorem same_iff {p q : Path} : p.same q = true ↔ p.components = q.components := by
  simp [same]

theorem same_comm (p q : Path) : p.same q = q.same p := by
  rw [Bool.eq_iff_iff, same_iff, same_iff, eq_comm]

theorem same_congr {p q : Path} (h : p.same q = true) (r : Path) : p.same r = q.same r := by
  rw [Bool.eq_iff_iff, same_iff, same_iff, same_iff.1 h]

end Path

namespace OutputFile

/-! ### Groups -/

/-- The groups after further artifacts. -/
def extend (gs : List Group) (artifacts : List Artifact) : List Group :=
  artifacts.foldl (fun gs a => addBody a.path a.body gs) gs

theorem groups_append (as bs : List Artifact) : groups (as ++ bs) = extend (groups as) bs := by
  simp [groups, extend, List.foldl_append]

/-- A body passes the groups of other paths. -/
theorem addBody_append {path : Path} {body : String} {gs hs : List Group}
    (h : ∀ g ∈ gs, g.path.same path = false) :
    addBody path body (gs ++ hs) = gs ++ addBody path body hs := by
  induction gs with
  | nil => rfl
  | cons g gs ih =>
    have hg := h g List.mem_cons_self
    rw [List.cons_append, addBody, hg, ih fun g' hg' => h g' (List.mem_cons_of_mem g hg')]
    rfl

theorem extend_append {gs hs : List Group} {artifacts : List Artifact}
    (h : ∀ g ∈ gs, ∀ a ∈ artifacts, g.path.same a.path = false) :
    extend (gs ++ hs) artifacts = gs ++ extend hs artifacts := by
  induction artifacts generalizing hs with
  | nil => rfl
  | cons a artifacts ih =>
    have ha : addBody a.path a.body (gs ++ hs) = gs ++ addBody a.path a.body hs :=
      addBody_append fun g hg => h g hg a List.mem_cons_self
    show extend (addBody a.path a.body (gs ++ hs)) artifacts = _
    rw [ha, ih fun g hg b hb => h g hg b (List.mem_cons_of_mem a hb)]
    rfl

/-- Adding a body makes no path but its own. -/
theorem mem_addBody {path : Path} {body : String} {gs : List Group} {g : Group}
    (h : g ∈ addBody path body gs) : g.path = path ∨ ∃ g' ∈ gs, g.path = g'.path := by
  induction gs with
  | nil =>
    obtain rfl := List.mem_singleton.1 h
    exact Or.inl rfl
  | cons g' gs ih =>
    rw [addBody] at h
    split at h
    · rcases List.mem_cons.1 h with rfl | h
      · exact Or.inr ⟨g', List.mem_cons_self, rfl⟩
      · exact Or.inr ⟨g, List.mem_cons_of_mem g' h, rfl⟩
    · rcases List.mem_cons.1 h with rfl | h
      · exact Or.inr ⟨g, List.mem_cons_self, rfl⟩
      · rcases ih h with hpath | ⟨g'', hg'', hpath⟩
        · exact Or.inl hpath
        · exact Or.inr ⟨g'', List.mem_cons_of_mem g' hg'', hpath⟩

theorem mem_extend {gs : List Group} {artifacts : List Artifact} {g : Group}
    (h : g ∈ extend gs artifacts) :
    (∃ a ∈ artifacts, g.path = a.path) ∨ ∃ g' ∈ gs, g.path = g'.path := by
  induction artifacts generalizing gs with
  | nil => exact Or.inr ⟨g, h, rfl⟩
  | cons a artifacts ih =>
    rcases ih h with ⟨b, hb, hpath⟩ | ⟨g', hg', hpath⟩
    · exact Or.inl ⟨b, List.mem_cons_of_mem a hb, hpath⟩
    · rcases mem_addBody hg' with hself | ⟨g'', hg'', hsame⟩
      · exact Or.inl ⟨a, List.mem_cons_self, hpath.trans hself⟩
      · exact Or.inr ⟨g'', hg'', hpath.trans hsame⟩

/-- A group has the path of one of the artifacts. -/
theorem exists_of_mem_groups {artifacts : List Artifact} {g : Group} (h : g ∈ groups artifacts) :
    ∃ a ∈ artifacts, g.path = a.path := by
  rcases @mem_extend [] _ _ h with hartifact | ⟨g', hg', -⟩
  · exact hartifact
  · cases hg'

/-! ### The paths of the groups -/

/-- The paths of which `known` holds no spelling. -/
def newPaths (known paths : List Path) : List Path := paths.filter fun p => !known.any (·.same p)

theorem newPaths_cons (known : List Path) (path : Path) (paths : List Path) :
    newPaths known (path :: paths) =
    if known.any (·.same path) = true then newPaths known paths
    else path :: newPaths known paths := by
  by_cases hany : known.any (·.same path) =
    true <;> simp only [newPaths, List.filter_cons, hany] <;> rfl

theorem newPaths_concat (known : List Path) (path : Path) (paths : List Path) :
    newPaths (known ++ [path]) paths =
    (newPaths known paths).filter fun p => decide (p.same path = false) := by
  rw [newPaths, newPaths, List.filter_filter]
  refine List.filter_congr fun p _ => ?_
  rw [List.any_append, List.any_cons, List.any_nil, Bool.or_false, Bool.not_or, Bool.and_comm,
    Path.same_comm]
  cases p.same path <;> rfl

/-- Adding a body adds its path, unless there is one spelling of it already. -/
theorem paths_addBody (path : Path) (body : String) (gs : List Group) :
    (addBody path body gs).map Group.path =
    gs.map Group.path ++ if (gs.map Group.path).any (·.same path) = true then [] else [path] := by
  induction gs with
  | nil => rfl
  | cons g gs ih =>
    rw [addBody]
    by_cases hg : g.path.same path = true
    · simp [hg]
    · rw [if_neg hg, List.map_cons, ih, List.map_cons, List.any_cons, Bool.eq_false_iff.2 hg,
        Bool.false_or, List.cons_append]

/-- **Further artifacts add those of their paths that are new**, in the order and the spelling in
which they come first. -/
theorem paths_extend (gs : List Group) (artifacts : List Artifact) :
    (extend gs artifacts).map Group.path =
    gs.map Group.path ++ (newPaths (gs.map Group.path) (artifacts.map Artifact.path)).eraseDupsBy
      Path.same := by
  induction artifacts generalizing gs with
  | nil => simp [extend, newPaths]
  | cons a artifacts ih =>
    show (extend (addBody a.path a.body gs) artifacts).map Group.path = _
    rw [ih, paths_addBody, List.map_cons, newPaths_cons]
    split
    · rw [List.append_nil]
    · rw [List.eraseDupsBy_cons, newPaths_concat, List.append_assoc, List.singleton_append]

/-- No two groups have spellings of one path. -/
theorem pairwise_extend {gs : List Group} (artifacts : List Artifact)
    (h : (gs.map Group.path).Pairwise fun p q => p.same q = false) :
    ((extend gs artifacts).map Group.path).Pairwise fun p q => p.same q = false := by
  induction artifacts generalizing gs with
  | nil => exact h
  | cons a artifacts ih =>
    refine @ih (addBody a.path a.body gs) ?_
    rw [paths_addBody]
    split
    · rwa [List.append_nil]
    · next hnew =>
      refine List.pairwise_append.2 ⟨h, List.pairwise_singleton _ _, ?_⟩
      intro p hp q hq
      obtain rfl := List.mem_singleton.1 hq
      simp only [List.any_eq_true, not_exists, not_and] at hnew
      exact Bool.eq_false_iff.2 (hnew p hp)

/-! ### The bodies of a group -/

/-- The bodies that groups hold for a path. -/
def bodiesAt (path : Path) (gs : List Group) : List String :=
  ((gs.find? (·.path.same path)).map Group.bodies).getD []

theorem bodiesAt_addBody (path other : Path) (body : String) (gs : List Group) :
    bodiesAt other (addBody path body gs) =
      if path.same other = true then bodiesAt other gs ++ [body] else bodiesAt other gs := by
  induction gs with
  | nil => by_cases h : path.same other = true <;> simp [addBody, bodiesAt, h]
  | cons g gs ih =>
    rw [addBody]
    by_cases hg : g.path.same path = true
    · rw [if_pos hg]
      by_cases h : path.same other = true
      · have hfirst : g.path.same other = true := by rw [Path.same_congr hg, h]
        simp [bodiesAt, hfirst, h]
      · have hfirst : ¬g.path.same other = true := by rwa [Path.same_congr hg]
        simp [bodiesAt, hfirst, h]
    · rw [if_neg hg]
      by_cases hfirst : g.path.same other = true
      · have h : ¬path.same other = true := by
          intro h
          rw [Path.same_comm] at h
          exact hg (by rw [Path.same_congr hfirst, h])
        simp [bodiesAt, hfirst, h]
      · simpa [bodiesAt, hfirst] using ih

theorem bodiesAt_extend (path : Path) (artifacts : List Artifact) (gs : List Group) :
    bodiesAt path (extend gs artifacts) =
      bodiesAt path gs ++ (artifacts.filter fun a => a.path.same path).map Artifact.body := by
  induction artifacts generalizing gs with
  | nil => simp [extend]
  | cons a artifacts ih =>
    show bodiesAt path (extend (addBody a.path a.body gs) artifacts) = _
    rw [ih, bodiesAt_addBody]
    by_cases h : a.path.same path = true <;> simp [h]

theorem nodup_components_groups (artifacts : List Artifact) :
    ((groups artifacts).map fun g => g.path.components).Nodup := by
  have h : ((groups artifacts).map Group.path).Pairwise fun p q => p.same q = false :=
    @pairwise_extend [] artifacts List.Pairwise.nil
  refine List.pairwise_map.2 ((List.pairwise_map.1 h).imp fun hne heq => ?_)
  rw [Path.same_iff.2 heq] at hne
  cases hne

/-- A group holds the bodies of all artifacts that go to its path, in their order. -/
theorem bodies_of_mem_groups {artifacts : List Artifact} {g : Group} (h : g ∈ groups artifacts) :
    g.bodies = (artifacts.filter fun a => a.path.same g.path).map Artifact.body := by
  have hfind : (groups artifacts).find? (·.path.same g.path) = some g := by
    cases hfirst : (groups artifacts).find? (·.path.same g.path) with
    | none => exact absurd (Path.same_self g.path) (List.find?_eq_none.1 hfirst g h)
    | some first =>
      have hsame : first.path.same g.path = true := by simpa using List.find?_some hfirst
      rw [List.inj_on_of_nodup_map (nodup_components_groups artifacts)
        (List.mem_of_find?_eq_some hfirst) h (Path.same_iff.1 hsame)]
  have hbodies : bodiesAt g.path (groups artifacts) = _ := bodiesAt_extend g.path artifacts []
  rwa [bodiesAt, hfind] at hbodies

/-- Every artifact goes to a group. -/
theorem exists_group_of_mem {artifacts : List Artifact} {a : Artifact} (h : a ∈ artifacts) :
    ∃ g ∈ groups artifacts, g.path.same a.path = true := by
  have hmem : a.body ∈ bodiesAt a.path (groups artifacts) := by
    have hbodies : bodiesAt a.path (groups artifacts) = _ := bodiesAt_extend a.path artifacts []
    rw [hbodies]
    exact List.mem_append_right _
      (List.mem_map_of_mem (List.mem_filter.2 ⟨h, Path.same_self a.path⟩))
  cases hfind : (groups artifacts).find? (·.path.same a.path) with
  | none => simp [bodiesAt, hfind] at hmem
  | some g => exact ⟨g, List.mem_of_find?_eq_some hfind, by simpa using List.find?_some hfind⟩

/-! ### Files -/

/-- No two assembled files have spellings of one path. -/
theorem pairwise_assemble (artifacts : List Artifact) :
    (assemble artifacts).Pairwise fun o o' => o.path.same o'.path = false := by
  have h := @pairwise_extend [] artifacts List.Pairwise.nil
  rw [List.pairwise_map] at h
  exact List.pairwise_map.2 h

theorem exists_of_mem_assemble {artifacts : List Artifact} {o : OutputFile}
    (h : o ∈ assemble artifacts) :
    ∃ a ∈ artifacts, o.path = a.path := by
  obtain ⟨g, hg, rfl⟩ := List.mem_map.1 h
  exact exists_of_mem_groups hg

/-- Every artifact goes to a file. -/
theorem exists_file_of_mem {artifacts : List Artifact} {a : Artifact} (h : a ∈ artifacts) :
    ∃ o ∈ assemble artifacts, o.path.same a.path = true := by
  obtain ⟨g, hg, hsame⟩ := exists_group_of_mem h
  exact ⟨ofGroup g, List.mem_map_of_mem hg, hsame⟩

/-- **Artifacts for different paths are assembled apart.** -/
theorem assemble_append {as bs : List Artifact}
    (h : ∀ a ∈ as, ∀ b ∈ bs, a.path.same b.path = false) :
    assemble (as ++ bs) = assemble as ++ assemble bs := by
  have hgroups : ∀ g ∈ groups as, ∀ b ∈ bs, g.path.same b.path = false := by
    intro g hg b hb
    obtain ⟨a, ha, hpath⟩ := exists_of_mem_groups hg
    rw [hpath]
    exact h a ha b hb
  have hextend := @extend_append _ [] _ hgroups
  rw [List.append_nil] at hextend
  rw [assemble, groups_append, hextend, List.map_append]
  rfl

/-! ### The marker -/

/-- The marker line has no line end in it and no blank at its end. -/
theorem generatedMarker_line : (∀ c ∈ generatedMarker.toList, c ≠ '\n') ∧
    Text.trimEnd generatedMarker.toList = generatedMarker.toList := by
  constructor
  · have hall : generatedMarker.toList.all (fun c => c ≠ '\n') = true := by decide
    simpa using hall
  · decide

theorem isGenerated_ofGroup (g : Group) : isGenerated (ofGroup g).contents.toList = true := by
  obtain ⟨hline, htrim⟩ := generatedMarker_line
  have htext : (ofGroup g).contents.toList =
      generatedMarker.toList ++ '\n' :: '\n' :: (String.intercalate "\n" g.bodies).toList := by
    simp [ofGroup]
  have htake : (ofGroup g).contents.toList.takeWhile (· ≠ '\n') = generatedMarker.toList := by
    rw [htext, List.takeWhile_append_of_pos]
    · simp
    · intro c hc
      simpa using hline c hc
  rw [isGenerated, htake, htrim]
  simp

/-- Every assembled file is known as generated. -/
theorem isGenerated_contents {artifacts : List Artifact} {o : OutputFile}
    (h : o ∈ assemble artifacts) :
    isGenerated o.contents.toList = true := by
  obtain ⟨g, -, rfl⟩ := List.mem_map.1 h
  exact isGenerated_ofGroup g

end OutputFile
end Companion
