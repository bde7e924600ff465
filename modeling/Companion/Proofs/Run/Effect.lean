import Mathlib
import Companion.Proofs.Run.Compiled
import Companion.Proofs.Run.Settling

/-! What a run does to the tree. The files of a run go to places of their own, whatever families the
generator has (`apart_compile`): the paths of a run start alike, so they lead to one place only when
they are one path. Nothing is written before everything is compiled (`run_of_compile`). `run_effect`
puts together what follows for every mode and every end of a run. -/
namespace Companion

namespace FileTree

variable {t : FileTree} {g : Generator} {e : RunError}

/-! ### Errors of compilation -/

theorem load_error_ne_write {file : Path} (h : (t.load file).result = .error e) (p : Path)
    (cause : FileError) : e ≠ .write p cause := by
  rintro rfl
  rcases Logged.result_bind_eq_error_iff.1 h with h | ⟨text, -, h⟩
  · rw [Logged.result_ofExcept, readText] at h
    split at h
    · cases h
    · split at h <;> cases h
  · split at h
    · cases h
    · rcases Logged.result_bind_eq_error_iff.1 h with h | ⟨unit, -, h⟩
      · rw [Logged.result_ofExcept] at h
        cases hunit : SourceUnit.ofText file text with
        | error e => simp [hunit, Except.mapError] at h
        | ok unit => simp [hunit, Except.mapError] at h
      · cases h

/-- Compiling does not fail as writing does. -/
theorem compile_error_ne_write {root : Path} (h : (t.compile g root).result = .error e) (p : Path)
    (cause : FileError) : e ≠ .write p cause := by
  rintro rfl
  rcases Logged.result_bind_eq_error_iff.1 h with h | ⟨files, -, h⟩
  · unfold discover at h
    split at h <;> cases h
  · rw [compileFiles_eq_inTurn] at h
    obtain ⟨-, file, -, -, -, h⟩ := Compilation.inTurn_eq_error_iff.1 h
    rcases Logged.result_bind_eq_error_iff.1 h with h | ⟨unit, -, h⟩
    · exact load_error_ne_write h p cause rfl
    · cases unit with
      | none => cases h
      | some unit =>
        obtain ⟨cause', -, h⟩ := Logged.result_mapError_eq_error_iff.1 h
        cases h

end FileTree

namespace OutputFile

/-! ### The files of a run have places of their own -/

/-- **The files that are assembled of artifacts of found files go to places of their own.** -/
theorem apart_assemble {t : FileTree} {files : List Path} {artifacts : List Artifact}
    (hfound : t.Found files) (h : ∀ a ∈ artifacts, a.source ∈ files ∧ '/' ∉ a.directive.toList) :
    Apart t (assemble artifacts) := by
  constructor
  · intro o ho
    obtain ⟨a, ha, hpath⟩ := exists_of_mem_assemble ho
    obtain ⟨hsource, hdirective⟩ := h a ha
    obtain ⟨place, contents, hplace, hfile⟩ := hfound.file a.source hsource
    obtain ⟨dir, name, -, -, -, hleads⟩ := FileTree.leads_companion hplace hfile hdirective
    rw [hpath]
    exact ⟨dir, _, hleads⟩
  · refine List.Pairwise.imp_of_mem ?_ (pairwise_assemble artifacts)
    intro o o' ho ho' hne heq
    obtain ⟨a, ha, hpath⟩ := exists_of_mem_assemble ho
    obtain ⟨a', ha', hpath'⟩ := exists_of_mem_assemble ho'
    obtain ⟨hsource, hdirective⟩ := h a ha
    obtain ⟨hsource', hdirective'⟩ := h a' ha'
    rw [hpath, hpath'] at hne heq
    rw [Artifact.path, Artifact.path,
      hfound.same _ hsource _ hsource' _ _ hdirective hdirective' heq] at hne
    cases hne

theorem apart_compile {t : FileTree} {g : Generator} {root : Path} {c : Compilation}
    (hc : (t.compile g root).result = .ok c) : Apart t c.files := by
  obtain ⟨files, hdiscover, hcompile⟩ := Logged.result_bind_eq_ok_iff.1 hc
  exact apart_assemble (FileTree.found_discover hdiscover) fun a ha =>
    FileTree.mem_compileFiles hcompile ha

end OutputFile

namespace Generator
open OutputFile

/-! ### The stages of a run -/

variable {g : Generator} {mode : Mode} {t : FileTree} {root : Path}

/-- A run that does not compile leaves the tree as it is. -/
theorem run_of_compile_error {e : RunError} (hc : (t.compile g root).result = .error e) :
    (g.run mode t root).1 = t ∧ (g.run mode t root).2.result = .error e := by
  unfold run
  dsimp only
  rw [hc]
  exact ⟨rfl, rfl⟩

/-- A run that compiles settles the files. -/
theorem run_of_compile {c : Compilation} (hc : (t.compile g root).result = .ok c) :
    (g.run mode t root).1 = (settleAll mode t c.files).1 ∧
      (g.run mode t root).2.result = (settleAll mode t c.files).2.result.map (Summary.of c) := by
  unfold run
  dsimp only
  rw [hc]
  refine ⟨rfl, ?_⟩
  simp only [Logged.result_bind, hc]
  rcases (settleAll mode t c.files).2.result with e | settled <;> rfl

/-- A run that succeeds has compiled everything and settled all files. -/
theorem run_eq_ok_iff {t' : FileTree} {s : Summary} :
    (∃ log, g.run mode t root = (t', log) ∧ log.result = .ok s) ↔
      ∃ c settled log, (t.compile g root).result = .ok c ∧
        settleAll mode t c.files = (t', log) ∧ log.result = .ok settled ∧ s = .of c settled := by
  cases hc : (t.compile g root).result with
  | error e =>
    obtain ⟨-, herror⟩ := @run_of_compile_error _ mode _ _ _ hc
    constructor
    · rintro ⟨log, hrun, hlog⟩
      rw [hrun, hlog] at herror
      cases herror
    · rintro ⟨c, -, -, hc', -⟩
      cases hc'
  | ok c =>
    obtain ⟨htree, hresult⟩ := @run_of_compile _ mode _ _ _ hc
    constructor
    · rintro ⟨log, hrun, hlog⟩
      rw [hrun] at htree hresult
      rw [hlog] at hresult
      cases hsettled : (settleAll mode t c.files).2.result with
      | error e =>
        rw [hsettled] at hresult
        cases hresult
      | ok settled =>
        rw [hsettled] at hresult
        exact ⟨c, settled, _, rfl, Prod.ext htree.symm rfl, hsettled, Except.ok.inj hresult⟩
    · rintro ⟨c', settled, log, hc', hsettle, hsettled, rfl⟩
      obtain rfl := Except.ok.inj hc'
      rw [hsettle] at htree hresult
      rw [hsettled] at hresult
      exact ⟨_, Prod.ext htree rfl, hresult⟩

/-! ### The tree -/

/-- Only writing changes the tree. -/
theorem run_tree (hmode : mode = .check ∨ mode = .dryRun) : (g.run mode t root).1 = t := by
  cases hc : (t.compile g root).result with
  | error e => exact (run_of_compile_error hc).1
  | ok c =>
    rw [(run_of_compile hc).1]
    rcases hmode with rfl | rfl
    · exact (settleAll_check t c.files).1
    · exact (settleAll_dryRun t c.files).1

/-- A run in write mode that compiles writes its files up to the first that cannot be written. -/
theorem run_write_done {c : Compilation} (hc : (t.compile g root).result = .ok c) :
    (∃ s, (g.run .write t root).2.result = .ok s ∧ Written t (g.run .write t root).1 c.files) ∨
    ∃ before o after cause, c.files = before ++ o :: after ∧
      (g.run .write t root).2.result = .error (.write o.path cause) ∧
      Written t (g.run .write t root).1 before := by
  obtain ⟨htree, hresult⟩ := @run_of_compile _ .write _ _ _ hc
  rw [htree, hresult]
  rcases settleAll_write_done (apart_compile hc) with
    ⟨settled, hok, hwritten⟩ | ⟨before, o, after, cause, hcut, herror, hwritten⟩
  · rw [hok]
    exact Or.inl ⟨_, rfl, hwritten⟩
  · rw [herror]
    exact Or.inr ⟨before, o, after, cause, hcut, rfl, hwritten⟩

/-- A run in write mode that succeeds has written all its files. -/
theorem written_of_run {s : Summary} (h : (g.run .write t root).2.result = .ok s) :
    ∃ c, (t.compile g root).result = .ok c ∧ Written t (g.run .write t root).1 c.files := by
  cases hc : (t.compile g root).result with
  | error e =>
    rw [(run_of_compile_error hc).2] at h
    cases h
  | ok c =>
    rcases run_write_done hc with ⟨s, -, hwritten⟩ | ⟨before, o, after, cause, -, hwrite, -⟩
    · exact ⟨c, rfl, hwritten⟩
    · rw [hwrite] at h
      cases h

/-- **What a run does to the tree.** Checking and planning change nothing. Writing changes nothing
unless it succeeds or fails to write a file: then the files in front of that one hold their
contents, and all other places are as before. When it succeeds, all files do. -/
theorem run_effect (g : Generator) (mode : Mode) (t : FileTree) (root : Path) :
    (mode = .check ∨ mode = .dryRun → (g.run mode t root).1 = t) ∧
    (∀ e, (g.run mode t root).2.result = .error e → (∀ file cause, e ≠ .write file cause) →
      (g.run mode t root).1 = t) ∧
    (∀ file cause, (g.run .write t root).2.result = .error (.write file cause) →
      ∃ c before o after, (t.compile g root).result = .ok c ∧ c.files = before ++ o :: after ∧
        o.path = file ∧ Written t (g.run .write t root).1 before) ∧
    ∀ s, (g.run .write t root).2.result = .ok s →
      ∃ c, (t.compile g root).result = .ok c ∧ Written t (g.run .write t root).1 c.files := by
  refine ⟨run_tree, ?_, ?_, fun _ => written_of_run⟩
  · intro e herror he
    cases hc : (t.compile g root).result with
    | error e' => exact (run_of_compile_error hc).1
    | ok c =>
      cases mode with
      | check => exact run_tree (Or.inl rfl)
      | dryRun => exact run_tree (Or.inr rfl)
      | write =>
        -- all that can fail once everything is compiled is a write
        rcases run_write_done hc with ⟨s, hok, -⟩ | ⟨before, o, after, cause, -, hwrite, -⟩
        · rw [hok] at herror
          cases herror
        · rw [hwrite] at herror
          exact absurd (Except.error.inj herror).symm (he o.path cause)
  · intro file cause herror
    cases hc : (t.compile g root).result with
    | error e =>
      rw [(run_of_compile_error hc).2] at herror
      exact absurd (Except.error.inj herror) (FileTree.compile_error_ne_write hc file cause)
    | ok c =>
      rcases run_write_done hc with ⟨s, hok, -⟩ | ⟨before, o, after, cause', hcut, hwrite, hwritten⟩
      · rw [hok] at herror
        cases herror
      · rw [hwrite] at herror
        obtain ⟨hpath, -⟩ := RunError.write.inj (Except.error.inj herror)
        exact ⟨c, before, o, after, rfl, hcut, hpath, hwritten⟩

end Generator

/-- Two annotated source files, and a folder where the companion of the second goes. -/
def FileTree.obstructed : FileTree where
  root :=
    .file "a.rs" "/// i18n(en = \"Hi\")\nstruct A;\n".toUTF8
      (.file "b.rs" "/// i18n(en = \"Ho\")\nstruct B;\n".toUTF8 (.folder "b_i18n.rs" .empty .empty))
  ordered := by
    have hab : ("a.rs" : RawText) < "b.rs" := by decide +kernel
    have hbc : ("b.rs" : RawText) < "b_i18n.rs" := by decide +kernel
    have hnone : ∀ name : RawText, ∀ n ∈ Folder.empty.names, name < n := fun _ _ hn => nomatch hn
    exact ⟨List.forall_mem_cons.2 ⟨hab, List.forall_mem_cons.2 ⟨RawText.lt_trans hab hbc, hnone _⟩⟩,
      List.forall_mem_cons.2 ⟨hbc, hnone _⟩, hnone _, trivial, trivial⟩
  named := ⟨by decide, by decide, by decide, trivial, trivial⟩

/-- The file that could not be written at the end of a run, with the cause. -/
def RunError.unwritten? {α : Type} : Except RunError α → Option (Path × FileError)
  | .error (.write file cause) => some (file, cause)
  | _ => none

theorem RunError.eq_of_unwritten? {α : Type} {x : Except RunError α} {file : Path}
    {cause : FileError} (h : RunError.unwritten? x = some (file, cause)) :
    x = .error (.write file cause) := by
  unfold RunError.unwritten? at h
  split at h
  · obtain ⟨rfl, rfl⟩ := Prod.mk.inj (Option.some.inj h)
    rfl
  · cases h

namespace Generator
open OutputFile

/-- The file that a run in write mode fails to write, and the paths of all its files. -/
def obstruction? (g : Generator) (t : FileTree) (root : Path) :
    Option (Path × FileError) × Option (List Path) :=
  (RunError.unwritten? (g.run .write t root).2.result,
    (t.compile g root).result.toOption.map fun c => c.files.map OutputFile.path)

theorem run_effect_obstructed : ∃ g c before o after, standard = .ok g ∧
    (g.run .write .obstructed ⟨"."⟩).2.result = .error (.write ⟨"./b_i18n.rs"⟩ .isDirectory) ∧
    (FileTree.obstructed.compile g ⟨"."⟩).result = .ok c ∧ c.files = before ++ o :: after ∧
    before.map OutputFile.path = [⟨"./a_i18n.rs"⟩] ∧ o.path = ⟨"./b_i18n.rs"⟩ ∧
    Written .obstructed (g.run .write .obstructed ⟨"."⟩).1 before := by
  obtain ⟨g, hg, hmade⟩ : ∃ g, standard = .ok g ∧ g.obstruction? .obstructed ⟨"."⟩ =
      (some (⟨"./b_i18n.rs"⟩, .isDirectory), some [⟨"./a_i18n.rs"⟩, ⟨"./b_i18n.rs"⟩]) :=
    ⟨compiledStandard, standard_eq, by decide +kernel⟩
  generalize FileTree.obstructed = tree at hmade ⊢
  obtain ⟨hfailure, hpaths⟩ := Prod.mk.inj hmade
  have herror := RunError.eq_of_unwritten? hfailure
  obtain ⟨-, -, hobstructed, -⟩ := run_effect g .write tree ⟨"."⟩
  obtain ⟨c, before, o, after, hc, hcut, hpath, hwritten⟩ := hobstructed _ _ herror
  refine ⟨g, c, before, o, after, hg, herror, hc, hcut, ?_, hpath, hwritten⟩
  rw [hc, Except.toOption, Option.map_some, hcut, List.map_append, List.map_cons, hpath] at hpaths
  have hlist := Option.some.inj hpaths
  rcases hbefore : before.map OutputFile.path with _ | ⟨first, _ | ⟨second, rest⟩⟩
  · simp [hbefore] at hlist
  · rw [hbefore] at hlist
    rw [(List.cons.inj hlist).1]
  · simp [hbefore] at hlist

end Generator
end Companion
