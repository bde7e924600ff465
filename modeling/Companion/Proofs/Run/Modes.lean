import Mathlib
import Companion.CommandLine
import Companion.Proofs.Run.Effect

/-! The modes of a run agree. Whether a file holds its contents is decided by the tree in front of
the run, in write mode as in check mode. So both fail alike or not at all, and the files that a
check finds out of date are those that writing writes (`run_modes_agree`). -/
namespace Companion

/-- Whether a file holds its contents already. -/
def FileTree.isCurrent (t : FileTree) (o : OutputFile) : Bool :=
  match t.holds o.path o.bytes with
  | .ok held => held
  | .error _ => false

theorem FileTree.isCurrent_iff {t : FileTree} {o : OutputFile} :
    t.isCurrent o = true ↔ t.read o.path = .ok o.bytes := by
  rw [← holds_eq_true_iff, isCurrent]
  rcases t.holds o.path o.bytes with e | held
  · simp
  · simp

namespace OutputFile

/-! ### Verdicts -/

/-- Whether there is a verdict on every file; else the first failure. -/
def decided (t : FileTree) : List OutputFile → Except RunError Unit
  | [] => .ok ()
  | o :: files => (t.holds o.path o.bytes).bind fun _ => decided t files

/-- There is a verdict on files that stand there. -/
theorem decided_of_read {t : FileTree} {files : List OutputFile}
    (h : ∀ o ∈ files, ∃ contents, t.read o.path = .ok contents) : decided t files = .ok () := by
  induction files with
  | nil => rfl
  | cons o files ih =>
    obtain ⟨⟨contents, hread⟩, hfiles⟩ := List.forall_mem_cons.1 h
    simp only [decided, FileTree.holds, hread]
    exact ih hfiles

/-- The verdicts, given that there are verdicts. -/
def verdicts (d : Disposition) (t : FileTree) (files : List OutputFile) :
    List (Path × Disposition) :=
  files.map fun o => (o.path, if t.isCurrent o then .unchanged else d)

/-- What is said of a file that is out of date does not decide whether the verdicts fail. -/
theorem mapM_verdict (d : Disposition) (t : FileTree) (files : List OutputFile) :
    files.mapM (verdict d t) = (decided t files).map fun _ => verdicts d t files := by
  induction files with
  | nil => rfl
  | cons o files ih =>
    have hcons : verdicts d t (o :: files) =
        (o.path, if t.isCurrent o then .unchanged else d) :: verdicts d t files := rfl
    rw [mapM_verdict_cons, ih, decided, hcons, FileTree.isCurrent]
    rcases t.holds o.path o.bytes with e | held
    · rfl
    · rcases decided t files with e | _ <;> rfl

theorem withDisposition_verdicts {d : Disposition} (hd : d ≠ .unchanged) (t : FileTree)
    (files : List OutputFile) :
    Summary.withDisposition d (verdicts d t files) =
      (files.filter fun o => !t.isCurrent o).map path ∧
      Summary.withDisposition .unchanged (verdicts d t files) = (files.filter t.isCurrent).map
        path := by
  induction files with
  | nil => exact ⟨rfl, rfl⟩
  | cons o files ih =>
    obtain ⟨ih₁, ih₂⟩ := ih
    simp only [Summary.withDisposition, verdicts] at ih₁ ih₂ ⊢
    cases hcurrent : t.isCurrent o with
    | true => simp [hcurrent, hd.symm, ih₁, ih₂]
    | false => simp [hcurrent, hd, ih₁, ih₂]

theorem withDisposition_verdicts_other {d other : Disposition} (hne : other ≠ d)
    (hother : other ≠ .unchanged) (t : FileTree) (files : List OutputFile) :
    Summary.withDisposition other (verdicts d t files) = [] := by
  rw [Summary.withDisposition, List.map_eq_nil_iff, List.filter_eq_nil_iff]
  intro s hs
  obtain ⟨o, -, rfl⟩ := List.mem_map.1 hs
  cases t.isCurrent o with
  | true => simpa using hother.symm
  | false => simpa using hne.symm

end OutputFile

namespace Generator
open OutputFile

/-! ### Results of runs -/

variable {g : Generator} {t : FileTree} {root : Path} {c : Compilation}

theorem result_run_write (hc : (t.compile g root).result = .ok c) : (g.run .write t root).2.result =
    (decided t c.files).map fun _ => Summary.of c (verdicts .written t c.files) := by
  rw [(run_of_compile hc).2, result_settleAll_write (apart_compile hc), mapM_verdict]
  rcases decided t c.files with e | _ <;> rfl

/-- A run of which all files stand there writes those that differ. -/
theorem run_write_of_read (hc : (t.compile g root).result = .ok c)
    (h : ∀ o ∈ c.files, ∃ contents, t.read o.path = .ok contents) :
    ∃ s, (g.run .write t root).2.result = .ok s ∧
      s.written = (c.files.filter fun o => !t.isCurrent o).map path := by
  rw [result_run_write hc, decided_of_read h]
  exact ⟨_, rfl, (withDisposition_verdicts (by decide) t c.files).1⟩

theorem result_run_check (hc : (t.compile g root).result = .ok c) : (g.run .check t root).2.result =
    (decided t c.files).map fun _ => Summary.of c (verdicts .stale t c.files) := by
  rw [(run_of_compile hc).2, (settleAll_check t c.files).2, mapM_verdict]
  rcases decided t c.files with e | _ <;> rfl

theorem result_run_dryRun (hc : (t.compile g root).result = .ok c) :
    (g.run .dryRun t root).2.result =
    .ok (Summary.of c (c.files.map fun o => (o.path, .planned))) := by
  rw [(run_of_compile hc).2, (settleAll_dryRun t c.files).2]
  rfl

/-- **The tree in front of a run decides its results in all modes alike.** -/
theorem run_write_cases (g : Generator) (t : FileTree) (root : Path) :
    (∃ e, (g.run .write t root).2.result = .error e ∧ (g.run .check t root).2.result = .error e) ∨
    ∃ c, (t.compile g root).result = .ok c ∧
      (g.run .write t root).2.result = .ok (.of c (verdicts .written t c.files)) ∧
      (g.run .check t root).2.result = .ok (.of c (verdicts .stale t c.files)) := by
  cases hc : (t.compile g root).result with
  | error e => exact Or.inl ⟨e, (run_of_compile_error hc).2, (run_of_compile_error hc).2⟩
  | ok c =>
    rw [result_run_write hc, result_run_check hc]
    cases decided t c.files with
    | error e => exact Or.inl ⟨e, rfl, rfl⟩
    | ok _ => exact Or.inr ⟨c, rfl, rfl, rfl⟩

/-- Writing and planning find no file out of date. -/
theorem stale_eq_nil {mode : Mode} (hmode : mode ≠ .check) {s : Summary}
    (h : (g.run mode t root).2.result = .ok s) : s.stale = [] := by
  cases hc : (t.compile g root).result with
  | error e =>
    rw [(run_of_compile_error hc).2] at h
    cases h
  | ok c =>
    cases mode with
    | check => exact absurd rfl hmode
    | write =>
      rcases run_write_cases g t root with ⟨e, hwrite, -⟩ | ⟨c, -, hwrite, -⟩
      · rw [hwrite] at h
        cases h
      · rw [hwrite] at h
        obtain rfl := Except.ok.inj h
        exact withDisposition_verdicts_other (by decide) (by decide) t c.files
    | dryRun =>
      rw [result_run_dryRun hc] at h
      obtain rfl := Except.ok.inj h
      simp [Summary.of, Summary.withDisposition]

end Generator

/-! ### Exit codes -/

theorem RunError.exitCode_cases (e : RunError) :
    e.exitCode = 1 ∨ e.exitCode = 2 ∨ e.exitCode = 3 := by
  unfold exitCode
  split <;> simp

namespace Invocation

theorem perform_eq (i : Invocation) {g : Generator} (hg : Generator.standard = .ok g)
    (t : FileTree) :
    i.perform t = g.run i.mode t i.root := by
  rw [perform, hg, performWith]

theorem exit_execute (i : Invocation) {g : Generator} (hg : Generator.standard = .ok g)
    (env : Environment) (t : FileTree) :
    (i.execute env t).exit =
      match (g.run i.mode t i.root).2.result with
      | .error e => e.exitCode
      | .ok s => if s.isClean then 0 else staleExit := by
  rw [execute, i.perform_eq hg, conclude]
  rcases (g.run i.mode t i.root).2.result with e | s
  · rfl
  · dsimp only
    split <;> rfl

/-- The program exits with 0 when the run succeeds and finds nothing out of date. -/
theorem exit_eq_zero_iff {i : Invocation} {g : Generator} (hg : Generator.standard = .ok g)
    {env : Environment} {t : FileTree} : (i.execute env t).exit = 0 ↔
      ∃ s, (g.run i.mode t i.root).2.result = .ok s ∧ s.isClean = true := by
  rw [i.exit_execute hg]
  rcases (g.run i.mode t i.root).2.result with e | s
  · rcases e.exitCode_cases with h | h | h <;> simp [h]
  · cases hclean : s.isClean <;> simp [hclean, staleExit]

/-- The program exits with the code for files out of date when the run succeeds and finds some. -/
theorem exit_eq_stale_iff {i : Invocation} {g : Generator} (hg : Generator.standard = .ok g)
    {env : Environment} {t : FileTree} : (i.execute env t).exit = staleExit ↔
      ∃ s, (g.run i.mode t i.root).2.result = .ok s ∧ s.isClean = false := by
  rw [i.exit_execute hg]
  rcases (g.run i.mode t i.root).2.result with e | s
  · rcases e.exitCode_cases with h | h | h <;> simp [h, staleExit]
  · cases hclean : s.isClean <;> simp [hclean, staleExit]

end Invocation

/-- Two runs that have read, found and generated as much, with the same diagnostics. -/
structure Summary.SameWork (s s' : Summary) : Prop where
  units : s.units = s'.units
  types : s.types = s'.types
  artifacts : s.artifacts = s'.artifacts
  diagnostics : s.diagnostics = s'.diagnostics

theorem Summary.sameWork_of (c : Compilation) (settled settled' : List (Path × Disposition)) :
    (Summary.of c settled).SameWork (.of c settled') := ⟨rfl, rfl, rfl, rfl⟩

namespace Generator
open OutputFile

/-- **The modes of a run agree.** When a run in write mode succeeds, so do a check and a plan on the
same tree: the check finds out of date what writing writes, the plan names all files, and of these
the check divides off those that are out of date. A check fails exactly as writing does. So the
program exits with 0 from a check exactly when writing would write nothing, and with 4 from nothing
but a check. -/
theorem run_modes_agree (g : Generator) (t : FileTree) (root : Path) :
    (∀ w, (g.run .write t root).2.result = .ok w → ∃ c check dry,
      (t.compile g root).result = .ok c ∧ (g.run .check t root).2.result = .ok check ∧
      (g.run .dryRun t root).2.result = .ok dry ∧
      check.stale = w.written ∧ check.unchanged = w.unchanged ∧
      dry.planned = c.files.map OutputFile.path ∧
      check.stale = (c.files.filter fun o => !t.isCurrent o).map OutputFile.path ∧
      check.unchanged = (c.files.filter t.isCurrent).map OutputFile.path ∧
      check.SameWork w ∧ dry.SameWork w) ∧
    (∀ e, (g.run .check t root).2.result = .error e ↔ (g.run .write t root).2.result = .error e) ∧
    (standard = .ok g → ∀ env arguments i, CommandLine.read env arguments = .run i → i.root = root →
      i.mode = .check → ((CommandLine.execute env arguments t).exit = 0 ↔
        ∃ w, (g.run .write t root).2.result = .ok w ∧ w.written = [])) ∧
    ∀ env arguments i, CommandLine.read env arguments = .run i → i.mode ≠ .check →
      (CommandLine.execute env arguments t).exit ≠ 4 := by
  have hwritten : ∀ files, Summary.withDisposition .written (verdicts .written t files) =
      Summary.withDisposition .stale (verdicts .stale t files) := by
    intro files
    rw [(withDisposition_verdicts (by decide) t files).1,
      (withDisposition_verdicts (by decide) t files).1]
  refine ⟨?_, ?_, ?_, ?_⟩
  · intro w hw
    rcases run_write_cases g t root with ⟨e, hwrite, -⟩ | ⟨c, hc, hwrite, hcheck⟩
    · rw [hwrite] at hw
      cases hw
    · rw [hwrite] at hw
      obtain rfl := Except.ok.inj hw
      obtain ⟨hstale, hunchanged⟩ := @withDisposition_verdicts .stale (by decide) t c.files
      refine ⟨c, _, _, hc, hcheck, result_run_dryRun hc, (hwritten c.files).symm, ?_, ?_, hstale,
        hunchanged, Summary.sameWork_of .., Summary.sameWork_of ..⟩
      · exact hunchanged.trans (@withDisposition_verdicts .written (by decide) t c.files).2.symm
      · simp [Summary.of, Summary.withDisposition, List.filter_map, Function.comp_def]
  · intro e
    rcases run_write_cases g t root with ⟨e', hwrite, hcheck⟩ | ⟨c, -, hwrite, hcheck⟩
    · rw [hwrite, hcheck]
    · rw [hwrite, hcheck]
      simp
  · intro hg env arguments i hread hroot hmode
    rw [CommandLine.execute, hread]
    show (i.execute env t).exit = 0 ↔ _
    rw [Invocation.exit_eq_zero_iff hg, hmode, hroot]
    rcases run_write_cases g t root with ⟨e, hwrite, hcheck⟩ | ⟨c, -, hwrite, hcheck⟩
    · simp [hwrite, hcheck]
    · rw [hwrite, hcheck]
      simp only [Except.ok.injEq, exists_eq_left', Summary.isClean, List.isEmpty_iff,
        Summary.of, hwritten]
  · intro env arguments i hread hmode hexit
    rw [CommandLine.execute, hread] at hexit
    obtain ⟨s, hs, hclean⟩ := (Invocation.exit_eq_stale_iff standard_eq).1 hexit
    rw [Summary.isClean, stale_eq_nil hmode hs] at hclean
    cases hclean

/-- The files that a run writes, if it succeeds. -/
def written? (g : Generator) (t : FileTree) (root : Path) : Option (List Path) :=
  (g.run .write t root).2.result.toOption.map Summary.written

theorem written?_eq_some_iff {g : Generator} {t : FileTree} {root : Path} {paths : List Path} :
    g.written? t root = some paths ↔ ∃ s, (g.run .write t root).2.result = .ok s ∧
      s.written = paths := by
  rw [written?, Option.map_eq_some_iff]
  simp only [Logged.toOption_result_eq_some_iff]

theorem run_modes_agree_obstructed : ∃ g w check, standard = .ok g ∧
    (g.run .write .obstructed ⟨"a.rs"⟩).2.result = .ok w ∧ w.written = [⟨"a_i18n.rs"⟩] ∧
    (g.run .check .obstructed ⟨"a.rs"⟩).2.result = .ok check ∧ check.stale = [⟨"a_i18n.rs"⟩] ∧
    (g.run .check .obstructed ⟨"."⟩).2.result = .error (.write ⟨"./b_i18n.rs"⟩ .isDirectory) ∧
    (CommandLine.execute ⟨none, none, none⟩ ["--check", "a.rs"] .obstructed).exit ≠ 0 ∧
    (CommandLine.execute ⟨none, none, none⟩ ["a.rs"] .obstructed).exit ≠ 4 := by
  obtain ⟨g, hg, hwrites, hfails⟩ : ∃ g, standard = .ok g ∧
      g.written? .obstructed ⟨"a.rs"⟩ = some [⟨"a_i18n.rs"⟩] ∧
      RunError.unwritten? (g.run .write .obstructed ⟨"."⟩).2.result =
        some (⟨"./b_i18n.rs"⟩, .isDirectory) :=
    ⟨compiledStandard, standard_eq, by decide +kernel, by decide +kernel⟩
  have hcheck : CommandLine.read ⟨none, none, none⟩ ["--check", "a.rs"] =
      .run ⟨⟨"a.rs"⟩, .check, false, 0, .text⟩ := by decide +kernel
  have hwrite : CommandLine.read ⟨none, none, none⟩ ["a.rs"] =
      .run ⟨⟨"a.rs"⟩, .write, false, 0, .text⟩ := by decide +kernel
  generalize FileTree.obstructed = tree at hwrites hfails ⊢
  obtain ⟨w, hw, hwritten⟩ := written?_eq_some_iff.1 hwrites
  obtain ⟨hagree, -, hexit, hother⟩ := run_modes_agree g tree ⟨"a.rs"⟩
  obtain ⟨-, hfail, -⟩ := run_modes_agree g tree ⟨"."⟩
  obtain ⟨c, check, dry, -, hresult, -, hstale, -⟩ := hagree w hw
  refine ⟨g, w, check, hg, hw, hwritten, hresult, hstale.trans hwritten,
    (hfail _).2 (RunError.eq_of_unwritten? hfails), ?_, hother _ _ _ hwrite (by decide)⟩
  intro hzero
  obtain ⟨w', hw', hnone⟩ := (hexit hg _ _ _ hcheck rfl rfl).1 hzero
  rw [hw] at hw'
  rw [← Except.ok.inj hw', hwritten] at hnone
  cases hnone

end Generator
end Companion
