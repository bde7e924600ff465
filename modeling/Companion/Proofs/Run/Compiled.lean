import Mathlib
import Companion.Proofs.Compilation

/-! What the source files of a run compile to. A file's compilation depends on its text alone
(`compileFile_congr`), a generated file's is empty (`compileFile_of_generated`), and all its
artifacts go to its companion (`path_of_mem_compileFile`). So the files that come out of several
sources with different companions are those that come out of each (`files_of_compileFiles`). -/
namespace Companion

namespace FileTree
open Companion.Path

variable {t t' : FileTree} {g : Generator} {file : Path} {c : Compilation}

/-! ### One file -/

/-- Only the text of a file matters to its compilation. -/
theorem compileFile_congr (h : t'.read file = t.read file) :
    t'.compileFile g file = t.compileFile g file := by
  simp only [compileFile, load, readText, h]

theorem readText_of_read {text : String} (h : t.read file = .ok text.toUTF8) :
    t.readText file = .ok text := by
  have hdecode : String.fromUTF8? text.toUTF8 = some text := by
    unfold String.fromUTF8?
    rw [String.toUTF8_eq_toByteArray, dif_pos text.isValidUTF8]
    rfl
  simp only [readText, h, hdecode]

/-- A generated file gives nothing. -/
theorem compileFile_of_generated {text : String} (h : t.read file = .ok text.toUTF8)
    (hgenerated : isGenerated text.toList = true) : (t.compileFile g file).result = .ok .empty := by
  simp [compileFile, load, readText_of_read h, hgenerated, Except.bind]

theorem file_of_load {unit : SourceUnit} (h : (t.load file).result = .ok (some unit)) :
    unit.file = file := by
  obtain ⟨text, -, h⟩ := Logged.result_bind_eq_ok_iff.1 h
  split at h
  · cases h
  · obtain ⟨read, hread, h⟩ := Logged.result_bind_eq_ok_iff.1 h
    obtain rfl := Option.some.inj (Except.ok.inj h)
    cases hunit : SourceUnit.ofText file text with
    | error e => simp [hunit, Except.mapError] at hread
    | ok unit =>
      simp only [Logged.result_ofExcept, hunit, Except.mapError, Except.ok.injEq] at hread
      exact hread ▸ SourceUnit.file_of_ofText hunit

/-- The artifacts of a file are in its own name, and in that of a directive that a family knows. -/
theorem mem_compileFile (h : (t.compileFile g file).result = .ok c) {a : Artifact}
    (ha : a ∈ c.generation.artifacts) :
    a.source = file ∧ '/' ∉ a.directive.toList ∧ ∃ f, g.family? a.directive = some f := by
  obtain ⟨unit, hload, h⟩ := Logged.result_bind_eq_ok_iff.1 h
  cases unit with
  | none =>
    obtain rfl := Except.ok.inj h
    simp [Compilation.empty, Generation.empty] at ha
  | some unit =>
    rw [← file_of_load hload]
    exact Compilation.mem_ofUnit (Logged.result_mapError_eq_ok_iff.1 h) ha

/-- All artifacts of a file go to its companion. -/
theorem path_of_mem_compileFile (hg : Generator.standard = .ok g)
    (h : (t.compileFile g file).result = .ok c) :
    ∀ a ∈ c.generation.artifacts, a.path = file.companion "i18n" := by
  intro a ha
  obtain ⟨hsource, -, f, hf⟩ := mem_compileFile h ha
  obtain ⟨-, hdirective⟩ := Generator.standard_family? hg hf
  rw [Artifact.path, hsource, hdirective]

/-! ### Several files -/

/-- What a source file compiles to, nothing if it does not compile. -/
def compiled (t : FileTree) (g : Generator) (file : Path) : Compilation :=
  .value (t.compileFile g file)

theorem compiled_eq (h : (t.compileFile g file).result = .ok c) : t.compiled g file = c :=
  Compilation.value_eq h

theorem compiled_congr (h : t'.read file = t.read file) :
    t'.compiled g file = t.compiled g file := by
  rw [compiled, compiled, compileFile_congr h]

theorem compileFiles_eq_inTurn (t : FileTree) (g : Generator) (files : List Path) :
    t.compileFiles g files = Compilation.inTurn (t.compileFile g) files := by
  induction files with
  | nil => rfl
  | cons file files ih => rw [compileFiles, Compilation.inTurn, ih]

theorem compileFiles_eq_ok_iff {files : List Path} :
    (t.compileFiles g files).result = .ok c ↔
      (∀ file ∈ files, (t.compileFile g file).result = .ok (t.compiled g file)) ∧
        c = .join (files.map (t.compiled g)) := by
  rw [compileFiles_eq_inTurn]
  exact Compilation.inTurn_eq_ok_iff

/-- All source files below a path are compiled where those that are found there are. -/
theorem compile_eq_ok_iff {root : Path} {files : List Path}
    (h : (t.discover root).result = .ok files) :
    (t.compile g root).result = .ok c ↔ (t.compileFiles g files).result = .ok c := by
  rw [compile, Logged.result_bind, h]
  rfl

/-- The artifacts of several files are in the name of one of them. -/
theorem mem_compileFiles {files : List Path} (h : (t.compileFiles g files).result = .ok c)
    {a : Artifact} (ha : a ∈ c.generation.artifacts) :
    a.source ∈ files ∧ '/' ∉ a.directive.toList := by
  obtain ⟨hfiles, rfl⟩ := compileFiles_eq_ok_iff.1 h
  obtain ⟨c, hc, ha⟩ := Compilation.mem_join_iff.1 ha
  obtain ⟨file, hfile, rfl⟩ := List.mem_map.1 hc
  obtain ⟨hsource, hdirective, -⟩ := mem_compileFile (hfiles file hfile) ha
  exact ⟨hsource ▸ hfile, hdirective⟩

/-- **The files that come out of sources with different companions are those of each**, source by
source. -/
theorem files_of_compileFiles (hg : Generator.standard = .ok g) {files : List Path}
    (hapart : files.Pairwise fun p q => (p.companion "i18n").same (q.companion "i18n") = false)
    (h : (t.compileFiles g files).result = .ok c) :
    c.files = files.flatMap fun file => (t.compiled g file).files := by
  obtain ⟨hfiles, rfl⟩ := compileFiles_eq_ok_iff.1 h
  refine Compilation.files_join (hapart.imp_of_mem ?_)
  intro p q hp hq hne a ha b hb
  rw [path_of_mem_compileFile hg (hfiles p hp) a ha, path_of_mem_compileFile hg (hfiles q hq) b hb]
  exact hne

end FileTree
end Companion
