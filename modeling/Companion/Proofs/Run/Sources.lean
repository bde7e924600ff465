import Mathlib
import Companion.Proofs.Run.Idempotence

/-! What a run makes of its own sources. A source is not looked at again before a file is written in
its place, so a source that stands where the companion of another source goes is lost
(`run_write_replaces_source`). `run_write_source` says that nothing else happens to a source. -/
namespace Companion

namespace FileTree

variable {t t' : FileTree} {g : Generator} {p q : Path}

/-- A file that comes out of the source at `q` when it is compiled alone. -/
def Makes (t : FileTree) (g : Generator) (q : Path) (o : OutputFile) : Prop :=
  ∃ unit c, (t.load q).result = .ok (some unit) ∧ (Compilation.ofUnit g unit).result = .ok c ∧
    o ∈ c.files

/-- The file `o` that the run assembles where the source at `p` stands. Something of it is made of
another source `q`, whose companion is to stand there. -/
structure Replacement (t : FileTree) (g : Generator) (root p q : Path) (o : OutputFile) : Prop where
  other : q ≠ p
  source : ∃ o, t.Makes g q o
  companion : p.same (q.companion "i18n") = true
  same : p.same o.path = true
  made : ∃ c, (t.compile g root).result = .ok c ∧ o ∈ c.files

/-- The files of a source are made of its unit. -/
theorem mem_compiled_iff (h : (t.compileFile g q).result = .ok (t.compiled g q)) {o : OutputFile} :
    o ∈ (t.compiled g q).files ↔ t.Makes g q o := by
  constructor
  · intro ho
    obtain ⟨unit, hload, h⟩ := Logged.result_bind_eq_ok_iff.1 h
    cases unit with
    | none =>
      rw [← Except.ok.inj h] at ho
      cases ho
    | some unit => exact ⟨unit, _, hload, Logged.result_mapError_eq_ok_iff.1 h, ho⟩
  · rintro ⟨unit, c, hload, hunit, ho⟩
    have hfile : (t.compileFile g q).result = .ok c :=
      Logged.result_bind_eq_ok_iff.2 ⟨some unit, hload, Logged.result_mapError_eq_ok_iff.2 hunit⟩
    rwa [compiled_eq hfile]

/-- Spellings of the path of a file lead to one file. -/
theorem read_eq_of_same (hp : p.EndsInStep) {contents : ByteArray} (hq : t.read q = .ok contents)
    (h : p.same q = true) : t.read p = .ok contents := by
  obtain ⟨place, hplace, hfile⟩ := read_eq_ok_iff.1 hq
  refine read_eq_ok_iff.2 ⟨place, ?_, hfile⟩
  rw [locate_eq_of_same t hp (endsInStep_of_file hplace hfile) h, hplace]

/-- Whether a unit is loaded from the file. -/
def isLoaded (t : FileTree) (p : Path) : Bool :=
  match (t.load p).result with
  | .ok (some _) => true
  | _ => false

theorem isLoaded_iff : t.isLoaded p = true ↔ ∃ unit, (t.load p).result = .ok (some unit) := by
  unfold isLoaded
  split
  · next unit hload => simp [hload]
  · next hnone => simpa using hnone

end FileTree

namespace OutputFile
open FileTree

/-! ### Sources and the files of a run -/

variable {g : Generator} {t t' : FileTree} {root p : Path} {files : List Path} {c : Compilation}

/-- Every file that is assembled holds something of one of the sources, and stands at its
companion. -/
theorem exists_source (hg : Generator.standard = .ok g)
    (hcompile : (t.compileFiles g files).result = .ok c) {o : OutputFile} (ho : o ∈ c.files) :
    ∃ q ∈ files, o.path = q.companion "i18n" ∧ ∃ o, t.Makes g q o := by
  obtain ⟨hfiles, rfl⟩ := compileFiles_eq_ok_iff.1 hcompile
  obtain ⟨a, ha, hpath⟩ := exists_of_mem_assemble ho
  obtain ⟨c, hc, ha⟩ := Compilation.mem_join_iff.1 ha
  obtain ⟨q, hq, rfl⟩ := List.mem_map.1 hc
  obtain ⟨o', ho', -⟩ := exists_file_of_mem ha
  refine ⟨q, hq, ?_, o', (mem_compiled_iff (hfiles q hq)).1 ho'⟩
  rw [hpath, path_of_mem_compileFile hg (hfiles q hq) a ha]

/-- Where the companion of a source goes that makes a file, a file is assembled. -/
theorem exists_assembled (hg : Generator.standard = .ok g)
    (hcompile : (t.compileFiles g files).result = .ok c) {q : Path} (hq : q ∈ files)
    {o : OutputFile} (ho : t.Makes g q o) :
    ∃ o ∈ c.files, o.path.same (q.companion "i18n") = true := by
  obtain ⟨hfiles, rfl⟩ := compileFiles_eq_ok_iff.1 hcompile
  obtain ⟨a, ha, -⟩ := exists_of_mem_assemble ((mem_compiled_iff (hfiles q hq)).2 ho)
  rw [← path_of_mem_compileFile hg (hfiles q hq) a ha]
  exact exists_file_of_mem (Compilation.mem_join_iff.2 ⟨_, List.mem_map_of_mem hq, ha⟩)

/-- **Where files of a run are written, a source is as before or replaced by one of them.** -/
theorem Written.source_cases (hg : Generator.standard = .ok g)
    (hdiscover : (t.discover root).result = .ok files)
    (hcompile : (t.compileFiles g files).result = .ok c) (hp : p ∈ files) {done : List OutputFile}
    (hdone : done ⊆ c.files) (h : Written t t' done) :
    t'.read p = t.read p ∨ ∃ q ∈ files, ∃ o, t.Replacement g root p q o ∧
      t'.read p = .ok o.bytes := by
  obtain ⟨place, contents, hplace, hfile⟩ := (found_discover hdiscover).file p hp
  rcases h.kind? place with ⟨o, ho, hlocate, hkind⟩ | hkind
  · obtain ⟨q, hq, hpath, hsource⟩ := exists_source hg hcompile (hdone ho)
    have hstands : t.locate (q.companion "i18n") = t.locate p := by rw [← hpath, hlocate, hplace]
    obtain ⟨hne, hsame⟩ := same_of_locate_companion hdiscover hp hq (by decide) hstands
    have hmade : ∃ c, (t.compile g root).result = .ok c ∧ o ∈ c.files :=
      ⟨c, (compile_eq_ok_iff hdiscover).2 hcompile, hdone ho⟩
    refine Or.inr ⟨q, hq, o, ⟨hne, hsource, hsame, hpath ▸ hsame, hmade⟩, ?_⟩
    exact read_eq_ok_iff.2 ⟨place, h.locate hplace, hkind⟩
  · exact Or.inl (read_congr hplace (h.locate hplace) hkind)

/-- Where all files of a run are written, every source with a replacement is replaced. -/
theorem Written.read_replacement (hc : (t.compile g root).result = .ok c) (h : Written t t' c.files)
    (hp : ∃ contents, t.read p = .ok contents) {q : Path} {o : OutputFile}
    (ho : t.Replacement g root p q o) : t'.read p = .ok o.bytes := by
  obtain ⟨c', hc', hmem⟩ := ho.made
  obtain rfl := Except.ok.inj (hc.symm.trans hc')
  obtain ⟨contents, hread⟩ := hp
  obtain ⟨place, hplace, hfile⟩ := read_eq_ok_iff.1 hread
  exact read_eq_of_same (endsInStep_of_file hplace hfile) (h.read o hmem) ho.same

/-- A source that stands where the companion of a source goes that makes a file has a
replacement. -/
theorem exists_replacement (hg : Generator.standard = .ok g)
    (hdiscover : (t.discover root).result = .ok files)
    (hcompile : (t.compileFiles g files).result = .ok c) (hp : p ∈ files) {q : Path}
    (hq : q ∈ files) {o : OutputFile} (ho : t.Makes g q o)
    (hsame : p.same (q.companion "i18n") = true) : ∃ o, t.Replacement g root p q o := by
  have hne : q ≠ p := by
    rintro rfl
    obtain ⟨place, contents, hplace, hfile⟩ := (found_discover hdiscover).file q hq
    obtain ⟨-, name, -, hname, -⟩ := leads_withFileName hplace hfile
    rw [Path.same_companion_self hname (by decide)] at hsame
    cases hsame
  obtain ⟨o', ho', hpath⟩ := exists_assembled hg hcompile hq ho
  refine ⟨o', hne, ⟨o, ho⟩, hsame, ?_, c, (compile_eq_ok_iff hdiscover).2 hcompile, ho'⟩
  rw [Path.same_congr hsame, Path.same_comm, hpath]

/-- If the names of the sources are told apart, a replacement comes out of its source alone. -/
theorem makes_of_replacement (hg : Generator.standard = .ok g)
    (hdiscover : (t.discover root).result = .ok files) (htold : Path.ToldApart files) {q : Path}
    (hq : q ∈ files) {o : OutputFile} (h : t.Replacement g root p q o) : t.Makes g q o := by
  obtain ⟨c, hc, ho⟩ := h.made
  have hcompile := (compile_eq_ok_iff hdiscover).1 hc
  obtain ⟨hfiles, -⟩ := compileFiles_eq_ok_iff.1 hcompile
  rw [files_of_compileFiles hg (companions_of_discover hdiscover htold (by decide)) hcompile] at ho
  obtain ⟨q', hq', ho⟩ := List.mem_flatMap.1 ho
  obtain ⟨a, ha, hpath⟩ := exists_of_mem_assemble ho
  have hsame : (q'.companion "i18n").same (q.companion "i18n") = true := by
    rw [← path_of_mem_compileFile hg (hfiles q' hq') a ha, ← hpath, ← Path.same_congr h.same,
      h.companion]
  obtain rfl : q' = q := by
    by_contra hne
    rw [same_companion_of_discover hdiscover htold (by decide) hq' hq hne] at hsame
    cases hsame
  exact (mem_compiled_iff (hfiles q' hq')).1 ho

end OutputFile

namespace Generator
open OutputFile FileTree

/-! ### Sources and runs -/

/-- **What a run writes is not as before.** -/
theorem read_ne_of_written {g : Generator} {t : FileTree} {root p : Path} {w : Summary}
    (hw : (g.run .write t root).2.result = .ok w) (hp : p ∈ w.written) :
    (g.run .write t root).1.read p ≠ t.read p := by
  obtain ⟨c, hc, hwritten⟩ := written_of_run hw
  rcases run_write_cases g t root with ⟨e, herror, -⟩ | ⟨c', hc', hok, -⟩
  · rw [herror] at hw
    cases hw
  · obtain rfl := Except.ok.inj (hc.symm.trans hc')
    obtain rfl := Except.ok.inj (hok.symm.trans hw)
    rw [Summary.of, (@withDisposition_verdicts .written (by decide) t c.files).1] at hp
    obtain ⟨o, ho, rfl⟩ := List.mem_map.1 hp
    obtain ⟨ho, hstale⟩ := List.mem_filter.1 ho
    rw [hwritten.read o ho]
    intro heq
    simp [isCurrent_iff.2 heq.symm] at hstale

/-- The second file is loaded, and lost. -/
theorem lost_handWritten : ∃ g, standard = .ok g ∧ handWritten.isLoaded ⟨"./a_i18n.rs"⟩ = true ∧
    (g.run .write handWritten ⟨"."⟩).1.read ⟨"./a_i18n.rs"⟩ ≠ handWritten.read ⟨"./a_i18n.rs"⟩ := by
  obtain ⟨g, hg, hwrites⟩ : ∃ g, standard = .ok g ∧
      g.written? handWritten ⟨"."⟩ = some [⟨"./a_i18n.rs"⟩, ⟨"./a_i18n_i18n.rs"⟩] :=
    ⟨compiledStandard, standard_eq, by decide +kernel⟩
  have hloaded : handWritten.isLoaded ⟨"./a_i18n.rs"⟩ = true := by decide +kernel
  obtain ⟨w, hw, hwritten⟩ := written?_eq_some_iff.1 hwrites
  refine ⟨g, hg, hloaded, read_ne_of_written hw ?_⟩
  rw [hwritten]
  exact List.mem_cons_self

/-- **What a run makes of its sources.** In write mode a source file is as before the run, or has
become the file that the run assembles at its path for the companion of another source. When the run
succeeds, every source has that stands where the companion of another goes, if anything comes out of
the other. If the names of the sources are told apart, what replaces a source comes out of the other
alone. -/
theorem run_write_source {g : Generator} {t : FileTree} {root p : Path} {files : List Path}
    (hg : standard = .ok g) (hdiscover : (t.discover root).result = .ok files)
    (hp : p ∈ files) :
    ((g.run .write t root).1.read p = t.read p ∨
      ∃ q ∈ files, ∃ o, t.Replacement g root p q o ∧ (g.run .write t root).1.read p = .ok o.bytes) ∧
    (∀ s, (g.run .write t root).2.result = .ok s →
      (∀ q ∈ files, ∀ o, t.Replacement g root p q o →
        (g.run .write t root).1.read p = .ok o.bytes) ∧
      ∀ q ∈ files, ∀ o, t.Makes g q o → p.same (q.companion "i18n") = true →
        ∃ o, t.Replacement g root p q o) ∧
    (Path.ToldApart files → ∀ q ∈ files, ∀ o, t.Replacement g root p q o → t.Makes g q o) := by
  refine ⟨?_, ?_, fun htold q hq o => makes_of_replacement hg hdiscover htold hq⟩
  · cases hc : (t.compile g root).result with
    | error e => exact Or.inl (by rw [(run_of_compile_error hc).1])
    | ok c =>
      have hcompile := (compile_eq_ok_iff hdiscover).1 hc
      rcases run_write_done hc with ⟨s, -, hwritten⟩ | ⟨before, o, after, cause, hcut, -, hwritten⟩
      · exact hwritten.source_cases hg hdiscover hcompile hp (List.Subset.refl _)
      · have hbefore : before ⊆ c.files := by
          rw [hcut]
          exact List.subset_append_left before _
        exact hwritten.source_cases hg hdiscover hcompile hp hbefore
  · intro s hs
    obtain ⟨c, hc, hwritten⟩ := written_of_run hs
    have hcompile := (compile_eq_ok_iff hdiscover).1 hc
    obtain ⟨place, contents, hplace, hfile⟩ := (found_discover hdiscover).file p hp
    have hread : t.read p = .ok contents := read_eq_ok_iff.2 ⟨place, hplace, hfile⟩
    refine ⟨fun q _ o ho => hwritten.read_replacement hc ⟨contents, hread⟩ ho, ?_⟩
    exact fun q hq o ho hsame => exists_replacement hg hdiscover hcompile hp hq ho hsame

theorem run_write_source_handWritten : ∃ g o, standard = .ok g ∧
    (handWritten.discover ⟨"."⟩).result = .ok [⟨"./a.rs"⟩, ⟨"./a_i18n.rs"⟩] ∧
    handWritten.Replacement g ⟨"."⟩ ⟨"./a_i18n.rs"⟩ ⟨"./a.rs"⟩ o ∧
    handWritten.Makes g ⟨"./a.rs"⟩ o ∧
    (g.run .write handWritten ⟨"."⟩).1.read ⟨"./a_i18n.rs"⟩ = .ok o.bytes ∧
    (g.run .write handWritten ⟨"."⟩).1.read ⟨"./a.rs"⟩ = handWritten.read ⟨"./a.rs"⟩ := by
  obtain ⟨g, hg, -, hlost⟩ := lost_handWritten
  have hfiles := discover_handWritten
  have htold : Path.ToldApart [⟨"./a.rs"⟩, ⟨"./a_i18n.rs"⟩] :=
    Path.toldApart_of_isText (by decide +kernel)
  generalize handWritten = t at hlost hfiles ⊢
  obtain ⟨hkept | ⟨q, hq, o, hreplaced, hread⟩, -, halone⟩ :=
    run_write_source hg hfiles (p := ⟨"./a_i18n.rs"⟩) (by simp)
  · exact absurd hkept hlost
  obtain ⟨hkept | ⟨q', hq', o', hreplaced', -⟩, -⟩ :=
    run_write_source hg hfiles (p := ⟨"./a.rs"⟩) (by simp)
  · obtain rfl : q = ⟨"./a.rs"⟩ := by
      rcases List.mem_pair.1 hq with hq | hq
      · exact hq
      · exact absurd hq hreplaced.other
    exact ⟨g, o, hg, hfiles, hreplaced, halone htold _ hq o hreplaced, hread, hkept⟩
  · -- no companion of the two files is called as the first
    have hsame := hreplaced'.companion
    rcases List.mem_pair.1 hq' with rfl | rfl
    · exact absurd hsame (by decide +kernel)
    · exact absurd hsame (by decide +kernel)

/-- **A run can lose a source.** In write mode the file that was loaded as a source is replaced by
the companion of another. -/
theorem run_write_replaces_source : ∃ g files unit, standard = .ok g ∧
    (handWritten.discover ⟨"."⟩).result = .ok files ∧ ⟨"./a_i18n.rs"⟩ ∈ files ∧
    (handWritten.load ⟨"./a_i18n.rs"⟩).result = .ok (some unit) ∧
    (g.run .write handWritten ⟨"."⟩).1.read ⟨"./a_i18n.rs"⟩ ≠ handWritten.read ⟨"./a_i18n.rs"⟩ := by
  obtain ⟨g, hg, hloaded, hlost⟩ := lost_handWritten
  obtain ⟨unit, hload⟩ := isLoaded_iff.1 hloaded
  exact ⟨g, _, unit, hg, discover_handWritten, by simp, hload, hlost⟩

end Generator
end Companion
