import Mathlib
import Companion.Proofs.Run.Modes

/-! Running twice. After a run that wrote its files, a source file is either one of those files, and
then known as generated, or as it was (`Written.rediscover`). So the second run compiles some of the
same sources to the same files, which hold their contents already: it writes nothing, and a check
finds nothing out of date. -/
namespace Companion

namespace OutputFile

/-! ### The tree after a run -/

variable {t t' : FileTree} {files : List Path}

theorem Written.locate {files : List OutputFile} (h : Written t t' files) {p : Path}
    {place : List RawText} (hp : t.locate p = .ok place) : t'.locate p = .ok place := by
  have hne := FileTree.nonempty_of_locate hp
  rw [FileTree.locate_eq_follow hne] at hp ⊢
  exact Folder.follow_of_folders h.folders hp

/-- A place holds one of the files, or what it held. -/
theorem Written.kind? {files : List OutputFile} (h : Written t t' files) (place : List RawText) :
    (∃ o ∈ files, t.locate o.path = .ok place ∧ t'.root.kind? place = some (some o.bytes)) ∨
      t'.root.kind? place = t.root.kind? place := by
  by_cases hplace : ∃ o ∈ files, t.locate o.path = .ok place
  · obtain ⟨o, ho, hlocate⟩ := hplace
    obtain ⟨place', hlocate', hkind⟩ := FileTree.read_eq_ok_iff.1 (h.read o ho)
    rw [h.locate hlocate] at hlocate'
    obtain rfl := Except.ok.inj hlocate'
    exact Or.inl ⟨o, ho, hlocate, hkind⟩
  · exact Or.inr (h.elsewhere place fun o ho heq => hplace ⟨o, ho, heq⟩)

/-- A file that stands where no file of the run goes is as it was. -/
theorem Written.read_elsewhere {outs : List OutputFile} (h : Written t t' outs) {p : Path}
    {place : List RawText} (hp : t.locate p = .ok place)
    (hother : ∀ o ∈ outs, t.locate o.path ≠ .ok place) : t'.read p = t.read p :=
  FileTree.read_congr hp (h.locate hp) (h.elsewhere place hother)

/-- What stands at a place is one of the files, or stood there before. -/
theorem Written.read_cases {outs : List OutputFile} (h : Written t t' outs) {p : Path}
    {place : List RawText} (hp : t'.locate p = .ok place) {contents : ByteArray}
    (hfile : t'.root.kind? place = some (some contents)) :
    (∃ o ∈ outs, t'.read p = .ok o.bytes) ∨
      t'.read p = .ok contents ∧ t.root.kind? place = some (some contents) := by
  have hread : t'.read p = .ok contents := FileTree.read_eq_ok_iff.2 ⟨place, hp, hfile⟩
  rcases h.kind? place with ⟨o, ho, -, hkind⟩ | hkind
  · rw [hfile] at hkind
    obtain rfl := Option.some.inj (Option.some.inj hkind)
    exact Or.inl ⟨o, ho, hread⟩
  · exact Or.inr ⟨hread, hkind ▸ hfile⟩

/-- **The source files after a run are files of the run, or were source files and are as they
were.** -/
theorem Written.rediscover {outs : List OutputFile} (h : Written t t' outs) {root : Path}
    (hdiscover : (t.discover root).result = .ok files) :
    ∃ files', (t'.discover root).result = .ok files' ∧
      ∀ p ∈ files', (∃ o ∈ outs, t'.read p = .ok o.bytes) ∨ p ∈ files ∧ t'.read p = t.read p := by
  obtain ⟨base, hroot, ⟨⟨contents, hfile⟩, rfl⟩ | ⟨f, hf, rfl⟩⟩ :=
    FileTree.discover_eq_ok_iff.1 hdiscover
  · -- the root is a file, and still is one
    have hfile' : ∃ contents', t'.root.kind? base = some (some contents') := by
      rcases h.kind? base with ⟨o, -, -, hkind⟩ | hkind
      · exact ⟨o.bytes, hkind⟩
      · exact ⟨contents, hkind.trans hfile⟩
    refine ⟨[root], FileTree.discover_eq_ok_iff.2 ⟨base, h.locate hroot, Or.inl ⟨hfile', rfl⟩⟩, ?_⟩
    intro p hp
    obtain rfl := List.mem_singleton.1 hp
    obtain ⟨contents', hfile'⟩ := hfile'
    rcases h.read_cases (h.locate hroot) hfile' with hout | ⟨hread, hkind⟩
    · exact Or.inl hout
    · exact Or.inr ⟨hp, by rw [hread, FileTree.read_eq_ok_iff.2 ⟨base, hroot, hkind⟩]⟩
  · obtain ⟨f', hf'⟩ :=
      Folder.kind?_eq_folder_iff.1 (h.folders base (Folder.kind?_eq_folder_iff.2 ⟨f, hf⟩))
    refine ⟨_, FileTree.discover_eq_ok_iff.2 ⟨base, h.locate hroot, Or.inr ⟨f', hf', rfl⟩⟩, ?_⟩
    intro p hp
    obtain ⟨place, hplace, rfl⟩ := List.mem_map.1 hp
    obtain ⟨hsource, contents, hfile⟩ := (FileTree.mem_sources_of_at? hf').1 hplace
    rcases h.read_cases (FileTree.locate_below (h.locate hroot) hfile) hfile with
      hout | ⟨hread, hkind⟩
    · exact Or.inl hout
    · have hmem : place ∈ f.sources := (FileTree.mem_sources_of_at? hf).2 ⟨hsource, contents, hkind⟩
      refine Or.inr ⟨List.mem_map_of_mem hmem, ?_⟩
      rw [hread, FileTree.read_eq_ok_iff.2 ⟨_, FileTree.locate_below hroot hkind, hkind⟩]

end OutputFile

namespace FileTree
open Companion.Path

/-! ### The second compilation -/

variable {t t' : FileTree} {g : Generator} {c : Compilation} {root : Path} {files : List Path}

/-- **After a run everything compiles again.** A source file gives what it gave before, or is a file
of the run and gives nothing. -/
theorem compile_again (hdiscover : (t.discover root).result = .ok files)
    (hcompile : (t.compileFiles g files).result = .ok c) (h : OutputFile.Written t t' c.files) :
    ∃ files', (t'.discover root).result = .ok files' ∧
      (t'.compile g root).result = .ok (.join (files'.map (t'.compiled g))) ∧
      ∀ p ∈ files', t'.compiled g p = .empty ∨ p ∈ files ∧ t'.compiled g p = t.compiled g p := by
  obtain ⟨files', hdiscover', hcases⟩ := h.rediscover hdiscover
  obtain ⟨hfiles, -⟩ := compileFiles_eq_ok_iff.1 hcompile
  have hagain : ∀ p ∈ files', (t'.compileFile g p).result = .ok .empty ∨
      p ∈ files ∧ (t'.compileFile g p).result = .ok (t.compiled g p) := by
    intro p hp
    rcases hcases p hp with ⟨o, ho, hread⟩ | ⟨hmem, hread⟩
    · exact Or.inl (compileFile_of_generated hread (OutputFile.isGenerated_contents ho))
    · rw [compileFile_congr hread]
      exact Or.inr ⟨hmem, hfiles p hmem⟩
  refine ⟨files', hdiscover', (compile_eq_ok_iff hdiscover').2 ?_, ?_⟩
  · refine compileFiles_eq_ok_iff.2 ⟨?_, rfl⟩
    intro p hp
    rcases hagain p hp with hnone | ⟨-, hsame⟩
    · rw [compiled_eq hnone, hnone]
    · rw [compiled_eq hsame, hsame]
  · intro p hp
    exact (hagain p hp).imp compiled_eq fun hsame => ⟨hsame.1, compiled_eq hsame.2⟩

/-- If the sources have different companions, all files that come out hold their contents. -/
theorem compile_of_written (hg : Generator.standard = .ok g)
    (hdiscover : (t.discover root).result = .ok files) (htold : ToldApart files)
    (hcompile : (t.compileFiles g files).result = .ok c) (h : OutputFile.Written t t' c.files) :
    ∃ c', (t'.compile g root).result = .ok c' ∧ ∀ o ∈ c'.files, t'.read o.path = .ok o.bytes := by
  obtain ⟨files', hdiscover', hcompile', hagain⟩ := compile_again hdiscover hcompile h
  obtain ⟨hfiles, -⟩ := compileFiles_eq_ok_iff.1 hcompile
  -- files of the run may have the companions of other sources, but nothing comes out of them
  have hsource : ∀ p ∈ files', ∀ a ∈ (t'.compiled g p).generation.artifacts,
      p ∈ files ∧ a.path = p.companion "i18n" := by
    intro p hp a ha
    rcases hagain p hp with hnone | ⟨hmem, hsame⟩
    · rw [hnone] at ha
      cases ha
    · rw [hsame] at ha
      exact ⟨hmem, path_of_mem_compileFile hg (hfiles p hmem) a ha⟩
  have hout' : (Compilation.join (files'.map (t'.compiled g))).files =
      files'.flatMap fun p => (t'.compiled g p).files := by
    refine Compilation.files_join ((nodup_of_discover hdiscover').imp_of_mem ?_)
    intro p q hp hq hne a ha b hb
    obtain ⟨hmem, hpath⟩ := hsource p hp a ha
    obtain ⟨hmem', hpath'⟩ := hsource q hq b hb
    rw [hpath, hpath']
    exact same_companion_of_discover hdiscover htold (by decide) hmem hmem' hne
  refine ⟨_, hcompile', ?_⟩
  rw [hout']
  intro o ho
  obtain ⟨p, hp, ho⟩ := List.mem_flatMap.1 ho
  rcases hagain p hp with hnone | ⟨hmem, hsame⟩
  · rw [hnone] at ho
    cases ho
  · rw [hsame] at ho
    refine h.read o ?_
    rw [files_of_compileFiles hg (companions_of_discover hdiscover htold (by decide)) hcompile]
    exact List.mem_flatMap.2 ⟨p, hmem, ho⟩

end FileTree

namespace Generator

/-! ### The second run -/

/-- After a run that wrote its files, nothing is left to do. -/
theorem run_of_written {g : Generator} {mode : Mode} (hmode : mode = .write ∨ mode = .check)
    {t : FileTree} {root : Path} {c : Compilation} (hc : (t.compile g root).result = .ok c)
    (h : ∀ o ∈ c.files, t.read o.path = .ok o.bytes) :
    ∃ log s, g.run mode t root = (t, log) ∧ log.result = .ok s ∧ s.written = [] ∧ s.stale = [] := by
  obtain ⟨log, hsettle, hlog⟩ := OutputFile.settleAll_of_read hmode h
  obtain ⟨log', hrun, hlog'⟩ := run_eq_ok_iff.2 ⟨c, _, log, hc, hsettle, hlog, rfl⟩
  refine ⟨log', _, hrun, hlog', ?_, ?_⟩
  · simp [Summary.of, Summary.withDisposition]
  · simp [Summary.of, Summary.withDisposition]

end Generator

namespace Invocation

/-- A run that ends with nothing out of date exits with 0. -/
theorem exit_of_clean {i : Invocation} {g : Generator} (hg : Generator.standard = .ok g)
    {t t' : FileTree} {log : Logged RunError Summary} {s : Summary}
    (hrun : g.run i.mode t i.root = (t', log)) (hlog : log.result = .ok s) (hs : s.isClean = true)
    (env : Environment) : (i.execute env t).exit = 0 := by
  refine (exit_eq_zero_iff hg).2 ⟨s, ?_, hs⟩
  rw [hrun, hlog]

end Invocation

namespace Generator

/-- **A run that succeeds leaves nothing to do for the next**, if the names of its sources are told
apart when they are decoded. On the tree it leaves, a second run succeeds, writes no file and
changes nothing, and a check succeeds and finds nothing out of date, so that the program exits with
0. The files of the first run are source files of the second, and may have replaced source files of
the first. -/
theorem run_write_settles {g : Generator} {t t' : FileTree} {root : Path}
    {log : Logged RunError Summary} {s : Summary} {files : List Path} (hg : standard = .ok g)
    (hdiscover : (t.discover root).result = .ok files) (htold : Path.ToldApart files)
    (hrun : g.run .write t root = (t', log)) (hs : log.result = .ok s) :
    (∃ log' s', g.run .write t' root = (t', log') ∧ log'.result = .ok s' ∧ s'.written = []) ∧
    (∃ log' s', g.run .check t' root = (t', log') ∧ log'.result = .ok s' ∧ s'.isClean = true) ∧
    ∀ env arguments i, CommandLine.read env arguments = .run i → i.root = root → i.mode = .check →
      (CommandLine.execute env arguments t').exit = 0 := by
  obtain ⟨c, settled, settling, hc, hsettle, hsettled, -⟩ := run_eq_ok_iff.1 ⟨log, hrun, hs⟩
  have hcompile := (FileTree.compile_eq_ok_iff hdiscover).1 hc
  have hwritten := OutputFile.settleAll_write (OutputFile.apart_compile hc) hsettle hsettled
  obtain ⟨c', hc', hread⟩ := FileTree.compile_of_written hg hdiscover htold hcompile hwritten
  obtain ⟨log₁, s₁, hrun₁, hs₁, hnone, -⟩ := run_of_written (Or.inl rfl) hc' hread
  obtain ⟨log₂, s₂, hrun₂, hs₂, -, hstale⟩ := run_of_written (Or.inr rfl) hc' hread
  have hclean : s₂.isClean = true := by simp [Summary.isClean, hstale]
  refine ⟨⟨log₁, s₁, hrun₁, hs₁, hnone⟩, ⟨log₂, s₂, hrun₂, hs₂, hclean⟩, ?_⟩
  intro env arguments i hread hroot hmode
  rw [CommandLine.execute, hread]
  have hrun : g.run i.mode t' i.root = (t', log₂) := by rw [hmode, hroot, hrun₂]
  exact Invocation.exit_of_clean hg hrun hs₂ hclean env

end Generator

/-- Two annotated source files, of which one stands where the companion of the other goes. -/
def FileTree.handWritten : FileTree where
  root :=
    .file "a.rs" "/// i18n(en = \"Hi\")\nstruct A;\n".toUTF8
      (.file "a_i18n.rs" "/// i18n(en = \"Hi\")\nstruct A;\n".toUTF8 .empty)
  ordered := by
    have hlt : ("a.rs" : RawText) < "a_i18n.rs" := by decide +kernel
    exact ⟨by simpa [Folder.names] using hlt, by simp [Folder.names], trivial⟩
  named := ⟨by decide, by decide, trivial⟩

theorem FileTree.discover_handWritten :
    (handWritten.discover ⟨"."⟩).result = .ok [⟨"./a.rs"⟩, ⟨"./a_i18n.rs"⟩] := by
  refine Logged.toOption_result_eq_some_iff.1 ?_
  decide +kernel

namespace Generator

theorem run_write_settles_replacing : ∃ g t' log s, standard = .ok g ∧
    g.run .write .handWritten ⟨"."⟩ = (t', log) ∧ log.result = .ok s ∧
    s.written = [⟨"./a_i18n.rs"⟩, ⟨"./a_i18n_i18n.rs"⟩] ∧
    Path.ToldApart [⟨"./a.rs"⟩, ⟨"./a_i18n.rs"⟩] ∧
    (∃ log' s', g.run .write t' ⟨"."⟩ = (t', log') ∧ log'.result = .ok s' ∧ s'.written = []) ∧
    (∃ log' s', g.run .check t' ⟨"."⟩ = (t', log') ∧ log'.result = .ok s' ∧ s'.isClean = true) ∧
    (CommandLine.execute ⟨none, none, none⟩ ["--check"] t').exit = 0 := by
  obtain ⟨g, hg, hwrites⟩ : ∃ g, standard = .ok g ∧
      g.written? .handWritten ⟨"."⟩ = some [⟨"./a_i18n.rs"⟩, ⟨"./a_i18n_i18n.rs"⟩] :=
    ⟨compiledStandard, standard_eq, by decide +kernel⟩
  have hread : CommandLine.read ⟨none, none, none⟩ ["--check"] =
      .run ⟨⟨"."⟩, .check, false, 0, .text⟩ := by decide +kernel
  have hdiscover := FileTree.discover_handWritten
  have htold : Path.ToldApart [⟨"./a.rs"⟩, ⟨"./a_i18n.rs"⟩] :=
    Path.toldApart_of_isText (by decide +kernel)
  generalize FileTree.handWritten = tree at hwrites hdiscover ⊢
  obtain ⟨s, hs, hwritten⟩ := written?_eq_some_iff.1 hwrites
  generalize hrun : g.run .write tree ⟨"."⟩ = outcome at hs
  obtain ⟨t', log⟩ := outcome
  obtain ⟨hagain, hcheck, hexit⟩ := run_write_settles hg hdiscover htold hrun hs
  exact ⟨g, t', log, s, hg, hrun, hs, hwritten, htold, hagain, hcheck, hexit _ _ _ hread rfl rfl⟩

end Generator

namespace FileTree

/-- What source files give after a run that wrote the files `outs`. -/
def givenAfter (t : FileTree) (g : Generator) (outs files : List Path) : Compilation :=
  .join (files.map fun p => if p ∈ outs then .empty else t.compiled g p)

/-- After a run, source files that it did not write give what they gave, and the others nothing. -/
theorem compile_after {t t' : FileTree} {g : Generator} {c : Compilation} {root : Path}
    {files : List Path} (hc : (t.compile g root).result = .ok c)
    (h : OutputFile.Written t t' c.files) (hdiscover : (t'.discover root).result = .ok files)
    (hleft : ∀ p ∈ files, p ∈ c.files.map OutputFile.path ∨
      ∃ place, t.locate p = .ok place ∧ ∀ o ∈ c.files, t.locate o.path ≠ .ok place) :
    (t'.compile g root).result = .ok (t.givenAfter g (c.files.map OutputFile.path) files) := by
  obtain ⟨before, hbefore, hcompile⟩ := Logged.result_bind_eq_ok_iff.1 hc
  obtain ⟨files', hdiscover', hagain, -⟩ := compile_again hbefore hcompile h
  obtain rfl := Except.ok.inj (hdiscover.symm.trans hdiscover')
  rw [hagain, givenAfter]
  congr 2
  refine List.map_congr_left fun p hp => ?_
  split
  · next hout =>
    obtain ⟨o, ho, rfl⟩ := List.mem_map.1 hout
    exact compiled_eq (compileFile_of_generated (h.read o ho) (OutputFile.isGenerated_contents ho))
  · next hout =>
    rcases hleft p hp with hmem | ⟨place, hplace, hother⟩
    · exact absurd hmem hout
    · exact compiled_congr (h.read_elsewhere hplace hother)

end FileTree

namespace OutputFile

/-- Whether one of the later files has other contents than the file at its path. -/
def changed (files later : List OutputFile) : Bool :=
  later.any fun o' => files.any fun o => o.path = o'.path && o.contents ≠ o'.contents

theorem changed_iff {files later : List OutputFile} : changed files later = true ↔
    ∃ o' ∈ later, ∃ o ∈ files, o.path = o'.path ∧ o.contents ≠ o'.contents := by
  simp [changed]

end OutputFile

namespace Generator
open OutputFile

/-- **Where one of its files comes out changed, the second run writes it.** -/
theorem run_write_of_changed {g : Generator} {t t' : FileTree} {root : Path} {c c' : Compilation}
    (h : Written t t' c.files) (hc' : (t'.compile g root).result = .ok c')
    (hpaths : c'.files.map path ⊆ c.files.map path) (hchanged : changed c.files c'.files = true) :
    ∃ s, (g.run .write t' root).2.result = .ok s ∧ s.written ≠ [] := by
  have hread : ∀ o ∈ c'.files, ∃ contents, t'.read o.path = .ok contents := by
    intro o ho
    obtain ⟨o', ho', hpath⟩ := List.mem_map.1 (hpaths (List.mem_map_of_mem ho))
    exact ⟨_, hpath ▸ h.read o' ho'⟩
  obtain ⟨s, hs, hwritten⟩ := run_write_of_read hc' hread
  obtain ⟨o', ho', o, ho, hpath, hne⟩ := changed_iff.1 hchanged
  have hstale : t'.isCurrent o' = false := by
    refine Bool.eq_false_iff.2 fun hcurrent => hne ?_
    have hsame := FileTree.isCurrent_iff.1 hcurrent
    rw [← hpath, h.read o ho] at hsame
    exact String.toByteArray_inj.1 (Except.ok.inj hsame)
  refine ⟨s, hs, ?_⟩
  rw [hwritten]
  exact List.ne_nil_of_mem (List.mem_map_of_mem (List.mem_filter.2 ⟨ho', by simp [hstale]⟩))

end Generator

/-- Three annotated source files. The second stands where the companion of the first goes, and the
name of the third decodes to its name. -/
def FileTree.undecoded : FileTree where
  root :=
    .file "x\ufffd.rs" "/// i18n(en = \"A\")\nstruct A;\n".toUTF8
      (.file "x\ufffd_i18n.rs" "/// i18n(en = \"B\")\nstruct B;\n".toUTF8
        (.file ("x" ++ .ofList [0xff] ++ "_i18n.rs") "/// i18n(en = \"C\")\nstruct C;\n".toUTF8
          .empty))
  ordered := by
    have hab : ("x\ufffd.rs" : RawText) < "x\ufffd_i18n.rs" := by decide +kernel
    have hbc : ("x\ufffd_i18n.rs" : RawText) < "x" ++ .ofList [0xff] ++ "_i18n.rs" := by
      decide +kernel
    have hnone : ∀ name : RawText, ∀ n ∈ Folder.empty.names, name < n := fun _ _ hn => nomatch hn
    exact ⟨List.forall_mem_cons.2 ⟨hab, List.forall_mem_cons.2 ⟨RawText.lt_trans hab hbc, hnone _⟩⟩,
      List.forall_mem_cons.2 ⟨hbc, hnone _⟩, hnone _, trivial⟩
  named := ⟨by decide, by decide, by decide, trivial⟩

namespace Generator
open OutputFile FileTree

/-- Two sources have one companion, of which the first run makes one file and then loses one
source. -/
theorem loses_undecoded : ∃ g outs files, standard = .ok g ∧
    g.written? undecoded ⟨"."⟩ = some outs ∧
    ((g.run .write undecoded ⟨"."⟩).1.discover ⟨"."⟩).result.toOption = some files ∧
    ((undecoded.compile g ⟨"."⟩).result.toOption.map fun c =>
      (c.files.map path, changed c.files (undecoded.givenAfter g outs files).files)) =
        some (outs, true) ∧
    (undecoded.givenAfter g outs files).files.map path = outs ∧
    ∀ p ∈ files, p ∈ outs ∨ ∃ place, undecoded.locate p = .ok place ∧
      ∀ q ∈ outs, undecoded.locate q ≠ .ok place := by
  refine ⟨compiledStandard, [⟨"./x\ufffd_i18n.rs"⟩, ⟨"./x\ufffd_i18n_i18n.rs"⟩],
    [⟨"./x\ufffd.rs"⟩, ⟨"./x\ufffd_i18n.rs"⟩, ⟨"./x\ufffd_i18n_i18n.rs"⟩,
      ⟨"./x" ++ .ofList [0xff] ++ "_i18n.rs"⟩], standard_eq, ?_⟩
  simp only [← and_assoc]
  refine ⟨by decide +kernel, ?_⟩
  simp only [List.forall_mem_cons]
  refine ⟨Or.inr ⟨["x\ufffd.rs"], by decide +kernel⟩, Or.inl (by simp), Or.inl (by simp),
    Or.inr ⟨["x" ++ .ofList [0xff] ++ "_i18n.rs"], by decide +kernel⟩, by simp⟩

/-- **Names that decode alike can leave something to do.** After a run that succeeds, a second one
succeeds and writes a file. -/
theorem run_write_unsettled : ∃ g t' log s s', standard = .ok g ∧
    g.run .write undecoded ⟨"."⟩ = (t', log) ∧ log.result = .ok s ∧
    (g.run .write t' ⟨"."⟩).2.result = .ok s' ∧ s'.written ≠ [] := by
  obtain ⟨g, outs, files, hg, hwrites, hfiles, hmade, hpaths', hleft⟩ := loses_undecoded
  generalize undecoded = t at *
  obtain ⟨s, hs, -⟩ := written?_eq_some_iff.1 hwrites
  obtain ⟨c, hc, hmade⟩ := Option.map_eq_some_iff.1 hmade
  replace hc := Logged.toOption_result_eq_some_iff.1 hc
  replace hfiles := Logged.toOption_result_eq_some_iff.1 hfiles
  obtain ⟨rfl, hchanged⟩ := Prod.mk.inj hmade
  obtain ⟨c', hcompile, hwritten⟩ := written_of_run hs
  obtain rfl := Except.ok.inj (hc.symm.trans hcompile)
  have hc' := compile_after hc hwritten hfiles (by simpa using hleft)
  obtain ⟨s', hs', hnonempty⟩ :=
    run_write_of_changed hwritten hc' (by rw [hpaths']; exact List.Subset.refl _) hchanged
  exact ⟨g, _, _, s, s', hg, rfl, hs, hs', hnonempty⟩

end Generator
end Companion
