import Mathlib
import Companion.Compilation
import Companion.Proofs.AnnotatedType
import Companion.Proofs.Directive.Scan
import Companion.Proofs.FileTree.Companions
import Companion.Proofs.Generator

/-! Compiling texts. The artifacts of a text are in its own name, and in that of a directive of the
grammar (`mem_ofUnit`), so they go to its companions. Texts of different source files have different
companions: `ofTexts_independent` says that together they compile to what each compiles to alone. -/
namespace Companion

/-! ### Names of directives -/

/-- A name of the grammar is no path of several steps. -/
theorem Directive.IsName.slash_not_mem {name : List Char} (h : Directive.IsName name) :
    '/' ∉ name := by
  obtain ⟨c, rest, rfl, hstart, hrest⟩ := h
  intro hmem
  have hslash : Directive.isNameContinue '/' = true := by
    rcases List.mem_cons.1 hmem with rfl | hmem
    · exact Directive.isNameContinue_of_isNameStart hstart
    · exact hrest '/' hmem
  exact absurd hslash (by decide)

namespace AnnotatedType

/-- The directives of an annotated type have names of the grammar. -/
theorem wellNamed_of_collect {file : Path} {ds : List Declaration} {types : List AnnotatedType}
    (h : (collect file ds).result = .ok types) :
    ∀ type ∈ types, ∀ d ∈ type.directives, d.WellNamed := by
  obtain ⟨hreadable, rfl⟩ := collect_eq_ok_iff.1 h
  intro type htype
  obtain ⟨declaration, hmem, rfl⟩ := List.mem_map.1 htype
  obtain ⟨hmem, hgives⟩ := List.mem_filter.1 hmem
  obtain ⟨found, hfound⟩ := hreadable declaration hmem (of_decide_eq_true hgives).1
  have hdirectives : declaration.annotated.directives = found := by
    rw [Declaration.annotated, Declaration.directives, hfound]
    rfl
  rw [hdirectives]
  exact (Directive.scan_eq_ok_iff.1 hfound).wellNamed

end AnnotatedType

theorem SourceUnit.file_of_ofText {file : Path} {text : String} {unit : SourceUnit}
    (h : SourceUnit.ofText file text = .ok unit) : unit.file = file := by
  unfold SourceUnit.ofText at h
  split at h
  · obtain rfl := Except.ok.inj h
    rfl
  · cases h

namespace Compilation

/-! ### One unit -/

/-- **The artifacts of a unit are in the name of its file**, and of a directive that a family knows
and that makes one name with the file's. -/
theorem mem_ofUnit {g : Generator} {unit : SourceUnit} {c : Compilation}
    (h : (ofUnit g unit).result = .ok c) {a : Artifact} (ha : a ∈ c.generation.artifacts) :
    a.source = unit.file ∧ '/' ∉ a.directive.toList ∧ ∃ f, g.family? a.directive = some f := by
  obtain ⟨types, htypes, h⟩ := Logged.result_bind_eq_ok_iff.1 h
  obtain ⟨-, -, h⟩ := Logged.result_bind_eq_ok_iff.1 h
  obtain ⟨generation, hgeneration, h⟩ := Logged.result_bind_eq_ok_iff.1 h
  obtain rfl := Except.ok.inj h
  obtain ⟨hsource, ⟨type, htype, d, hd, hname⟩, hf⟩ :=
    Generator.mem_generateAll (Logged.result_mapError_eq_ok_iff.1 hgeneration) ha
  have hwell := AnnotatedType.wellNamed_of_collect (Logged.result_mapError_eq_ok_iff.1 htypes) type
    htype d hd
  exact ⟨hsource, hname ▸ hwell.1.slash_not_mem, hf⟩

/-! ### Several compilations -/

/-- Compilations put together in order. -/
def join : List Compilation → Compilation
  | [] => .empty
  | c :: cs => c ++ join cs

theorem mem_join_iff {cs : List Compilation} {a : Artifact} :
    a ∈ (join cs).generation.artifacts ↔ ∃ c ∈ cs, a ∈ c.generation.artifacts := by
  induction cs with
  | nil => simp [join, empty, Generation.empty]
  | cons c cs ih =>
    have hcons : a ∈ (join (c :: cs)).generation.artifacts ↔
        a ∈ c.generation.artifacts ∨ a ∈ (join cs).generation.artifacts := List.mem_append
    rw [hcons, ih, List.exists_mem_cons_iff]

/-- Compilations whose artifacts go to different paths are assembled apart. -/
theorem files_join {ι : Type} {sources : List ι} {compiled : ι → Compilation}
    (hapart : sources.Pairwise fun i j => ∀ a ∈ (compiled i).generation.artifacts,
      ∀ b ∈ (compiled j).generation.artifacts, a.path.same b.path = false) :
    (join (sources.map compiled)).files = sources.flatMap fun i => (compiled i).files := by
  induction sources with
  | nil => rfl
  | cons i sources ih =>
    obtain ⟨hne, hapart⟩ := List.pairwise_cons.1 hapart
    have happend : (join ((i :: sources).map compiled)).files =
        (compiled i).files ++ (join (sources.map compiled)).files := by
      refine OutputFile.assemble_append ?_
      intro a ha b hb
      obtain ⟨c, hc, hb⟩ := mem_join_iff.1 hb
      obtain ⟨j, hj, rfl⟩ := List.mem_map.1 hc
      exact hne j hj a ha b hb
    rw [happend, ih hapart, List.flatMap_cons]

/-- **Compilations put together make the files of each exactly when no two make files of one
path.** -/
theorem files_join_iff {ι : Type} {sources : List ι} {compiled : ι → Compilation} :
    (join (sources.map compiled)).files = sources.flatMap (fun i => (compiled i).files) ↔
      sources.Pairwise fun i j => ∀ o ∈ (compiled i).files, ∀ o' ∈ (compiled j).files,
        o.path.same o'.path = false := by
  constructor
  · intro h
    have hpairwise :=
      OutputFile.pairwise_assemble (join (sources.map compiled)).generation.artifacts
    rw [← files, h] at hpairwise
    exact (List.pairwise_flatMap.1 hpairwise).2
  · intro h
    refine files_join (h.imp fun hne a ha b hb => ?_)
    obtain ⟨o, ho, hoa⟩ := OutputFile.exists_file_of_mem ha
    obtain ⟨o', ho', hob⟩ := OutputFile.exists_file_of_mem hb
    rw [← Path.same_congr hoa, Path.same_comm, ← Path.same_congr hob, Path.same_comm]
    exact hne o ho o' ho'

/-! ### One after the other -/

section InTurn

variable {ε ι : Type} {one : ι → Logged ε Compilation} {is : List ι}

/-- Several compilations one after the other; the first error ends them. -/
def inTurn (one : ι → Logged ε Compilation) : List ι → Logged ε Compilation
  | [] => return .empty
  | i :: is => do
    let first ← one i
    let others ← inTurn one is
    return first ++ others

/-- What a compilation gives, nothing if it fails. -/
def value (x : Logged ε Compilation) : Compilation :=
  match x.result with
  | .ok c => c
  | .error _ => .empty

theorem value_eq {x : Logged ε Compilation} {c : Compilation} (h : x.result = .ok c) :
    value x = c := by
  rw [value, h]

theorem inTurn_eq_ok_iff {c : Compilation} : (inTurn one is).result = .ok c ↔
    (∀ i ∈ is, (one i).result = .ok (value (one i))) ∧
      c = join (is.map fun i => value (one i)) := by
  induction is generalizing c with
  | nil => simp [inTurn, join, eq_comm]
  | cons i is ih =>
    rw [inTurn]
    constructor
    · intro h
      obtain ⟨first, hfirst, h⟩ := Logged.result_bind_eq_ok_iff.1 h
      obtain ⟨others, hothers, h⟩ := Logged.result_bind_eq_ok_iff.1 h
      obtain rfl := Except.ok.inj h
      obtain ⟨his, rfl⟩ := ih.1 hothers
      obtain rfl := value_eq hfirst
      exact ⟨List.forall_mem_cons.2 ⟨hfirst, his⟩, rfl⟩
    · rintro ⟨his, rfl⟩
      obtain ⟨hfirst, his⟩ := List.forall_mem_cons.1 his
      refine Logged.result_bind_eq_ok_iff.2 ⟨_, hfirst, ?_⟩
      exact Logged.result_bind_eq_ok_iff.2 ⟨_, ih.2 ⟨his, rfl⟩, rfl⟩

/-- Several compilations succeed when each does. -/
theorem exists_inTurn_eq_ok_iff :
    (∃ c, (inTurn one is).result = .ok c) ↔ ∀ i ∈ is, ∃ c, (one i).result = .ok c := by
  constructor
  · rintro ⟨c, h⟩ i hi
    exact ⟨_, (inTurn_eq_ok_iff.1 h).1 i hi⟩
  · intro h
    refine ⟨_, inTurn_eq_ok_iff.2 ⟨fun i hi => ?_, rfl⟩⟩
    obtain ⟨c, hc⟩ := h i hi
    rw [value_eq hc, hc]

theorem result_inTurn (one : ι → Logged ε Compilation) (is : List ι) :
    (inTurn one is).result = (Logged.each one is).result.map join := by
  induction is with
  | nil => rfl
  | cons i is ih =>
    simp only [inTurn, Logged.each, Logged.result_bind, Logged.result_pure, ih]
    cases (one i).result with
    | error e => rfl
    | ok first => cases (Logged.each one is).result <;> rfl

/-- The error of several compilations is that of the first which fails. -/
theorem inTurn_eq_error_iff {e : ε} : (inTurn one is).result = .error e ↔
    ∃ before i after, is = before ++ i :: after ∧ (∀ j ∈ before, ∃ c, (one j).result = .ok c) ∧
      (one i).result = .error e := by
  rw [result_inTurn, ← Logged.each_eq_error_iff]
  cases (Logged.each one is).result <;> simp [Except.map]

end InTurn

/-! ### Texts -/

section Texts

variable {g : Generator} {units units' : List (Path × String)} {c c' : Compilation}

theorem append_empty (c : Compilation) : c ++ empty = c := by
  obtain ⟨units, types, artifacts, diagnostics⟩ := c
  show Compilation.mk units (types ++ []) ⟨artifacts ++ [], diagnostics ++ []⟩ = _
  rw [List.append_nil, List.append_nil, List.append_nil]

/-- A text on its own. -/
theorem result_ofTexts_singleton (g : Generator) (file : Path) (text : String) :
    (ofTexts g [(file, text)]).result = (ofText g file text).result := by
  simp only [ofTexts, Logged.result_bind, Logged.result_pure]
  cases (ofText g file text).result with
  | error e => rfl
  | ok c => exact congrArg Except.ok (append_empty c)

theorem result_ofTexts (g : Generator) (units : List (Path × String)) :
    (ofTexts g units).result = (inTurn (fun u => ofTexts g [u]) units).result := by
  induction units with
  | nil => rfl
  | cons u units ih =>
    obtain ⟨file, text⟩ := u
    rw [ofTexts, inTurn]
    simp only [Logged.result_bind, ih, result_ofTexts_singleton]

/-- The artifacts of a text go to its companion. -/
theorem path_of_mem_ofTexts (hg : Generator.standard = .ok g) {u : Path × String}
    (h : (ofTexts g [u]).result = .ok c) :
    ∀ a ∈ c.generation.artifacts, a.path = u.1.companion "i18n" := by
  intro a ha
  rw [result_ofTexts_singleton] at h
  obtain ⟨unit, hunit, h⟩ := Logged.result_bind_eq_ok_iff.1 h
  obtain ⟨hsource, -, f, hf⟩ := mem_ofUnit h ha
  obtain ⟨-, hdirective⟩ := Generator.standard_family? hg hf
  rw [Artifact.path, hsource, SourceUnit.file_of_ofText hunit, hdirective]

theorem types_join (cs : List Compilation) : (join cs).types = cs.flatMap types := by
  induction cs with
  | nil => rfl
  | cons c cs ih => rw [join, types_append, ih, List.flatMap_cons]

theorem diagnostics_join (cs : List Compilation) :
    (join cs).generation.diagnostics = cs.flatMap (·.generation.diagnostics) := by
  induction cs with
  | nil => rfl
  | cons c cs ih =>
    rw [join, generation_append, Generation.diagnostics_append, ih, List.flatMap_cons]

/-- Texts of source files, no two of them of one file. -/
structure OfDifferentFiles (units : List (Path × String)) : Prop where
  source : ∀ u ∈ units, u.1.extension? = some "rs"
  different : units.Pairwise fun u v => u.1.same v.1 = false

/-- Texts of different source files have different companions, if the names of the files are told
apart. -/
theorem OfDifferentFiles.companions (h : OfDifferentFiles units)
    (htold : Path.ToldApart (units.map Prod.fst)) :
    units.Pairwise fun u v => (u.1.companion "i18n").same (v.1.companion "i18n") = false := by
  refine h.different.imp_of_mem ?_
  intro u v hu hv hne
  refine Bool.eq_false_iff.2 fun hsame => ?_
  have htold := htold u.1 (List.mem_map_of_mem hu) v.1 (List.mem_map_of_mem hv)
  rw [Path.same_of_same_companion (h.source u hu) (h.source v hv) htold (by decide) hsame] at hne
  cases hne

/-- A text is given by its companion among texts of different files. -/
theorem OfDifferentFiles.eq_of_same_companion (h : OfDifferentFiles units)
    (htold : Path.ToldApart (units.map Prod.fst)) {u v : Path × String} (hu : u ∈ units)
    (hv : v ∈ units) (hsame : (u.1.companion "i18n").same (v.1.companion "i18n") = true) :
    u = v := by
  have hsymm : Std.Symm fun u v : Path × String =>
      (u.1.companion "i18n").same (v.1.companion "i18n") = false :=
    ⟨fun u v huv => Path.same_comm _ _ ▸ huv⟩
  by_contra hne
  rw [(h.companions htold).forall hu hv hne] at hsame
  cases hsame

/-- What texts of different files compile to is put together of what each compiles to alone, if the
names of the files are told apart. -/
theorem files_ofTexts (hg : Generator.standard = .ok g) (hunits : OfDifferentFiles units)
    (htold : Path.ToldApart (units.map Prod.fst)) (h : (ofTexts g units).result = .ok c) :
    c.files = units.flatMap fun u => (value (ofTexts g [u])).files := by
  rw [result_ofTexts] at h
  obtain ⟨halone, rfl⟩ := inTurn_eq_ok_iff.1 h
  refine files_join ((hunits.companions htold).imp_of_mem ?_)
  intro u v hu hv hne a ha b hb
  rw [path_of_mem_ofTexts hg (halone u hu) a ha, path_of_mem_ofTexts hg (halone v hv) b hb]
  exact hne

/-- The companion file of a text is that of the text compiled alone. -/
theorem mem_files_ofTexts_iff (hg : Generator.standard = .ok g) (hunits : OfDifferentFiles units)
    (htold : Path.ToldApart (units.map Prod.fst)) (h : (ofTexts g units).result = .ok c)
    {u : Path × String} (hu : u ∈ units) {o : OutputFile}
    (ho : o.path.same (u.1.companion "i18n") = true) :
    o ∈ c.files ↔ o ∈ (value (ofTexts g [u])).files := by
  rw [files_ofTexts hg hunits htold h, List.mem_flatMap]
  rw [result_ofTexts] at h
  obtain ⟨halone, -⟩ := inTurn_eq_ok_iff.1 h
  constructor
  · rintro ⟨v, hv, hov⟩
    obtain ⟨a, ha, hpath⟩ := OutputFile.exists_of_mem_assemble hov
    rw [hpath, path_of_mem_ofTexts hg (halone v hv) a ha] at ho
    rwa [← hunits.eq_of_same_companion htold hv hu ho]
  · intro hou
    exact ⟨u, hu, hou⟩

/-- **Texts of different source files are compiled independently of each other, as far as the names
of the files are told apart.** They compile when each does alone, to the types and the diagnostics
of each in order; else the error is that of the first which does not compile alone. The files are
those of each in order exactly when no two texts make files of one path. So it is if the names of
the files are told apart when they are decoded: then the companion file of a text, its path and its
contents, is the same whatever other such texts it is compiled with. -/
theorem ofTexts_independent (hg : Generator.standard = .ok g) (hunits : OfDifferentFiles units) :
    ((∃ c, (ofTexts g units).result = .ok c) ↔ ∀ u ∈ units, ∃ c, (ofTexts g [u]).result = .ok c) ∧
    (∀ c, (ofTexts g units).result = .ok c → ∃ alone : Path × String → Compilation,
      (∀ u ∈ units, (ofTexts g [u]).result = .ok (alone u)) ∧
      c.types = units.flatMap (fun u => (alone u).types) ∧
      c.generation.diagnostics = units.flatMap (fun u => (alone u).generation.diagnostics) ∧
      (c.files = units.flatMap (fun u => (alone u).files) ↔ units.Pairwise fun u v =>
        ∀ o ∈ (alone u).files, ∀ o' ∈ (alone v).files, o.path.same o'.path = false) ∧
      (Path.ToldApart (units.map Prod.fst) → c.files = units.flatMap fun u => (alone u).files)) ∧
    (∀ e, (ofTexts g units).result = .error e → ∃ before u after, units = before ++ u :: after ∧
      (∀ v ∈ before, ∃ c, (ofTexts g [v]).result = .ok c) ∧ (ofTexts g [u]).result = .error e) ∧
    ∀ units', OfDifferentFiles units' → Path.ToldApart (units.map Prod.fst) →
      Path.ToldApart (units'.map Prod.fst) → ∀ c c', (ofTexts g units).result = .ok c →
      (ofTexts g units').result = .ok c' → ∀ u ∈ units, u ∈ units' → ∀ o : OutputFile,
      o.path.same (u.1.companion "i18n") = true → (o ∈ c.files ↔ o ∈ c'.files) := by
  refine ⟨?_, ?_, ?_, ?_⟩
  · rw [result_ofTexts]
    exact exists_inTurn_eq_ok_iff
  · intro c h
    have hfiles := fun htold => files_ofTexts hg hunits htold h
    rw [result_ofTexts] at h
    obtain ⟨halone, rfl⟩ := inTurn_eq_ok_iff.1 h
    refine ⟨fun u => value (ofTexts g [u]), halone, ?_, ?_, files_join_iff, hfiles⟩
    · rw [types_join, List.flatMap_map]
    · rw [diagnostics_join, List.flatMap_map]
  · intro e h
    rw [result_ofTexts] at h
    exact inTurn_eq_error_iff.1 h
  · intro units' hunits' htold htold' c c' h h' u hu hu' o ho
    rw [mem_files_ofTexts_iff hg hunits htold h hu ho,
      mem_files_ofTexts_iff hg hunits' htold' h' hu' ho]

end Texts

/-- Two texts whose files have names that start alike; the second carries a directive that no family
knows. -/
def dottedUnits : List (Path × String) :=
  [(⟨"src/a.rs"⟩, "/// i18n(en = \"Hi\")\nstruct A;\n"),
    (⟨"src//a.b.rs"⟩, "/// audit() i18n(en = \"Ho\")\nstruct B;\n")]

/-- The paths of the files that texts compile to, and the diagnostics, if they compile. -/
def outcome? (g : Generator) (units : List (Path × String)) :
    Option (List Path × List Diagnostic) :=
  (ofTexts g units).result.toOption.map fun c =>
    (c.files.map OutputFile.path, c.generation.diagnostics)

theorem ofTexts_independent_dotted :
    ∃ g c, Generator.standard = .ok g ∧ OfDifferentFiles dottedUnits ∧
    Path.ToldApart (dottedUnits.map Prod.fst) ∧ (ofTexts g dottedUnits).result = .ok c ∧
    c.files.map OutputFile.path = [⟨"src/a_i18n.rs"⟩, ⟨"src/a.b_i18n.rs"⟩] ∧
    c.generation.diagnostics = [⟨⟨"src//a.b.rs"⟩, "B", "audit"⟩] ∧
    ∃ alone : Path × String → Compilation,
      (∀ u ∈ dottedUnits, (ofTexts g [u]).result = .ok (alone u)) ∧
      c.files = dottedUnits.flatMap fun u => (alone u).files := by
  obtain ⟨g, hg, hmade⟩ : ∃ g, Generator.standard = .ok g ∧ outcome? g dottedUnits =
      some ([⟨"src/a_i18n.rs"⟩, ⟨"src/a.b_i18n.rs"⟩], [⟨⟨"src//a.b.rs"⟩, "B", "audit"⟩]) :=
    ⟨Generator.compiledStandard, Generator.standard_eq, by decide +kernel⟩
  have hunits : OfDifferentFiles dottedUnits := ⟨by decide +kernel, by decide +kernel⟩
  have htold : Path.ToldApart (dottedUnits.map Prod.fst) :=
    Path.toldApart_of_isText (by decide +kernel)
  generalize dottedUnits = units at hmade hunits htold ⊢
  obtain ⟨c, hc, houtcome⟩ := Option.map_eq_some_iff.1 hmade
  have hresult := Logged.toOption_result_eq_some_iff.1 hc
  obtain ⟨hpaths, hdiagnostics⟩ := Prod.mk.inj houtcome
  obtain ⟨-, hparts, -⟩ := ofTexts_independent hg hunits
  obtain ⟨alone, halone, -, -, -, hfiles⟩ := hparts c hresult
  exact ⟨g, c, hg, hunits, htold, hresult, hpaths, hdiagnostics, alone, halone, hfiles htold⟩

/-- Two texts whose files have names that are no text: what does not decode is all that they differ
in. -/
def undecodedUnits : List (Path × String) :=
  [(⟨RawText.ofList [0xfe] ++ ".rs"⟩, "/// i18n(en = \"Hi\")\nstruct A;\n"),
    (⟨RawText.ofList [0xff] ++ ".rs"⟩, "/// i18n(en = \"Ho\")\nstruct B;\n")]

/-- Whether a text alone compiles to a file whose contents no file of the texts has. -/
def losesFile (g : Generator) (units : List (Path × String)) (u : Path × String) : Bool :=
  match (ofTexts g units).result, (ofTexts g [u]).result with
  | .ok c, .ok alone => alone.files.any fun o => c.files.all fun o' => o'.contents ≠ o.contents
  | _, _ => false

theorem losesFile_iff {g : Generator} {units : List (Path × String)} {u : Path × String} :
    losesFile g units u = true ↔ ∃ c alone, (ofTexts g units).result = .ok c ∧
      (ofTexts g [u]).result = .ok alone ∧ ∃ o ∈ alone.files, ∀ o' ∈ c.files, o'.contents ≠
        o.contents := by
  unfold losesFile
  split
  · next c alone hc halone => simp [hc, halone]
  · next hnone =>
    simp only [Bool.false_eq_true, false_iff]
    rintro ⟨c, alone, hc, halone, -⟩
    exact hnone c alone hc halone

/-- **Texts of different files are not always compiled independently.** Names that decode alike have
one companion, and the file that the first text compiles to alone is not among those of the two. -/
theorem ofTexts_merges_undecoded : ∃ g c u alone o, Generator.standard = .ok g ∧
    OfDifferentFiles undecodedUnits ∧ (ofTexts g undecodedUnits).result = .ok c ∧
    u ∈ undecodedUnits ∧ (ofTexts g [u]).result = .ok alone ∧ o ∈ alone.files ∧ o ∉ c.files ∧
    ∀ each : Path × String → Compilation,
      (∀ u ∈ undecodedUnits, (ofTexts g [u]).result = .ok (each u)) →
      c.files ≠ undecodedUnits.flatMap fun u => (each u).files := by
  obtain ⟨g, u, hg, hu, hloses⟩ : ∃ g u, Generator.standard = .ok g ∧ u ∈ undecodedUnits ∧
      losesFile g undecodedUnits u = true :=
    ⟨Generator.compiledStandard, _, Generator.standard_eq, List.mem_cons_self, by decide +kernel⟩
  have hunits : OfDifferentFiles undecodedUnits := ⟨by decide +kernel, by decide +kernel⟩
  obtain ⟨c, alone, hc, halone, o, ho, hother⟩ := losesFile_iff.1 hloses
  have hlost : o ∉ c.files := fun hmem => hother o hmem rfl
  refine ⟨g, c, u, alone, o, hg, hunits, hc, hu, halone, ho, hlost, ?_⟩
  intro each heach hfiles
  obtain rfl : alone = each u := Except.ok.inj (halone.symm.trans (heach u hu))
  exact hlost (hfiles ▸ List.mem_flatMap.2 ⟨u, hu, ho⟩)

end Compilation
end Companion
