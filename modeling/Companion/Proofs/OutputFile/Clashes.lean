import Mathlib
import Companion.Proofs.Compilation

/-! When two companions are one file.

The name of a companion joins the stem of its source, the directive and the extension. The extension
can be read off it again, but the place of the join cannot, since stems and directives may both hold
the character that joins them; a source without extension is given one that another source may have;
and the names of two sources that are no text may decode alike. These are the only ways in which
different sources or directives get one companion (`same_companion_iff_clash`), and assembling keeps
the artifacts of different sources and directives in files of their own exactly where there is no
such clash (`companions_apart_iff`). -/
namespace Companion

namespace Path

/-! ### Texts with a separator -/

/-- A text divided at two places by one separator: the places are one, or one division reaches over
the other's separator. -/
theorem divided_eq_iff {sep : Char} {a b a' b' : List Char} :
    a ++ sep :: b = a' ++ sep :: b' ↔ (a = a' ∧ b = b') ∨
      (∃ x, a' = a ++ sep :: x ∧ b = x ++ sep :: b') ∨ ∃ x, a = a' ++ sep :: x ∧
        b' = x ++ sep :: b := by
  constructor
  · intro h
    rcases List.append_eq_append_iff.1 h with ⟨x, ha, hb⟩ | ⟨x, ha, hb⟩
    · cases x with
      | nil => exact Or.inl ⟨by simpa using ha.symm, by simpa using hb⟩
      | cons c x =>
        obtain ⟨rfl, hrest⟩ := List.cons.inj hb
        exact Or.inr (Or.inl ⟨x, ha, hrest⟩)
    · cases x with
      | nil => exact Or.inl ⟨by simpa using ha, by simpa using hb.symm⟩
      | cons c x =>
        obtain ⟨rfl, hrest⟩ := List.cons.inj hb
        exact Or.inr (Or.inr ⟨x, ha, hrest⟩)
  · rintro (⟨rfl, rfl⟩ | ⟨x, rfl, rfl⟩ | ⟨x, rfl, rfl⟩) <;> simp

/-- A text is divided at its last separator in one way. -/
theorem divided_inj {sep : Char} {a b a' b' : List Char} (hb : sep ∉ b) (hb' : sep ∉ b') :
    a ++ sep :: b = a' ++ sep :: b' ↔ a = a' ∧ b = b' := by
  rw [divided_eq_iff]
  constructor
  · rintro (h | ⟨x, -, rfl⟩ | ⟨x, -, rfl⟩)
    · exact h
    · simp at hb
    · simp at hb'
  · exact Or.inl

/-! ### Stem and extension -/

theorem dot_not_mem_extension {name ext : List UInt8} (h : (splitDot name).2 = some ext) :
    dot ∉ ext := by
  unfold splitDot at h
  dsimp only at h
  split at h
  · cases h
  · cases h
  · obtain rfl := Option.some.inj h
    intro hdot
    have := List.mem_takeWhile_imp (List.mem_reverse.1 hdot)
    simp at this

theorem splitDot_inj {name name' : List UInt8} (h : splitDot name = splitDot name') :
    name = name' := by
  rcases splitDot_cases name with hwhole | ⟨stem, ext, hcut, rfl⟩
  · rcases splitDot_cases name' with hwhole' | ⟨stem', ext', hcut', -⟩
    · rw [hwhole, hwhole'] at h
      exact congrArg Prod.fst h
    · rw [hwhole, hcut'] at h
      cases h
  · rcases splitDot_cases name' with hwhole' | ⟨stem', ext', hcut', rfl⟩
    · rw [hcut, hwhole'] at h
      cases h
    · rw [hcut, hcut'] at h
      cases h
      rfl

/-- The text that stands for the extension of a companion: the file's own, decoded, or what stands
in for none. -/
def shownExtension (p : Path) : String := (p.extension?.map RawText.decode).getD "rs"

/-- The extension of a companion holds no dot. -/
theorem dot_not_mem_shownExtension (p : Path) : '.' ∉ p.shownExtension.toList := by
  unfold shownExtension
  cases hext : p.extension? with
  | none => decide
  | some ext =>
    obtain ⟨name, -, hmap⟩ := Option.bind_eq_some_iff.1 hext
    obtain ⟨bytes, hcut, rfl⟩ := Option.map_eq_some_iff.1 hmap
    exact fun hmem => dot_not_mem_extension hcut (RawText.mem_of_mem_decode (by decide) hmem)

/-! ### Paths in one directory -/

variable {p q : Path} {d e : String}

theorem companionName_eq {name : RawText} (h : p.fileName? = some name) (d : String) :
    companionName name d = .ofString (p.stem.decode ++ "_" ++ d ++ "." ++ p.shownExtension) := by
  simp [companionName, shownExtension, stem, extension?, h, Function.comp_def]

/-- What can be read off the name of a companion: the extension, and stem and directive together. -/
theorem companionName_eq_iff {name name' : RawText} (h : p.fileName? = some name)
    (h' : q.fileName? = some name') : companionName name d = companionName name' e ↔
      p.stem.decode ++ "_" ++ d = q.stem.decode ++ "_" ++ e ∧
        p.shownExtension = q.shownExtension := by
  have hchars : ∀ (p : Path) d, (p.stem.decode ++ "_" ++ d ++ "." ++ p.shownExtension).toList =
      (p.stem.decode ++ "_" ++ d).toList ++ '.' :: p.shownExtension.toList := by
    intro p d
    simp
  rw [companionName_eq h, companionName_eq h', RawText.ofString_inj, ← String.toList_inj,
    hchars, hchars, divided_inj (dot_not_mem_shownExtension p) (dot_not_mem_shownExtension q),
    String.toList_inj, String.toList_inj]

theorem components_of_fileName? {name : RawText} (h : p.fileName? = some name) :
    p.components = p.directory.components ++ [.name name] := by
  obtain ⟨front, hfront⟩ := List.getLast?_eq_some_iff.1 (fileName?_eq_some_iff.1 h)
  rw [components_directory h, hfront, List.dropLast_concat]

/-- Paths are one when they lead to one directory and end in the same name. -/
theorem same_iff_of_components {dir dir' : Path} {name name' : RawText}
    (hp : p.components = dir.components ++ [.name name])
    (hq : q.components = dir'.components ++ [.name name']) :
    p.same q = true ↔ dir.same dir' = true ∧ name = name' := by
  rw [same_iff, same_iff, hp, hq]
  constructor
  · intro h
    obtain ⟨hdir, hlast⟩ := List.append_inj' h rfl
    exact ⟨hdir, Component.name.inj (List.singleton_inj.1 hlast)⟩
  · rintro ⟨hdir, rfl⟩
    rw [hdir]

/-- A file is known by its directory, its stem and its extension. -/
theorem same_iff_stem (hp : p.fileName?.isSome) (hq : q.fileName?.isSome) :
    p.same q = true ↔
      p.directory.same q.directory = true ∧ p.stem = q.stem ∧ p.extension? = q.extension? := by
  obtain ⟨name, hname⟩ := Option.isSome_iff_exists.1 hp
  obtain ⟨name', hname'⟩ := Option.isSome_iff_exists.1 hq
  rw [same_iff_of_components (components_of_fileName? hname) (components_of_fileName? hname')]
  simp only [stem, extension?, hname, hname', Option.bind_some, RawText.ofList.injEq]
  refine and_congr_right fun _ => ⟨fun h => by simp [h], ?_⟩
  rintro ⟨hstem, hext⟩
  have hext : (splitDot name.toList).2 = (splitDot name'.toList).2 :=
    Option.map_injective (fun _ _ => RawText.ofList.inj) hext
  exact RawText.toList_inj.1 (splitDot_inj (Prod.ext hstem hext))

/-- A companion is known by its directory, its extension, and the stem and directive put
together. -/
theorem same_companion_iff (hp : p.fileName?.isSome) (hq : q.fileName?.isSome) (hd : '/' ∉ d.toList)
    (he : '/' ∉ e.toList) :
    (p.companion d).same (q.companion e) = true ↔ p.directory.same q.directory = true ∧
      p.stem.decode ++ "_" ++ d = q.stem.decode ++ "_" ++ e ∧
        p.shownExtension = q.shownExtension := by
  obtain ⟨name, hname⟩ := Option.isSome_iff_exists.1 hp
  obtain ⟨name', hname'⟩ := Option.isSome_iff_exists.1 hq
  have hcomponents := components_companion hname hd
  have hcomponents' := components_companion hname' he
  rw [← components_directory hname] at hcomponents
  rw [← components_directory hname'] at hcomponents'
  rw [same_iff_of_components hcomponents hcomponents', companionName_eq_iff hname hname']

/-! ### Clashes -/

/-- The directive `d` starts with the end of `stem'`, behind `stem`: the text up to the name `e` can
be read as either. -/
def Borrows (stem d stem' e : String) : Prop := ∃ x, stem' = stem ++ "_" ++ x ∧ d = x ++ "_" ++ e

/-- Two files, or one file with two directives, whose companions the rule for names gives one
path. -/
structure Clash (p : Path) (d : String) (q : Path) (e : String) : Prop where
  directory : p.directory.same q.directory = true
  extension : p.shownExtension = q.shownExtension
  /-- One directive stands in two files whose names decode alike or of which only one has the
  extension, or one directive reaches into the other file's stem. -/
  cause :
    (p.stem.decode = q.stem.decode ∧ d = e ∧ (p.stem ≠ q.stem ∨ p.extension? ≠ q.extension?)) ∨
    Borrows p.stem.decode d q.stem.decode e ∨ Borrows q.stem.decode e p.stem.decode d

theorem borrows_iff {stem d stem' e : String} : Borrows stem d stem' e ↔
    ∃ x, stem'.toList = stem.toList ++ '_' :: x ∧ d.toList = x ++ '_' :: e.toList := by
  constructor
  · rintro ⟨x, rfl, rfl⟩
    exact ⟨x.toList, by simp, by simp⟩
  · rintro ⟨x, hstem, hd⟩
    exact ⟨String.ofList x, by simp [← String.toList_inj, hstem], by simp [← String.toList_inj, hd]⟩

/-- A stem that another one borrows from is longer. -/
theorem Borrows.length_lt {stem d stem' e : String} (h : Borrows stem d stem' e) :
    stem.length < stem'.length := by
  obtain ⟨x, rfl, -⟩ := h
  have hmark : "_".length = 1 := rfl
  rw [String.length_append, String.length_append]
  omega

/-- What clashes is not the same. -/
theorem Clash.not_same (h : Clash p d q e) (hp : p.fileName?.isSome) (hq : q.fileName?.isSome) :
    ¬(p.same q = true ∧ d = e) := by
  rintro ⟨hsame, rfl⟩
  obtain ⟨-, hstem, hext⟩ := (same_iff_stem hp hq).1 hsame
  rcases h.cause with ⟨-, -, hne | hne⟩ | hborrows | hborrows
  · exact hne hstem
  · exact hne hext
  · have := hborrows.length_lt
    rw [hstem] at this
    omega
  · have := hborrows.length_lt
    rw [hstem] at this
    omega

/-- **Companions are one exactly for one file and directive, and where there is a clash.** -/
theorem same_companion_iff_clash (hp : p.fileName?.isSome) (hq : q.fileName?.isSome)
    (hd : '/' ∉ d.toList) (he : '/' ∉ e.toList) :
    (p.companion d).same (q.companion e) = true ↔ (p.same q = true ∧ d = e) ∨ Clash p d q e := by
  rw [same_companion_iff hp hq hd he]
  have hdivided : p.stem.decode ++ "_" ++ d = q.stem.decode ++ "_" ++ e ↔
      (p.stem.decode = q.stem.decode ∧ d = e) ∨ Borrows p.stem.decode d q.stem.decode e ∨
        Borrows q.stem.decode e p.stem.decode d := by
    rw [borrows_iff, borrows_iff, ← String.toList_inj, ← @String.toList_inj p.stem.decode,
      ← @String.toList_inj d, ← divided_eq_iff]
    simp
  rw [hdivided, same_iff_stem hp hq]
  constructor
  · rintro ⟨hdir, hcause, hext⟩
    by_cases hsame : (p.stem = q.stem ∧ d = e) ∧ p.extension? = q.extension?
    · exact Or.inl ⟨⟨hdir, hsame.1.1, hsame.2⟩, hsame.1.2⟩
    · refine Or.inr ⟨hdir, hext, ?_⟩
      rcases hcause with ⟨hname, hdirective⟩ | hborrows
      · refine Or.inl ⟨hname, hdirective, ?_⟩
        by_contra hboth
        rw [not_or, not_not, not_not] at hboth
        exact hsame ⟨⟨hboth.1, hdirective⟩, hboth.2⟩
      · exact Or.inr hborrows
  · rintro (⟨⟨hdir, hstem, hext⟩, hdirective⟩ | ⟨hdir, hext, hcause⟩)
    · exact ⟨hdir, Or.inl ⟨by rw [hstem], hdirective⟩, by rw [shownExtension, shownExtension, hext]⟩
    · refine ⟨hdir, ?_, hext⟩
      rcases hcause with ⟨hstem, hdirective, -⟩ | hborrows
      · exact Or.inl ⟨hstem, hdirective⟩
      · exact Or.inr hborrows

end Path

/-! ### Artifacts of one origin -/

namespace Artifact

/-- The artifacts are those of one directive in one source file. -/
def sameOrigin (a b : Artifact) : Bool := a.source.same b.source && a.directive = b.directive

/-- The artifacts are not, but go to one file. -/
def Clash (a b : Artifact) : Prop := Path.Clash a.source a.directive b.source b.directive

/-- The artifact is that of a directive in a file. -/
def WellMade (a : Artifact) : Prop :=
  a.source.fileName?.isSome ∧ Directive.IsName a.directive.toList

instance (a : Artifact) : Decidable a.WellMade := inferInstanceAs (Decidable (_ ∧ _))

theorem sameOrigin_iff {a b : Artifact} :
    a.sameOrigin b = true ↔ a.source.same b.source = true ∧ a.directive = b.directive := by
  simp [sameOrigin]

theorem sameOrigin_self (a : Artifact) : a.sameOrigin a = true :=
  sameOrigin_iff.2 ⟨Path.same_self _, rfl⟩

theorem sameOrigin_of_common {a b c : Artifact} (ha : c.sameOrigin a = true)
    (hb : c.sameOrigin b = true) :
    a.sameOrigin b = true := by
  obtain ⟨hsource, hdirective⟩ := sameOrigin_iff.1 ha
  obtain ⟨hsource', hdirective'⟩ := sameOrigin_iff.1 hb
  exact sameOrigin_iff.2
    ⟨(Path.same_congr hsource _).symm.trans hsource', hdirective.symm.trans hdirective'⟩

variable {a b : Artifact}

theorem same_path_iff (ha : a.WellMade) (hb : b.WellMade) :
    a.path.same b.path = true ↔ a.sameOrigin b = true ∨ a.Clash b := by
  rw [sameOrigin_iff]
  exact Path.same_companion_iff_clash ha.1 hb.1 ha.2.slash_not_mem hb.2.slash_not_mem

theorem Clash.not_sameOrigin (h : a.Clash b) (ha : a.WellMade) (hb : b.WellMade) :
    ¬a.sameOrigin b = true := by
  rw [sameOrigin_iff]
  exact Path.Clash.not_same h ha.1 hb.1

end Artifact

/-! ### The bodies of a file -/

namespace OutputFile

/-- The size of the bodies of artifacts, each with a line end behind it. -/
def linesSize (artifacts : List Artifact) : Nat :=
  (artifacts.map fun a => a.body.toList.length + 1).sum

/-- Joined bodies lack the last line end. -/
theorem length_joined {artifacts : List Artifact} (h : artifacts ≠ []) :
    (String.intercalate "\n" (artifacts.map Artifact.body)).toList.length + 1 =
      linesSize artifacts := by
  induction artifacts with
  | nil => exact absurd rfl h
  | cons a artifacts ih =>
    cases artifacts with
    | nil => simp [linesSize]
    | cons b artifacts =>
      have hrest := ih (by simp)
      have hsize : linesSize (a :: b :: artifacts) = a.body.toList.length + 1 + linesSize
        (b :: artifacts) := rfl
      rw [hsize, ← hrest]
      simp [String.toList_intercalate]
      omega

theorem linesSize_filter_lt {artifacts : List Artifact} {p : Artifact → Bool} {a : Artifact}
    (ha : a ∈ artifacts) (hp : p a = false) :
    linesSize (artifacts.filter p) < linesSize artifacts := by
  have hsplit : linesSize (artifacts.filter p) + linesSize (artifacts.filter fun a => !p a) =
      linesSize artifacts := by
    have hperm :=
      ((List.filter_append_perm p artifacts).map fun a => a.body.toList.length + 1).sum_eq
    rwa [List.map_append, List.sum_append] at hperm
  have hrest : 0 < linesSize (artifacts.filter fun a => !p a) := by
    have hmem : a ∈ artifacts.filter fun a => !p a := List.mem_filter.2 ⟨ha, by simp [hp]⟩
    have hlength := length_joined (List.ne_nil_of_mem hmem)
    omega
  omega

/-- Joining fewer of some bodies gives another text. -/
theorem joined_filter_ne {artifacts : List Artifact} {p : Artifact → Bool} {a b : Artifact}
    (ha : a ∈ artifacts) (hpa : p a = true) (hb : b ∈ artifacts) (hpb : p b = false) :
    String.intercalate "\n" ((artifacts.filter p).map Artifact.body) ≠
      String.intercalate "\n" (artifacts.map Artifact.body) := by
  intro heq
  have hlength := length_joined (List.ne_nil_of_mem (List.mem_filter.2 ⟨ha, hpa⟩))
  rw [heq, length_joined (List.ne_nil_of_mem ha)] at hlength
  have hlt := linesSize_filter_lt hb hpb
  omega

theorem ofGroup_inj {g g' : Group} (h : ofGroup g = ofGroup g') :
    g.path = g'.path ∧ String.intercalate "\n" g.bodies = String.intercalate "\n" g'.bodies := by
  obtain ⟨hpath, hcontents⟩ := OutputFile.mk.inj h
  exact ⟨hpath, by simpa [← String.toList_inj] using hcontents⟩

/-! ### Files of one origin -/

variable {artifacts : List Artifact}

/-- The file of an artifact, with the bodies of its origin only. -/
def ofOrigin (artifacts : List Artifact) (a : Artifact) : OutputFile :=
  ofGroup ⟨a.path, (artifacts.filter a.sameOrigin).map Artifact.body⟩

/-- A file with the bodies of one origin is the file of no other artifact. -/
theorem sameOrigin_of_ofOrigin (h : ∀ a ∈ artifacts, a.WellMade) {g : Group}
    (hg : g ∈ groups artifacts) {c : Artifact} (hc : c ∈ artifacts)
    (hfile : ofGroup g = ofOrigin artifacts c) {x : Artifact} (hx : x ∈ artifacts)
    (hsame : x.path.same g.path = true) : c.sameOrigin x = true := by
  obtain ⟨hpath, hbodies⟩ := ofGroup_inj hfile
  dsimp only at hpath hbodies
  rw [bodies_of_mem_groups hg] at hbodies
  have hfilter : (artifacts.filter fun x => x.path.same g.path).filter c.sameOrigin =
      artifacts.filter c.sameOrigin := by
    rw [List.filter_filter]
    refine List.filter_congr fun x hx => ?_
    cases horigin : c.sameOrigin x with
    | false => rfl
    | true =>
      have hto : c.path.same x.path = true :=
        (Artifact.same_path_iff (h c hc) (h x hx)).2 (Or.inl horigin)
      rw [Path.same_comm, hpath, hto]
      rfl
  by_contra hother
  have hcmem : c ∈ artifacts.filter fun x => x.path.same g.path :=
    List.mem_filter.2 ⟨hc, by rw [hpath]; exact Path.same_self _⟩
  refine joined_filter_ne hcmem c.sameOrigin_self (List.mem_filter.2 ⟨hx, hsame⟩)
    (Bool.eq_false_iff.2 hother) ?_
  rw [hfilter]
  exact hbodies.symm

/-- Without a clash every file has one origin. -/
theorem exists_ofOrigin (h : ∀ a ∈ artifacts, a.WellMade)
    (hfree : ∀ a ∈ artifacts, ∀ b ∈ artifacts, ¬a.Clash b) {o : OutputFile}
    (ho : o ∈ assemble artifacts) :
    ∃ a ∈ artifacts, o = ofOrigin artifacts a := by
  obtain ⟨g, hg, rfl⟩ := List.mem_map.1 ho
  obtain ⟨a, ha, hpath⟩ := exists_of_mem_groups hg
  have horigin : ∀ b ∈ artifacts, b.path.same a.path = a.sameOrigin b := by
    intro b hb
    rw [Path.same_comm, Bool.eq_iff_iff, Artifact.same_path_iff (h a ha) (h b hb)]
    exact or_iff_left (hfree a ha b hb)
  have hbodies : g.bodies = (artifacts.filter a.sameOrigin).map Artifact.body := by
    rw [bodies_of_mem_groups hg, hpath, List.filter_congr horigin]
  exact ⟨a, ha, by rw [ofOrigin, ← hbodies, ← hpath]⟩

/-- Artifacts that clash are in one file, and so in none that has the bodies of one origin only. -/
theorem not_clash_of_ofOrigin (h : ∀ a ∈ artifacts, a.WellMade)
    (hfiles : ∀ o ∈ assemble artifacts, ∃ a ∈ artifacts, o = ofOrigin artifacts a) {a b : Artifact}
    (ha : a ∈ artifacts) (hb : b ∈ artifacts) : ¬a.Clash b := by
  intro hclash
  obtain ⟨g, hg, hga⟩ := exists_group_of_mem ha
  obtain ⟨c, hc, hfile⟩ := hfiles (ofGroup g) (List.mem_map_of_mem hg)
  have hab : a.path.same b.path = true :=
    (Artifact.same_path_iff (h a ha) (h b hb)).2 (Or.inr hclash)
  have hag : a.path.same g.path = true := by rwa [Path.same_comm]
  have hbg : b.path.same g.path = true := by rwa [← Path.same_congr hab]
  exact hclash.not_sameOrigin (h a ha) (h b hb) (Artifact.sameOrigin_of_common
    (sameOrigin_of_ofOrigin h hg hc hfile ha hag) (sameOrigin_of_ofOrigin h hg hc hfile hb hbg))

/-- **Different sources and directives have companions of their own, and their artifacts files of
their own, exactly where they do not clash.** -/
theorem companions_apart_iff {p q : Path} {d e : String} (hp : p.fileName?.isSome)
    (hq : q.fileName?.isSome) (hd : Directive.IsName d.toList) (he : Directive.IsName e.toList)
    (h : ∀ a ∈ artifacts, a.WellMade) :
    (((p.companion d).same (q.companion e) = true → p.same q = true ∧ d = e) ↔
      ¬Path.Clash p d q e) ∧
    ((∀ o ∈ assemble artifacts, ∃ a ∈ artifacts, o = ofOrigin artifacts a) ↔
      ∀ a ∈ artifacts, ∀ b ∈ artifacts, ¬a.Clash b) := by
  constructor
  · rw [Path.same_companion_iff_clash hp hq hd.slash_not_mem he.slash_not_mem]
    constructor
    · exact fun htells hclash => hclash.not_same hp hq (htells (Or.inr hclash))
    · exact fun hfree hsame => hsame.resolve_right hfree
  · constructor
    · exact fun hfiles a ha b hb => not_clash_of_ofOrigin h hfiles ha hb
    · exact fun hfree o ho => exists_ofOrigin h hfree ho

/-- Artifacts of one directive in sources of which one stem continues the other, and one is spelled
in two ways. -/
def alike : List Artifact :=
  [⟨⟨"src/a.rs"⟩, "c", "One", "struct One;\n"⟩, ⟨⟨"src/a_b.rs"⟩, "c", "Two", "struct Two;\n"⟩,
    ⟨⟨"src/./a.rs"⟩, "c", "Three", "struct Three;\n"⟩]

theorem companions_apart_iff_alike : (∀ a ∈ alike, a.WellMade) ∧
    ¬Path.Clash ⟨"src/a_b.rs"⟩ "c" ⟨"src/a.rs"⟩ "c" ∧ ∀ a ∈ alike, ∀ b ∈ alike, ¬a.Clash b := by
  have hwell : ∀ a ∈ alike, a.WellMade := by decide +kernel
  have hname : Directive.IsName "c".toList := by decide +kernel
  obtain ⟨hpaths, hfiles⟩ := @companions_apart_iff alike ⟨"src/a_b.rs"⟩ ⟨"src/a.rs"⟩ "c" "c"
    (by decide +kernel) (by decide +kernel) hname hname hwell
  exact ⟨hwell, hpaths.1 (by decide +kernel), hfiles.1 (by decide +kernel)⟩

/-- Artifacts of different directives in different sources, where one directive starts with the end
of the other's stem. -/
def borrowed : List Artifact :=
  [⟨⟨"src/a_b.rs"⟩, "c", "One", "struct One;\n"⟩, ⟨⟨"src/a.rs"⟩, "b_c", "Two", "struct Two;\n"⟩]

/-- Companions are not always told apart: two sources and directives that have nothing in common but
their directory have one file. -/
theorem assemble_merges_borrowed : (∀ a ∈ borrowed, a.WellMade) ∧
    ((⟨"src/a_b.rs"⟩ : Path).companion "c").same ((⟨"src/a.rs"⟩ : Path).companion "b_c") = true ∧
    (⟨"src/a_b.rs"⟩ : Path).same ⟨"src/a.rs"⟩ = false ∧ "c" ≠ "b_c" ∧
    assemble borrowed =
      [⟨⟨"src/a_b_c.rs"⟩, generatedMarker ++ "\n\nstruct One;\n\nstruct Two;\n"⟩] := by
  decide +kernel

end OutputFile
end Companion
