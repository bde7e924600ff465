import Mathlib
import Companion.Proofs.Generator

/-! Directives that no family knows.

A generator goes through the directives of a type in one pass, in which it reports the directives
that it does not know, refuses those that it has seen before, and makes artifacts of the others.
`supported` is the type without the directives of the first kind. What a directive of the others
gives (`Gives`), or why it fails (`Fails`), is said for each of them on its own.

`generate_ignores_unsupported`: the pass gives the artifacts, or the error, of the supported
directives, and one diagnostic for each of the others; and what it makes of the supported ones is
what they give one by one, up to the first that fails or repeats a name. The type without the others
gives the same where no family looks at them (`Overlooks`); a family that does lets them interfere
(`generate_heeds_unsupported`). -/
namespace Companion

/-- The family builds its data of the directive and of the type's name and kind, whatever else
stands on the type. -/
def Family.Focused (f : Family) : Prop :=
  ∀ (type : AnnotatedType) (ds : List Directive) (d : Directive),
    (f.build { type with directives := ds } d).result = (f.build type d).result

theorem Family.focused_messages : Family.messages.Focused := by
  intro type ds d
  rfl

theorem Family.focused_ofTemplate (name template : String) :
    (Family.ofTemplate name template).Focused := by
  intro type ds d
  rfl

theorem Generation.mk_append (a a' : List Artifact) (b b' : List Diagnostic) :
    (⟨a, b⟩ ++ ⟨a', b'⟩ : Generation) = ⟨a ++ a', b ++ b'⟩ := rfl

namespace Generator

/-- Whether a family knows the directive. -/
def supports (g : Generator) (d : Directive) : Bool := (g.family? d.name).isSome

/-- The type with those of its directives that a family knows. -/
def supported (g : Generator) (type : AnnotatedType) : AnnotatedType :=
  { type with directives := type.directives.filter g.supports }

/-- One diagnostic for each of the other directives. -/
def diagnosed (g : Generator) (file : Path) (type : AnnotatedType) (ds : List Directive) :
    List Diagnostic :=
  (ds.filter fun d => !g.supports d).map fun d => ⟨file, type.name, d.name⟩

/-- No family looks at the directives that the generator does not know. -/
def Overlooks (g : Generator) (type : AnnotatedType) : Prop :=
  ∀ d f, g.family? d.name = some f → (f.build (g.supported type) d).result = (f.build type d).result

theorem overlooks_of_focused {g : Generator} (h : ∀ f ∈ g.families, f.Focused)
    (type : AnnotatedType) :
    g.Overlooks type := by
  intro d f hf
  exact h f (family?_eq_some hf).1 type _ d

theorem supports_iff {g : Generator} {d : Directive} :
    g.supports d = true ↔ ∃ f, g.family? d.name = some f :=
  Option.isSome_iff_exists

theorem supports_eq_false_iff {g : Generator} {d : Directive} :
    g.supports d = false ↔ g.family? d.name = none :=
  Option.isSome_eq_false_iff.trans Option.isNone_iff_eq_none

/-! ### One directive -/

section
variable (g : Generator) (file : Path) (type : AnnotatedType) (d : Directive)

/-- What a known directive gives: an artifact, or nothing where its family builds no data. -/
inductive Gives : Option Artifact → Prop where
  | nothing {f : Family} : g.family? d.name = some f → (f.build type d).result = .ok none →
      Gives none
  | artifact {f : Family} {data : Value} {text : List Char} {body : String} :
      g.family? d.name = some f →
      (f.build type d).result = .ok (some data) → g.engine.chars f.name data = .ok text →
      Code.format? text = some body → Gives (some ⟨file, d.name, type.name, body⟩)

/-- Why a known directive fails: it builds no data that is right, or the data cannot be shown, or
what is shown is no code. -/
inductive Fails : GenerationError → Prop where
  | build {f : Family} {e : GenerationError} : g.family? d.name = some f →
      (f.build type d).result = .error e → Fails e
  | render {f : Family} {data : Value} {cause : RenderError} : g.family? d.name = some f →
      (f.build type d).result = .ok (some data) → g.engine.chars f.name data = .error cause →
      Fails (.render cause)
  | format {f : Family} {data : Value} {text : List Char} : g.family? d.name = some f →
      (f.build type d).result = .ok (some data) → g.engine.chars f.name data = .ok text →
      Code.format? text = none → Fails .formatting

/-- Why a directive stops the generation behind directives of the given names: it repeats one of
them, or it fails by itself. -/
inductive Offends (names : List String) : GenerationError → Prop where
  | repeated : d.name ∈ names → Offends names (.duplicateDirective type.name d.name)
  | fails {e : GenerationError} : d.name ∉ names → Fails g type d e → Offends names e

end

variable {g : Generator} {file : Path} {type : AnnotatedType} {d : Directive} {f : Family}

/-- A family that is applied gives what the directive gives, or fails as it does. -/
theorem apply_cases (file : Path) (type : AnnotatedType) (hf : g.family? d.name = some f) :
    (∃ made, Gives g file type d made ∧ (g.apply file type f d).result = .ok ⟨made.toList, []⟩) ∨
      ∃ e, Fails g type d e ∧ (g.apply file type f d).result = .error e := by
  rw [apply, Logged.result_bind]
  cases hbuild : (f.build type d).result with
  | error e => exact Or.inr ⟨e, .build hf hbuild, rfl⟩
  | ok data =>
    cases data with
    | none => exact Or.inl ⟨none, .nothing hf hbuild, rfl⟩
    | some data =>
      simp only [Except.bind, Logged.result_bind, Logged.result_ofExcept]
      cases hchars : g.engine.chars f.name data with
      | error cause =>
        have hbody : g.body f.name data = .error (.render cause) := by simp only [body, hchars]
        rw [hbody]
        exact Or.inr ⟨_, .render hf hbuild hchars, rfl⟩
      | ok text =>
        cases hformat : Code.format? text with
        | none =>
          have hbody : g.body f.name data = .error .formatting := by
            simp only [body, hchars, hformat]
          rw [hbody]
          exact Or.inr ⟨_, .format hf hbuild hchars hformat, rfl⟩
        | some code =>
          have hbody : g.body f.name data = .ok code := by simp only [body, hchars, hformat]
          rw [hbody]
          exact Or.inl ⟨_, .artifact hf hbuild hchars hformat, rfl⟩

theorem Gives.not_fails {made : Option Artifact} {e : GenerationError}
    (h : Gives g file type d made) :
    ¬ Fails g type d e := by
  intro hfails
  cases h with
  | nothing hf hbuild => cases hfails <;> simp_all
  | artifact hf hbuild hchars hformat => cases hfails <;> simp_all

theorem Gives.unique {made made' : Option Artifact} (h : Gives g file type d made)
    (h' : Gives g file type d made') : made = made' := by
  cases h with
  | nothing hf hbuild => cases h' <;> simp_all
  | artifact hf hbuild hchars hformat => cases h' <;> simp_all

theorem Fails.unique {e e' : GenerationError} (h : Fails g type d e) (h' : Fails g type d e') :
    e = e' := by
  cases h with
  | build hf hbuild => cases h' <;> simp_all
  | render hf hbuild hchars => cases h' <;> simp_all
  | format hf hbuild hchars hformat => cases h' <;> simp_all

theorem Offends.unique {names : List String} {e e' : GenerationError} (h : Offends g type d names e)
    (h' : Offends g type d names e') : e = e' := by
  cases h with
  | repeated hmem =>
    cases h' with
    | repeated _ => rfl
    | fails hnew _ => exact absurd hmem hnew
  | fails hnew hfails =>
    cases h' with
    | repeated hmem => exact absurd hmem hnew
    | fails _ hfails' => exact hfails.unique hfails'

theorem Offends.not_gives {names : List String} {e : GenerationError} (h : Offends g type d names e)
    (hnew : d.name ∉ names) {made : Option Artifact} : ¬ Gives g file type d made := by
  intro hgives
  cases h with
  | repeated hmem => exact hnew hmem
  | fails _ hfails => exact hgives.not_fails hfails

/-! ### The pass over the directives -/

variable {seen : List String} {ds : List Directive}

theorem result_generateFrom_unknown (hd : g.family? d.name = none) :
    (g.generateFrom file type seen (d :: ds)).result =
      (g.generateFrom file type seen ds).result.map (⟨[], [⟨file, type.name, d.name⟩]⟩ ++ ·) := by
  simp only [generateFrom, hd, Logged.result_bind, Logged.result_report, Except.bind]
  cases (g.generateFrom file type seen ds).result <;> rfl

theorem result_generateFrom_seen (hf : g.family? d.name = some f) (hseen : d.name ∈ seen) :
    (g.generateFrom file type seen (d :: ds)).result =
      .error (.duplicateDirective type.name d.name) := by
  simp [generateFrom, hf, hseen]

theorem result_generateFrom_new (hf : g.family? d.name = some f) (hnew : d.name ∉ seen) :
    (g.generateFrom file type seen (d :: ds)).result =
      (g.apply file type f d).result.bind fun first =>
      (g.generateFrom file type (d.name :: seen) ds).result.map (first ++ ·) := by
  simp only [generateFrom, hf, List.contains_iff_mem, hnew, if_false, Logged.result_bind]
  congr

/-- A known directive offends and ends the pass, or the pass goes on with what it gives. -/
theorem result_generateFrom_known (file : Path) (type : AnnotatedType) (seen : List String)
    (hd : g.supports d = true) :
    (∃ e, Offends g type d seen e ∧
      ∀ ds, (g.generateFrom file type seen (d :: ds)).result = .error e) ∨
      d.name ∉ seen ∧ ∃ made, Gives g file type d made ∧
        ∀ ds, (g.generateFrom file type seen (d :: ds)).result =
        (g.generateFrom file type (d.name :: seen) ds).result.map (⟨made.toList, []⟩ ++ ·) := by
  obtain ⟨f, hf⟩ := supports_iff.1 hd
  by_cases hseen : d.name ∈ seen
  · exact Or.inl ⟨_, .repeated hseen, fun ds => result_generateFrom_seen hf hseen⟩
  · rcases apply_cases file type hf with ⟨made, hmade, happly⟩ | ⟨e, hfails, happly⟩
    · refine Or.inr ⟨hseen, made, hmade, fun ds => ?_⟩
      rw [result_generateFrom_new hf hseen, happly]
      rfl
    · refine Or.inl ⟨e, .fails hseen hfails, fun ds => ?_⟩
      rw [result_generateFrom_new hf hseen, happly]
      rfl

/-- **A pass over directives is a pass over those that are known**, with a diagnostic for each of
the others. -/
theorem result_generateFrom_filter (g : Generator) (file : Path) (type : AnnotatedType)
    (seen : List String) (ds : List Directive) :
    (g.generateFrom file type seen ds).result =
      (g.generateFrom file type seen (ds.filter g.supports)).result.map fun out =>
        ⟨out.artifacts, g.diagnosed file type ds⟩ := by
  induction ds generalizing seen with
  | nil => rfl
  | cons d ds ih =>
    cases hd : g.supports d with
    | false =>
      rw [result_generateFrom_unknown (supports_eq_false_iff.1 hd), ih seen,
        List.filter_cons_of_neg (by simp [hd])]
      cases (g.generateFrom file type seen (ds.filter g.supports)).result with
      | error e => rfl
      | ok out => simp [Except.map, Generation.mk_append, diagnosed, hd]
    | true =>
      rw [List.filter_cons_of_pos hd]
      rcases result_generateFrom_known file type seen hd with ⟨e, -, hstep⟩ | ⟨-, made, -, hstep⟩
      · rw [hstep, hstep]
        rfl
      · rw [hstep, hstep, ih]
        cases (g.generateFrom file type (d.name :: seen) (ds.filter g.supports)).result with
        | error e => rfl
        | ok out => simp [Except.map, Generation.mk_append, diagnosed, hd]

/-- The pass comes to the end of the directives: their names are new, and each gives something or
nothing. -/
structure Passes (g : Generator) (file : Path) (type : AnnotatedType) (seen : List String)
    (ds : List Directive) : Prop where
  nodup : (ds.map Directive.name).Nodup
  new : ∀ d ∈ ds, d.name ∉ seen
  gives : ∀ d ∈ ds, ∃ made, Gives g file type d made

theorem passes_nil : Passes g file type seen [] := ⟨List.nodup_nil, by simp, by simp⟩

theorem gives_of_forall₂ {made : List (Option Artifact)}
    (h : List.Forall₂ (Gives g file type) ds made) :
    ∀ d ∈ ds, ∃ m, Gives g file type d m := by
  induction h with
  | nil => simp
  | cons hfirst _ ih =>
    rw [List.forall_mem_cons]
    exact ⟨⟨_, hfirst⟩, ih⟩

theorem passes_cons_iff : Passes g file type seen (d :: ds) ↔
    d.name ∉ seen ∧ (∃ made, Gives g file type d made) ∧
      Passes g file type (d.name :: seen) ds := by
  constructor
  · rintro ⟨hnodup, hnew, hgives⟩
    rw [List.map_cons, List.nodup_cons] at hnodup
    refine ⟨hnew d List.mem_cons_self, hgives d List.mem_cons_self, hnodup.2, fun c hc => ?_,
      fun c hc => hgives c (List.mem_cons_of_mem d hc)⟩
    rw [List.mem_cons, not_or]
    refine ⟨fun heq => hnodup.1 ?_, hnew c (List.mem_cons_of_mem d hc)⟩
    exact heq ▸ List.mem_map_of_mem hc
  · rintro ⟨hnew, hgives, hnodup, hrest, hall⟩
    refine ⟨?_, ?_, ?_⟩
    · rw [List.map_cons, List.nodup_cons]
      refine ⟨fun hmem => ?_, hnodup⟩
      obtain ⟨c, hc, heq⟩ := List.mem_map.1 hmem
      exact hrest c hc (heq ▸ List.mem_cons_self)
    · rw [List.forall_mem_cons]
      exact ⟨hnew, fun c hc hseen => hrest c hc (List.mem_cons_of_mem _ hseen)⟩
    · rw [List.forall_mem_cons]
      exact ⟨hgives, hall⟩

theorem Offends.of_mem_iff {names names' : List String} {e : GenerationError}
    (h : Offends g type d names e) (hsame : d.name ∈ names ↔ d.name ∈ names') :
    Offends g type d names' e := by
  cases h with
  | repeated hmem => exact .repeated (hsame.1 hmem)
  | fails hnew hfails => exact .fails (fun hmem => hnew (hsame.2 hmem)) hfails

/-- The pass stops at a directive that offends, behind directives that it passes. -/
def Stops (g : Generator) (file : Path) (type : AnnotatedType) (seen : List String)
    (ds : List Directive) (e : GenerationError) : Prop :=
  ∃ before d behind, ds = before ++ d :: behind ∧ Passes g file type seen before ∧
    Offends g type d (before.map Directive.name ++ seen) e

/-- The first directive offends, or it is passed and a later one offends. -/
theorem stops_cons_iff {e : GenerationError} : Stops g file type seen (d :: ds) e ↔
    Offends g type d seen e ∨
    (d.name ∉ seen ∧ ∃ made, Gives g file type d made) ∧
      Stops g file type (d.name :: seen) ds e := by
  constructor
  · rintro ⟨_ | ⟨c, before⟩, d', behind, heq, hpasses, hoffends⟩
    · obtain ⟨rfl, rfl⟩ := List.cons.inj heq
      exact Or.inl hoffends
    · obtain ⟨rfl, rfl⟩ := List.cons.inj heq
      obtain ⟨hnew, hgives, hpasses⟩ := passes_cons_iff.1 hpasses
      refine Or.inr ⟨⟨hnew, hgives⟩, before, d', behind, rfl, hpasses, hoffends.of_mem_iff ?_⟩
      simp only [List.map_cons, List.cons_append, List.mem_cons, List.mem_append]
      tauto
  · rintro (hoffends | ⟨⟨hnew, hgives⟩, before, d', behind, rfl, hpasses, hoffends⟩)
    · exact ⟨[], d, ds, rfl, passes_nil, hoffends⟩
    · refine ⟨d :: before, d', behind, rfl, passes_cons_iff.2 ⟨hnew, hgives, hpasses⟩,
        hoffends.of_mem_iff ?_⟩
      simp only [List.map_cons, List.cons_append, List.mem_cons, List.mem_append]
      tauto

/-- A pass over known directives succeeds when it comes to their end. -/
theorem result_generateFrom_eq_ok_iff (hds : ∀ d ∈ ds, g.supports d = true) {out : Generation} :
    (g.generateFrom file type seen ds).result = .ok out ↔ Passes g file type seen ds ∧
      ∃ made, List.Forall₂ (Gives g file type) ds made ∧ out = ⟨made.reduceOption, []⟩ := by
  induction ds generalizing seen out with
  | nil =>
    constructor
    · intro h
      exact ⟨passes_nil, [], .nil, (Except.ok.inj h).symm⟩
    · rintro ⟨-, made, hmade, rfl⟩
      cases hmade
      rfl
  | cons d ds ih =>
    rw [List.forall_mem_cons] at hds
    rw [passes_cons_iff]
    rcases result_generateFrom_known file type seen hds.1 with
      ⟨e, hoffends, hstep⟩ | ⟨hnew, first, hfirst, hstep⟩
    · rw [hstep]
      constructor
      · intro h
        cases h
      · rintro ⟨⟨hnew, ⟨made, hmade⟩, -⟩, -⟩
        exact absurd hmade (hoffends.not_gives hnew)
    · rw [hstep]
      constructor
      · intro h
        cases hrest : (g.generateFrom file type (d.name :: seen) ds).result with
        | error e =>
          rw [hrest] at h
          cases h
        | ok rest =>
          rw [hrest] at h
          obtain ⟨hpasses, made, hmade, rfl⟩ := (ih hds.2).1 hrest
          refine ⟨⟨hnew, ⟨first, hfirst⟩, hpasses⟩, first :: made, .cons hfirst hmade, ?_⟩
          rw [← Except.ok.inj h]
          cases first <;> rfl
      · rintro ⟨⟨-, -, hpasses⟩, _ | ⟨first', made⟩, hmade, rfl⟩
        · cases hmade
        · obtain ⟨hfirst', hrest⟩ := List.forall₂_cons.1 hmade
          obtain rfl := hfirst.unique hfirst'
          rw [(ih hds.2).2 ⟨hpasses, made, hrest, rfl⟩]
          cases first <;> rfl

/-- It fails at the first directive that offends. -/
theorem result_generateFrom_eq_error_iff (hds : ∀ d ∈ ds, g.supports d = true)
    {e : GenerationError} :
    (g.generateFrom file type seen ds).result = .error e ↔ Stops g file type seen ds e := by
  induction ds generalizing seen with
  | nil =>
    constructor
    · intro h
      cases h
    · rintro ⟨before, d, behind, heq, -⟩
      simp at heq
  | cons d ds ih =>
    rw [List.forall_mem_cons] at hds
    rw [stops_cons_iff]
    rcases result_generateFrom_known file type seen hds.1 with
      ⟨e', hoffends, hstep⟩ | ⟨hnew, first, hfirst, hstep⟩
    · rw [hstep]
      constructor
      · intro h
        obtain rfl := Except.error.inj h
        exact Or.inl hoffends
      · rintro (hoffends' | ⟨⟨hnew, made, hmade⟩, -⟩)
        · rw [hoffends.unique hoffends']
        · exact absurd hmade (hoffends.not_gives hnew)
    · have hrest : (g.generateFrom file type seen (d :: ds)).result = .error e ↔
          (g.generateFrom file type (d.name :: seen) ds).result = .error e := by
        rw [hstep]
        cases (g.generateFrom file type (d.name :: seen) ds).result <;> simp [Except.map]
      rw [hrest, ih hds.2]
      constructor
      · intro h
        exact Or.inr ⟨⟨hnew, first, hfirst⟩, h⟩
      · rintro (hoffends | ⟨-, h⟩)
        · exact absurd hfirst (hoffends.not_gives hnew)
        · exact h

/-! ### Types -/

theorem supports_of_mem_supported (hd : d ∈ (g.supported type).directives) : g.supports d = true :=
  (List.mem_filter.1 hd).2

/-- Families that overlook the unsupported directives make the same of the others without them. -/
theorem Overlooks.result_generateFrom (h : g.Overlooks type) (file : Path) (seen : List String)
    (ds : List Directive) :
    (g.generateFrom file (g.supported type) seen ds).result =
      (g.generateFrom file type seen ds).result := by
  induction ds generalizing seen with
  | nil => rfl
  | cons d ds ih =>
    cases hf : g.family? d.name with
    | none => rw [result_generateFrom_unknown hf, result_generateFrom_unknown hf, ih]; rfl
    | some f =>
      by_cases hseen : d.name ∈ seen
      · rw [result_generateFrom_seen hf hseen, result_generateFrom_seen hf hseen]; rfl
      · have happly : (g.apply file (g.supported type) f d).result =
          (g.apply file type f d).result := by
          rw [apply, apply, Logged.result_bind, Logged.result_bind, h d f hf]
          rfl
        rw [result_generateFrom_new hf hseen, result_generateFrom_new hf hseen, happly, ih]

/-- **Directives that no family knows do not interfere with the others.** Whatever the families look
at, the pass over all directives is the pass over the known ones, with a diagnostic for each of the
others in their order; and where no family looks at the others, as those for messages and templates
never do, it is what the type gives without them. Without them it succeeds when no name is repeated
and each directive gives something or nothing, with the artifacts that they give; otherwise it fails
for the first that repeats a name, also that of one that gave nothing, or fails by itself. -/
theorem generate_ignores_unsupported (g : Generator) (file : Path) (type : AnnotatedType) :
    (g.generate file type).result =
      (g.generateFrom file type [] (g.supported type).directives).result.map
        (fun out => ⟨out.artifacts, g.diagnosed file type type.directives⟩) ∧
      ((∀ f ∈ g.families, f = .messages ∨ ∃ name template, f = .ofTemplate name template) →
        g.Overlooks type) ∧
      (g.Overlooks type → (g.generate file type).result =
        (g.generate file (g.supported type)).result.map
        fun out => ⟨out.artifacts, g.diagnosed file type type.directives⟩) ∧
      (∀ out, (g.generate file (g.supported type)).result = .ok out ↔
        ((g.supported type).directives.map Directive.name).Nodup ∧ ∃ made,
          List.Forall₂ (Gives g file (g.supported type)) (g.supported type).directives made ∧
            out = ⟨made.reduceOption, []⟩) ∧
      ∀ e, (g.generate file (g.supported type)).result = .error e ↔ ∃ before d behind,
        (g.supported type).directives = before ++ d :: behind ∧ (before.map Directive.name).Nodup ∧
          (∀ c ∈ before, ∃ made, Gives g file (g.supported type) c made) ∧
            Offends g (g.supported type) d (before.map Directive.name) e := by
  have hall := result_generateFrom_filter g file type [] type.directives
  refine ⟨hall, fun h => ?_, fun h => ?_, fun out => ?_, fun e => ?_⟩
  · refine overlooks_of_focused (fun f hf => ?_) type
    rcases h f hf with rfl | ⟨name, template, rfl⟩
    · exact Family.focused_messages
    · exact Family.focused_ofTemplate name template
  · rw [generate, generate, h.result_generateFrom]
    exact hall
  · rw [generate, result_generateFrom_eq_ok_iff fun d => supports_of_mem_supported]
    constructor
    · rintro ⟨hpasses, hmade⟩
      exact ⟨hpasses.nodup, hmade⟩
    · rintro ⟨hnodup, made, hmade, rfl⟩
      exact ⟨⟨hnodup, by simp, gives_of_forall₂ hmade⟩, made, hmade, rfl⟩
  · rw [generate, result_generateFrom_eq_error_iff fun d => supports_of_mem_supported, Stops]
    simp only [List.append_nil]
    constructor
    · rintro ⟨before, d, behind, heq, hpasses, hoffends⟩
      exact ⟨before, d, behind, heq, hpasses.nodup, hpasses.gives, hoffends⟩
    · rintro ⟨before, d, behind, heq, hnodup, hgives, hoffends⟩
      exact ⟨before, d, behind, heq, ⟨hnodup, by simp, hgives⟩, hoffends⟩

/-- Of two families one gives an artifact and the other nothing; a directive that neither knows
stands among theirs, twice; and then the second family is asked again. -/
theorem generate_ignores_unsupported_again :
    let g : Generator := ⟨⟨[("marker", .text "impl ".toList (.value ["type_name"]
        (.text " \x7b pub const MARKER: &'static str = ".toList
          (.call "rust_literal" [.path ["name"]] (.text "; \x7d".toList .done)))))]⟩,
      [.messages, .ofTemplate "marker" ("impl " ++ Template.tagged "type_name" ++
        " \x7b pub const MARKER: &'static str = " ++ Template.tagged "rust_literal name" ++
          "; \x7d")]⟩
    let marker : Directive := ⟨"marker", [⟨"name", .text "gone"⟩]⟩
    let type : AnnotatedType :=
  ⟨"Gone", .aggregate, [⟨"audit", []⟩, ⟨"i18n", []⟩, marker, ⟨"audit", []⟩]⟩
    let again : AnnotatedType := { type with directives := type.directives ++ [⟨"i18n", []⟩] }
    let file : Path := ⟨"src/errors.rs"⟩
    let body := "impl Gone \x7b\n    pub const MARKER: &'static str = \"gone\";\n\x7d\n"
    g.Overlooks type ∧ g.Overlooks again ∧
      (g.generate file type).result = .ok ⟨[⟨file, "marker", "Gone", body⟩],
        [⟨file, "Gone", "audit"⟩, ⟨file, "Gone", "audit"⟩]⟩ ∧
      (g.generate file again).result = .error (.duplicateDirective "Gone" "i18n") := by
  intro g marker type again file body
  have hfamilies :
  ∀ f ∈ g.families, f = .messages ∨ ∃ name template, f = .ofTemplate name template := by
    rw [List.forall_mem_cons, List.forall_mem_singleton]
    exact ⟨Or.inl rfl, Or.inr ⟨_, _, rfl⟩⟩
  obtain ⟨-, hoverlooks, hsame, hok, -⟩ := generate_ignores_unsupported g file type
  obtain ⟨-, hoverlooks', hsame', -, herror⟩ := generate_ignores_unsupported g file again
  have hnone (ds : List Directive) : Gives g file ⟨"Gone", .aggregate, ds⟩ ⟨"i18n", []⟩ none :=
    @Gives.nothing _ _ _ _ .messages rfl rfl
  have hchars (ds : List Directive) :
      g.engine.chars "marker" (Family.namedData ⟨"Gone", .aggregate, ds⟩ ⟨"name", .text "gone"⟩) =
        .ok "impl Gone \x7b pub const MARKER: &'static str = \"gone\"; \x7d".toList := by cbv
  have hformat :
  Code.format? "impl Gone \x7b pub const MARKER: &'static str = \"gone\"; \x7d".toList =
    some body := by
    decide +kernel
  have hmarker (ds : List Directive) : Gives g file ⟨"Gone", .aggregate, ds⟩ marker
      (some ⟨file, "marker", "Gone", body⟩) := .artifact rfl rfl (hchars ds) hformat
  have htype : (g.supported type).directives = [⟨"i18n", []⟩, marker] := by decide +kernel
  have hagain : (g.supported again).directives = [⟨"i18n", []⟩, marker] ++ [⟨"i18n", []⟩] := by
    decide +kernel
  have hnames : ([⟨"i18n", []⟩, marker].map Directive.name).Nodup := by decide
  refine ⟨hoverlooks hfamilies, hoverlooks' hfamilies, ?_, ?_⟩
  · have hmade := (hok ⟨[⟨file, "marker", "Gone", body⟩], []⟩).2
      ⟨by rw [htype]; exact hnames, [none, some _], by
        rw [htype]; exact .cons (hnone _) (.cons (hmarker _) .nil), rfl⟩
    rw [hsame (hoverlooks hfamilies), hmade]
    rfl
  · have hmade := (herror (.duplicateDirective "Gone" "i18n")).2
      ⟨[⟨"i18n", []⟩, marker], ⟨"i18n", []⟩, [], hagain, hnames, by
        simp only [List.forall_mem_cons]
        exact ⟨⟨_, hnone _⟩, ⟨_, hmarker _⟩, by simp⟩, .repeated (by decide)⟩
    rw [hsame' (hoverlooks' hfamilies), hmade]
    rfl

end Generator

/-- A family that asks for nothing, and takes no type on which another directive stands. -/
def Family.sole : Family where
  name := "sole"
  template := []
  build type d :=
    if type.directives.length = 1 then pure none
    else Logged.fail (.duplicateDirective type.name d.name)

namespace Generator

/-- **A family that looks at the other directives lets them interfere.** The type is refused for a
directive that no family knows, and taken without it. -/
theorem generate_heeds_unsupported : ∃ g file type e, ofFamilies [.sole] = .ok g ∧
    (g.generate file type).result = .error e ∧
    (g.generate file (g.supported type)).result = .ok .empty := by
  refine ⟨⟨⟨[("sole", .done)]⟩, [.sole]⟩, ⟨"src/errors.rs"⟩,
    ⟨"Gone", .aggregate, [⟨"sole", []⟩, ⟨"audit", []⟩]⟩, .duplicateDirective "Gone" "sole",
    ?_, ?_, ?_⟩
  · rfl
  · rfl
  · rfl

end Generator
end Companion
