import Mathlib
import Companion.Generator
import Companion.Proofs.Family.Messages

/-! What a generator gives for a type. A generator made of families knows each of them by its name
and its template (`knows_of_ofFamilies`). Every artifact comes from one directive that a family
knows (`exists_apply_of_mem`), and such a directive stands on the type once (`directive_unique`). -/
namespace Companion.Generator

/-! ### Families -/

theorem family?_eq_some {g : Generator} {name : String} {f : Family} (h : g.family? name = some f) :
    f ∈ g.families ∧ f.name = name :=
  ⟨List.mem_of_find?_eq_some h, by simpa using List.find?_some h⟩

/-- The standard generator, with the template of message tables compiled. -/
def compiledStandard : Generator :=
  ⟨⟨[("i18n", MessageTable.blockTemplate MessageTable.instanceTemplate)]⟩, [.messages]⟩

theorem standard_eq : standard = .ok compiledStandard := by
  have hadd : empty.engine.add Family.messages.name Family.messages.template =
      some compiledStandard.engine := by
    rw [Engine.add, MessageTable.compile_messages]
    rfl
  have hregister : empty.register .messages = (.ok (), compiledStandard) := by
    rw [register, if_neg (by decide), addTemplate, hadd]
    rfl
  rw [standard, ofFamilies, registerAll, hregister]
  rfl

/-- The standard generator knows message tables and nothing else. -/
theorem standard_families {g : Generator} (h : standard = .ok g) : g.families = [.messages] := by
  rw [standard_eq] at h
  obtain rfl := Except.ok.inj h
  rfl

theorem standard_family? {g : Generator} (h : standard = .ok g) {name : String} {f : Family}
    (hf : g.family? name = some f) : f = .messages ∧ name = "i18n" := by
  obtain ⟨hmem, hname⟩ := family?_eq_some hf
  rw [standard_families h] at hmem
  obtain rfl := List.mem_singleton.1 hmem
  exact ⟨rfl, hname.symm⟩

/-! ### Registering -/

/-- The name is one of a family, or of a template. -/
def IsTaken (g : Generator) (name : String) : Prop :=
  ((g.family? name).isSome || g.engine.has name) = true

/-- **All that registering can do.** A family is refused for its name or for its template, and
leaves the generator that was there; or its template and the family itself are added. -/
theorem register_cases (g : Generator) (f : Family) :
    (g.IsTaken f.name ∧ g.register f = (.error (.duplicateFamily f.name), g)) ∨
    (¬g.IsTaken f.name ∧ Template.compile f.template = none ∧
      g.register f = (.error (.invalidTemplate f.name), g)) ∨
    ¬g.IsTaken f.name ∧ ∃ t, Template.compile f.template = some t ∧
      g.register f = (.ok (), ⟨⟨(f.name, t) :: g.engine.templates⟩, g.families ++ [f]⟩) := by
  by_cases htaken : g.IsTaken f.name
  · exact Or.inl ⟨htaken, if_pos htaken⟩
  · cases hcompile : Template.compile f.template with
    | none =>
      have hadd : g.addTemplate f = (.error (.invalidTemplate f.name), g) := by
        simp [addTemplate, Engine.add, hcompile]
      refine Or.inr (Or.inl ⟨htaken, rfl, (if_neg htaken).trans ?_⟩)
      rw [hadd]
    | some t =>
      have hadd : g.addTemplate f =
          (.ok (), { g with engine := ⟨(f.name, t) :: g.engine.templates⟩ }) := by
        simp [addTemplate, Engine.add, hcompile]
      refine Or.inr (Or.inr ⟨htaken, t, rfl, (if_neg htaken).trans ?_⟩)
      rw [hadd]
      rfl

theorem register_eq_ok {g made : Generator} {f : Family} (h : g.register f = (.ok (), made)) :
    g.family? f.name = none ∧ ∃ t, Template.compile f.template = some t ∧
      made = ⟨⟨(f.name, t) :: g.engine.templates⟩, g.families ++ [f]⟩ := by
  rcases register_cases g f with ⟨-, hr⟩ | ⟨-, -, hr⟩ | ⟨hfree, t, ht, hr⟩
  · rw [hr] at h
    cases h
  · rw [hr] at h
    cases h
  · have hnone : g.family? f.name = none := by
      rw [IsTaken, Bool.or_eq_true, not_or] at hfree
      simpa using hfree.1
    rw [hr] at h
    exact ⟨hnone, t, ht, (Prod.mk.inj h).2.symm⟩

/-- A refused family leaves both stores as they were. -/
theorem register_eq_error {g left : Generator} {f : Family} {cause : GenerationError}
    (h : g.register f = (.error cause, left)) : left = g := by
  rcases register_cases g f with ⟨-, hr⟩ | ⟨-, -, hr⟩ | ⟨-, t, -, hr⟩
  · exact (Prod.mk.inj (h.symm.trans hr)).2
  · exact (Prod.mk.inj (h.symm.trans hr)).2
  · rw [hr] at h
    cases h

/-- Families are registered in turn when the first is, and the others behind it. -/
theorem registerAll_cons_eq_ok {g made : Generator} {f : Family} {families : List Family}
    (h : g.registerAll (f :: families) = (.ok (), made)) :
    ∃ next, g.register f = (.ok (), next) ∧ next.registerAll families = (.ok (), made) := by
  rw [registerAll] at h
  split at h
  · cases h
  · next next hr => exact ⟨next, hr, h⟩

theorem ofFamilies_eq_ok_iff {g : Generator} {families : List Family} :
    ofFamilies families = .ok g ↔ empty.registerAll families = (.ok (), g) := by
  rw [ofFamilies]
  split
  · next hr => simp [hr]
  · next made hr => simp [hr]

/-- The generator has the family under its name, with its template. -/
def Knows (g : Generator) (f : Family) : Prop :=
  g.family? f.name = some f ∧ g.engine.template? f.name = Template.compile f.template

theorem knows_of_register {g made : Generator} {f : Family} (h : g.register f = (.ok (), made)) :
    made.Knows f := by
  obtain ⟨hnone, t, ht, rfl⟩ := register_eq_ok h
  rw [family?] at hnone
  constructor
  · simp [family?, List.find?_append, hnone]
  · simp [Engine.template?, ht]

theorem Knows.register {g made : Generator} {f other : Family} (hf : g.Knows f)
    (h : g.register other = (.ok (), made)) : made.Knows f := by
  obtain ⟨hnone, t, -, rfl⟩ := register_eq_ok h
  obtain ⟨hfamily, htemplate⟩ := hf
  have hne : f.name ≠ other.name := by
    intro heq
    rw [← heq, hfamily] at hnone
    cases hnone
  rw [family?] at hfamily
  constructor
  · simp [family?, List.find?_append, hfamily]
  · have hskip : (f.name == other.name) = false := by simpa using hne
    rw [← htemplate]
    simp [Engine.template?, List.lookup, hskip]

theorem knows_of_registerAll {families : List Family} {g made : Generator} {f : Family}
    (h : g.registerAll families = (.ok (), made)) (hf : g.Knows f ∨ f ∈ families) :
    made.Knows f := by
  induction families generalizing g with
  | nil =>
    obtain rfl : g = made := (Prod.mk.inj h).2
    exact hf.resolve_right List.not_mem_nil
  | cons first families ih =>
    obtain ⟨next, hnext, h⟩ := registerAll_cons_eq_ok h
    refine ih h ?_
    rcases hf with hf | hf
    · exact Or.inl (hf.register hnext)
    · rcases List.mem_cons.1 hf with rfl | hf
      · exact Or.inl (knows_of_register hnext)
      · exact Or.inr hf

theorem knows_of_ofFamilies {families : List Family} {g : Generator}
    (h : ofFamilies families = .ok g) {f : Family} (hf : f ∈ families) : g.Knows f :=
  knows_of_registerAll (ofFamilies_eq_ok_iff.1 h) (Or.inr hf)

/-- A body is the layout of the code that the rendered text holds. -/
theorem body_eq_ok_iff {g : Generator} {family : String} {data : Value} {body : String} :
    g.body family data = .ok body ↔ ∃ text code, g.engine.chars family data = .ok text ∧
      Code.read? text = some code ∧ body = String.ofList code.layout := by
  rw [Generator.body]
  cases g.engine.chars family data with
  | error cause => simp
  | ok text => cases hread : Code.read? text <;> simp [Code.format?, hread, eq_comm]

/-! ### One directive -/

/-- A family gives at most one artifact, in the name of its file and directive. -/
theorem mem_apply {g : Generator} {file : Path} {type : AnnotatedType} {f : Family} {d : Directive}
    {out : Generation} (h : (g.apply file type f d).result = .ok out) {a : Artifact}
    (ha : a ∈ out.artifacts) :
    out = ⟨[a], []⟩ ∧ a.source = file ∧ a.directive = d.name ∧ a.type = type.name ∧
      ∃ data, (f.build type d).result = .ok (some data) ∧ g.body f.name data = .ok a.body := by
  obtain ⟨data, hdata, h⟩ := Logged.result_bind_eq_ok_iff.1 h
  cases data with
  | none =>
    obtain ⟨-, -, h⟩ := Logged.result_bind_eq_ok_iff.1 h
    obtain rfl := Except.ok.inj h
    simp [Generation.empty] at ha
  | some data =>
    obtain ⟨body, hbody, h⟩ := Logged.result_bind_eq_ok_iff.1 h
    obtain ⟨-, -, h⟩ := Logged.result_bind_eq_ok_iff.1 h
    obtain rfl := Except.ok.inj h
    obtain rfl := List.mem_singleton.1 ha
    exact ⟨rfl, rfl, rfl, rfl, data, hdata, hbody⟩

/-! ### All directives of a type -/

/-- One directive in front of others: unknown, or known and not seen before. -/
theorem generateFrom_cons {g : Generator} {file : Path} {type : AnnotatedType} {seen : List String}
    {d : Directive} {ds : List Directive} {out : Generation}
    (h : (g.generateFrom file type seen (d :: ds)).result = .ok out) :
    (g.family? d.name = none ∧ ∃ rest, (g.generateFrom file type seen ds).result = .ok rest ∧
      out = ⟨[], [⟨file, type.name, d.name⟩]⟩ ++ rest) ∨
    ∃ f first rest, g.family? d.name = some f ∧ d.name ∉ seen ∧
      (g.apply file type f d).result = .ok first ∧
      (g.generateFrom file type (d.name :: seen) ds).result = .ok rest ∧ out = first ++ rest := by
  rw [generateFrom] at h
  split at h
  · next hnone =>
    obtain ⟨-, -, h⟩ := Logged.result_bind_eq_ok_iff.1 h
    obtain ⟨rest, hrest, h⟩ := Logged.result_bind_eq_ok_iff.1 h
    exact Or.inl ⟨hnone, rest, hrest, (Except.ok.inj h).symm⟩
  · next f hf =>
    split at h
    · cases h
    · next hseen =>
      obtain ⟨first, hfirst, h⟩ := Logged.result_bind_eq_ok_iff.1 h
      obtain ⟨rest, hrest, h⟩ := Logged.result_bind_eq_ok_iff.1 h
      exact Or.inr ⟨f, first, rest, hf, by simpa using hseen, hfirst, hrest, (Except.ok.inj h).symm⟩

/-- An artifact comes from a directive that a family knows. -/
theorem exists_apply_of_mem {g : Generator} {file : Path} {type : AnnotatedType}
    {seen : List String} {ds : List Directive} {out : Generation}
    (h : (g.generateFrom file type seen ds).result = .ok out) {a : Artifact}
    (ha : a ∈ out.artifacts) :
    ∃ d ∈ ds, ∃ f, g.family? d.name = some f ∧ (g.apply file type f d).result = .ok ⟨[a], []⟩ := by
  induction ds generalizing seen out with
  | nil =>
    obtain rfl := Except.ok.inj h
    simp [Generation.empty] at ha
  | cons d ds ih =>
    rcases generateFrom_cons h with
      ⟨-, rest, hrest, rfl⟩ | ⟨f, first, rest, hf, -, hfirst, hrest, rfl⟩
    · obtain ⟨e, he, hmade⟩ := ih hrest ha
      exact ⟨e, List.mem_cons_of_mem d he, hmade⟩
    · rcases List.mem_append.1 ha with ha | ha
      · obtain ⟨rfl, -⟩ := mem_apply hfirst ha
        exact ⟨d, List.mem_cons_self, f, hf, hfirst⟩
      · obtain ⟨e, he, hmade⟩ := ih hrest ha
        exact ⟨e, List.mem_cons_of_mem d he, hmade⟩

theorem not_seen {g : Generator} {file : Path} {type : AnnotatedType} {seen : List String}
    {ds : List Directive} {out : Generation}
    (h : (g.generateFrom file type seen ds).result = .ok out) {d : Directive} (hd : d ∈ ds)
    {f : Family} (hf : g.family? d.name = some f) :
    d.name ∉ seen := by
  induction ds generalizing seen out with
  | nil => cases hd
  | cons e ds ih =>
    rcases generateFrom_cons h with
      ⟨hnone, rest, hrest, -⟩ | ⟨f', first, rest, hf', hseen, -, hrest, -⟩
    · rcases List.mem_cons.1 hd with rfl | hd
      · rw [hnone] at hf; cases hf
      · exact ih hrest hd
    · rcases List.mem_cons.1 hd with rfl | hd
      · exact hseen
      · exact fun hmem => ih hrest hd (List.mem_cons_of_mem e.name hmem)

/-- A directive that a family knows stands on a type once. -/
theorem directive_unique {g : Generator} {file : Path} {type : AnnotatedType} {seen : List String}
    {ds : List Directive} {out : Generation}
    (h : (g.generateFrom file type seen ds).result = .ok out) {d e : Directive} (hd : d ∈ ds)
    (he : e ∈ ds) {f : Family} (hf : g.family? d.name = some f) (hname : d.name = e.name) :
    d = e := by
  induction ds generalizing seen out with
  | nil => cases hd
  | cons c ds ih =>
    rcases generateFrom_cons h with
      ⟨hnone, rest, hrest, -⟩ | ⟨f', first, rest, hf', hseen, -, hrest, -⟩
    · rcases List.mem_cons.1 hd with rfl | hd'
      · rw [hnone] at hf; cases hf
      · rcases List.mem_cons.1 he with rfl | he'
        · rw [hname, hnone] at hf; cases hf
        · exact ih hrest hd' he'
    · rcases List.mem_cons.1 hd with rfl | hd'
      · rcases List.mem_cons.1 he with rfl | he'
        · rfl
        · exact absurd List.mem_cons_self (hname ▸ not_seen hrest he' (hname ▸ hf))
      · rcases List.mem_cons.1 he with rfl | he'
        · exact absurd List.mem_cons_self (hname ▸ not_seen hrest hd' hf)
        · exact ih hrest hd' he'

/-! ### All types of a file -/

/-- An artifact of a file is in the name of the file and of a directive on one of its types, which a
family knows. -/
theorem mem_generateAll {g : Generator} {file : Path} {types : List AnnotatedType}
    {out : Generation} (h : (g.generateAll file types).result = .ok out) {a : Artifact}
    (ha : a ∈ out.artifacts) :
    a.source = file ∧ (∃ type ∈ types, ∃ d ∈ type.directives, a.directive = d.name) ∧
      ∃ f, g.family? a.directive = some f := by
  induction types generalizing out with
  | nil =>
    obtain rfl := Except.ok.inj h
    simp [Generation.empty] at ha
  | cons type types ih =>
    obtain ⟨first, hfirst, h⟩ := Logged.result_bind_eq_ok_iff.1 h
    obtain ⟨rest, hrest, h⟩ := Logged.result_bind_eq_ok_iff.1 h
    obtain rfl := Except.ok.inj h
    rcases List.mem_append.1 ha with ha | ha
    · obtain ⟨d, hd, f, hf, happly⟩ := exists_apply_of_mem hfirst ha
      obtain ⟨-, hsource, hdirective, -⟩ := mem_apply happly List.mem_cons_self
      exact ⟨hsource, ⟨type, List.mem_cons_self, d, hd, hdirective⟩, f, hdirective ▸ hf⟩
    · obtain ⟨hsource, ⟨type', htype', hd⟩, hf⟩ := ih hrest ha
      exact ⟨hsource, ⟨type', List.mem_cons_of_mem type htype', hd⟩, hf⟩

end Companion.Generator
