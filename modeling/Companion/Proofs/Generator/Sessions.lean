import Mathlib
import Companion.Proofs.Generator

/-! Sessions with a generator.

In a session a generator is asked, in any order, to take a further family, to list its families, and
to generate. It keeps its families and their templates in two stores, and refuses a family whose
name is in either of them. `Coupled` says that the stores hold the same names; every step of a
session keeps it (`Coupled.perform`), so it holds of every session that starts from nothing
(`coupled_after`). `consistent_after` says what follows for what such a session shows: which
families are refused and why, that a refusal and a generation change nothing, and that no template
is missing when it is rendered. -/
namespace Companion

/-! ### Rendering and unregistered templates -/

namespace Template

theorem applyHelper_ne_unregistered (helper : String) (operands : List Value) (name : String) :
    applyHelper helper operands ≠ .error (.unregistered name) := by
  unfold applyHelper
  split
  · split
    · simp
    · split <;> simp
  · simp
  · split <;> simp
  · split <;> simp
  · simp

/-- Rendering in sequence fails in one of its parts. -/
theorem bind_append_eq_error {x y : Except RenderError (List Char)} {e : RenderError}
    (h : (do let first ← x; let rest ← y; return first ++ rest) = .error e) :
    x = .error e ∨ y = .error e := by
  cases x with
  | error e' => exact Or.inl h
  | ok first =>
    cases y with
    | error e' => exact Or.inr h
    | ok rest => cases h

theorem renderAll_eq_error {render : Value → Except RenderError (List Char)} {vs : List Value}
    {e : RenderError} (h : renderAll render vs = .error e) : ∃ v ∈ vs, render v = .error e := by
  induction vs with
  | nil => cases h
  | cons v vs ih =>
    rcases bind_append_eq_error h with hv | hvs
    · exact ⟨v, List.mem_cons_self, hv⟩
    · obtain ⟨u, hu, hrender⟩ := ih hvs
      exact ⟨u, List.mem_cons_of_mem v hu, hrender⟩

/-- A template asks for no other template. -/
theorem render_ne_unregistered (t : Template) (data : Value) (name : String) :
    t.render data ≠ .error (.unregistered name) := by
  induction t generalizing data with
  | done => simp [render_done]
  | text cs next ih =>
    rw [render_text]
    intro h
    exact ih data (behind_eq_error_iff.1 h)
  | value steps next ih =>
    rw [render_value]
    intro h
    exact ih data (behind_eq_error_iff.1 h)
  | call helper operands next ih =>
    intro h
    rw [render] at h
    rcases bind_append_eq_error h with hfirst | hrest
    · exact applyHelper_ne_unregistered _ _ _ hfirst
    · exact ih data hrest
  | branch condition yes no next ihyes ihno ih =>
    intro h
    rw [render] at h
    split at h
    · rcases bind_append_eq_error h with hyes | hrest
      · exact ihyes data hyes
      · exact ih data hrest
    · rcases bind_append_eq_error h with hno | hrest
      · exact ihno data hno
      · exact ih data hrest
  | each items body next ihbody ih =>
    intro h
    rw [render] at h
    rcases bind_append_eq_error h with hfirst | hrest
    · obtain ⟨v, -, hv⟩ := renderAll_eq_error hfirst
      exact ihbody v hv
    · exact ih data hrest

end Template

namespace Generator

/-! ### Sessions -/

/-- What a generator is asked. -/
inductive Step where
  | register (f : Family)
  | families
  | generate (file : Path) (type : AnnotatedType)

/-- What it answers. -/
inductive Answer where
  | registered
  | refused (cause : GenerationError)
  | families (names : List String)
  | generated (result : Except GenerationError Generation)

/-- The answer to a step, and the generator that it leaves. -/
def perform (g : Generator) : Step → Answer × Generator
  | .register f =>
    match g.register f with
    | (.ok _, left) => (.registered, left)
    | (.error cause, left) => (.refused cause, left)
  | .families => (.families g.names, g)
  | .generate file type => (.generated (g.generate file type).result, g)

/-- The generator after a session. -/
def after (g : Generator) : List Step → Generator
  | [] => g
  | s :: rest => after (g.perform s).2 rest

/-- The steps of a session with their answers. -/
def transcript (g : Generator) : List Step → List (Step × Answer)
  | [] => []
  | s :: rest => (s, (g.perform s).1) :: transcript (g.perform s).2 rest

/-- The family that an entry of a transcript shows to be registered. -/
def accepted? : Step × Answer → Option Family
  | (.register f, .registered) => some f
  | _ => none

theorem perform_of_register {g made : Generator} {f : Family} (h : g.register f = (.ok (), made)) :
    g.perform (.register f) = (.registered, made) := by
  simp [perform, h]

theorem perform_of_refused {g left : Generator} {f : Family} {cause : GenerationError}
    (h : g.register f = (.error cause, left)) :
    g.perform (.register f) = (.refused cause, left) := by
  simp [perform, h]

/-- A step registers a family, or it leaves the generator as it is. -/
theorem perform_cases (g : Generator) (s : Step) :
    (∃ f, s = .register f ∧ g.register f = (.ok (), (g.perform s).2) ∧
      (g.perform s).1 = .registered) ∨
      (g.perform s).2 = g ∧ accepted? (s, (g.perform s).1) = none := by
  cases s with
  | families => exact Or.inr ⟨rfl, rfl⟩
  | generate file type => exact Or.inr ⟨rfl, rfl⟩
  | register f =>
    rcases hr : g.register f with ⟨cause | _, left⟩
    · rw [perform_of_refused hr]
      exact Or.inr ⟨register_eq_error hr, rfl⟩
    · rw [perform_of_register hr]
      exact Or.inl ⟨f, rfl, hr, rfl⟩

/-- **A session leaves what registering the accepted families in turn makes.** -/
theorem registerAll_accepted (g : Generator) (steps : List Step) :
    g.registerAll ((g.transcript steps).filterMap accepted?) = (.ok (), g.after steps) := by
  induction steps generalizing g with
  | nil => rfl
  | cons s steps ih =>
    rw [transcript, after]
    rcases perform_cases g s with ⟨f, rfl, hr, hanswer⟩ | ⟨hsame, hnone⟩
    · have haccepted : accepted? (.register f, .registered) = some f := rfl
      rw [hanswer, List.filterMap_cons_some haccepted, registerAll, hr]
      exact ih _
    · rw [List.filterMap_cons_none hnone, hsame]
      exact ih g

theorem families_registerAll {families : List Family} {g made : Generator}
    (h : g.registerAll families = (.ok (), made)) : made.families = g.families ++ families := by
  induction families generalizing g with
  | nil =>
    obtain rfl : g = made := (Prod.mk.inj h).2
    exact (List.append_nil _).symm
  | cons f families ih =>
    obtain ⟨next, hnext, h⟩ := registerAll_cons_eq_ok h
    obtain ⟨-, t, -, rfl⟩ := register_eq_ok hnext
    rw [ih h, List.append_assoc]
    rfl

/-! ### The two stores -/

/-- The families have names of their own, and the engine holds the template of each of them and no
other. -/
structure Coupled (g : Generator) : Prop where
  nodup : g.names.Nodup
  templates : ∀ name, g.engine.has name = true ↔ name ∈ g.names
  knows : ∀ f ∈ g.families, g.Knows f

theorem coupled_empty : empty.Coupled where
  nodup := List.nodup_nil
  templates name := by simp [empty, Engine.empty, Engine.has, Engine.template?, names]
  knows f hf := by cases hf

theorem family?_isSome_iff {g : Generator} {name : String} : (g.family? name).isSome = true ↔
    name ∈ g.names := by
  simp [family?, names, List.find?_isSome]

variable {g : Generator} {f : Family}

theorem Coupled.register {made : Generator} (h : g.Coupled)
    (hr : g.register f = (.ok (), made)) : made.Coupled := by
  have hknows := knows_of_register hr
  have hkept : ∀ f' ∈ g.families, made.Knows f' := fun f' hf' => (h.knows f' hf').register hr
  obtain ⟨hnone, t, -, rfl⟩ := register_eq_ok hr
  have hnew : f.name ∉ g.names := by
    rw [← family?_isSome_iff, hnone]
    simp
  have hnames : names ⟨⟨(f.name, t) :: g.engine.templates⟩, g.families ++ [f]⟩ =
    g.names ++ [f.name] := by
    simp [names]
  refine ⟨?_, fun name => ?_, fun f' hf' => ?_⟩
  · rw [hnames, List.nodup_append]
    refine ⟨h.nodup, List.nodup_singleton _, fun name hname other hother heq => hnew ?_⟩
    rwa [← List.mem_singleton.1 hother, ← heq]
  · have hold := h.templates name
    rw [hnames, List.mem_append, List.mem_singleton, ← hold]
    by_cases hname : name = f.name
    · simp [Engine.has, Engine.template?, hname]
    · have hskip : (name == f.name) = false := by simpa using hname
      simp [Engine.has, Engine.template?, List.lookup, hskip, hname]
  · rcases List.mem_append.1 hf' with hf' | hf'
    · exact hkept f' hf'
    · obtain rfl := List.mem_singleton.1 hf'
      exact hknows

theorem Coupled.perform (h : g.Coupled) (s : Step) : (g.perform s).2.Coupled := by
  rcases perform_cases g s with ⟨f, -, hr, -⟩ | ⟨hsame, -⟩
  · exact h.register hr
  · rw [hsame]
    exact h

theorem Coupled.after (h : g.Coupled) (steps : List Step) : (g.after steps).Coupled := by
  induction steps generalizing g with
  | nil => exact h
  | cons s steps ih => exact ih (h.perform s)

theorem coupled_after (steps : List Step) : (empty.after steps).Coupled := coupled_empty.after steps

/-- Once the stores agree, the list of families alone decides on a duplicate. -/
theorem Coupled.isTaken_iff (h : g.Coupled) (name : String) : g.IsTaken name ↔ name ∈ g.names := by
  rw [IsTaken, Bool.or_eq_true, family?_isSome_iff, h.templates, or_self]

/-- The answer to a family that is submitted. -/
theorem Coupled.answer_register (h : g.Coupled) (f : Family) :
    (g.perform (.register f)).1 = if f.name ∈ g.names then .refused (.duplicateFamily f.name)
      else match Template.compile f.template with
        | some _ => .registered
        | none => .refused (.invalidTemplate f.name) := by
  have hcases := register_cases g f
  rw [h.isTaken_iff] at hcases
  rcases hcases with ⟨hname, hr⟩ | ⟨hname, hcompile, hr⟩ | ⟨hname, t, hcompile, hr⟩
  · rw [perform_of_refused hr, if_pos hname]
  · rw [perform_of_refused hr, if_neg hname, hcompile]
  · rw [perform_of_register hr, if_neg hname, hcompile]

/-- The engine renders the templates of the families. -/
theorem Coupled.chars (h : g.Coupled) (hf : f ∈ g.families) :
    ∃ t, Template.compile f.template = some t ∧
    ∀ data, g.engine.chars f.name data = t.render data := by
  have hhas : g.engine.has f.name = true := (h.templates f.name).2 (List.mem_map_of_mem hf)
  obtain ⟨t, ht⟩ := Option.isSome_iff_exists.1 hhas
  refine ⟨t, (h.knows f hf).2.symm.trans ht, fun data => ?_⟩
  rw [Engine.chars, ht]

/-! ### Generating -/

theorem Coupled.body_ne_unregistered (h : g.Coupled) (hf : f ∈ g.families) (data : Value)
    (name : String) :
    g.body f.name data ≠ .error (.render (.unregistered name)) := by
  obtain ⟨t, -, hchars⟩ := h.chars hf
  rw [body, hchars]
  cases hrender : t.render data with
  | error cause =>
    intro heq
    obtain rfl : cause = .unregistered name := by simpa using heq
    exact t.render_ne_unregistered data name hrender
  | ok text => cases hcode : Code.format? text <;> simp [hcode]

/-- A family that is applied looks for its own template and finds it. -/
theorem Coupled.build_of_apply (h : g.Coupled) (hf : f ∈ g.families) {file : Path}
    {type : AnnotatedType} {d : Directive} {name : String}
    (herror : (g.apply file type f d).result = .error (.render (.unregistered name))) :
    (f.build type d).result = .error (.render (.unregistered name)) := by
  rcases Logged.result_bind_eq_error_iff.1 herror with hbuild | ⟨made, -, herror⟩
  · exact hbuild
  · cases made with
    | none =>
      rcases Logged.result_bind_eq_error_iff.1 herror with herror | ⟨-, -, herror⟩ <;> cases herror
    | some data =>
      rcases Logged.result_bind_eq_error_iff.1 herror with herror | ⟨text, -, herror⟩
      · exact absurd herror (h.body_ne_unregistered hf data name)
      · rcases Logged.result_bind_eq_error_iff.1 herror with herror | ⟨-, -, herror⟩ <;>
          cases herror

theorem Coupled.build_of_generateFrom (h : g.Coupled) {file : Path} {type : AnnotatedType}
    {seen : List String} {ds : List Directive} {name : String}
    (herror : (g.generateFrom file type seen ds).result = .error (.render (.unregistered name))) :
    ∃ d ∈ ds, ∃ f ∈ g.families,
      (f.build type d).result = .error (.render (.unregistered name)) := by
  induction ds generalizing seen with
  | nil => cases herror
  | cons d ds ih =>
    rw [generateFrom] at herror
    split at herror
    · rcases Logged.result_bind_eq_error_iff.1 herror with herror | ⟨-, -, herror⟩
      · cases herror
      · rcases Logged.result_bind_eq_error_iff.1 herror with herror | ⟨rest, -, herror⟩
        · obtain ⟨e, he, hbuild⟩ := ih herror
          exact ⟨e, List.mem_cons_of_mem d he, hbuild⟩
        · cases herror
    · next f hf =>
      split at herror
      · cases herror
      · rcases Logged.result_bind_eq_error_iff.1 herror with herror | ⟨first, -, herror⟩
        · have hmem := (family?_eq_some hf).1
          exact ⟨d, List.mem_cons_self, f, hmem, h.build_of_apply hmem herror⟩
        · rcases Logged.result_bind_eq_error_iff.1 herror with herror | ⟨rest, -, herror⟩
          · obtain ⟨e, he, hbuild⟩ := ih herror
            exact ⟨e, List.mem_cons_of_mem d he, hbuild⟩
          · cases herror

/-! ### What a session shows -/

/-- What a session with the given entries says about the generator that it leaves. -/
structure Consistent (entries : List (Step × Answer)) (g : Generator) : Prop where
  /-- The generator is made of the families that were accepted, in their order and without
  repetition. -/
  made : ofFamilies (entries.filterMap accepted?) = .ok g
  listed : (g.perform .families).1 = .families ((entries.filterMap accepted?).map Family.name)
  nodup : ((entries.filterMap accepted?).map Family.name).Nodup
  templates : ∀ name, g.engine.has name = true ↔ name ∈ g.names
  /-- A family is refused for its name or else for its template, and accepted otherwise. -/
  duplicate : ∀ f name, (g.perform (.register f)).1 = .refused (.duplicateFamily name) ↔
    name = f.name ∧ f.name ∈ g.names
  invalid : ∀ f name, (g.perform (.register f)).1 = .refused (.invalidTemplate name) ↔
    name = f.name ∧ f.name ∉ g.names ∧ Template.compile f.template = none
  accepted : ∀ f, (g.perform (.register f)).1 = .registered ↔
    f.name ∉ g.names ∧ (Template.compile f.template).isSome = true
  /-- Neither a refusal nor a generation changes anything, so a refused family is refused again. -/
  refused : ∀ f cause, (g.perform (.register f)).1 = .refused cause →
    (g.perform (.register f)).2 = g ∧
    ((g.perform (.register f)).2.perform (.register f)).1 = .refused cause
  generating : ∀ file type, (g.perform (.generate file type)).2 = g
  /-- The engine renders every family's own template, and generating misses none. -/
  rendering : ∀ f ∈ g.families, ∃ t, Template.compile f.template = some t ∧
    ∀ data, g.engine.chars f.name data = t.render data
  missing : ∀ file (type : AnnotatedType) name,
    (g.generate file type).result = .error (.render (.unregistered name)) →
      ∃ d ∈ type.directives, ∃ f ∈ g.families,
        (f.build type d).result = .error (.render (.unregistered name))

theorem refused_again {f : Family} {cause : GenerationError}
    (h : (g.perform (.register f)).1 = .refused cause) :
    (g.perform (.register f)).2 = g ∧
      ((g.perform (.register f)).2.perform (.register f)).1 = .refused cause := by
  rcases perform_cases g (.register f) with ⟨-, -, -, hregistered⟩ | ⟨hsame, -⟩
  · rw [hregistered] at h
    cases h
  · rw [hsame]
    exact ⟨rfl, h⟩

/-- **Every session that starts from nothing is consistent with the generator that it leaves.** -/
theorem consistent_after (steps : List Step) :
    Consistent (empty.transcript steps) (empty.after steps) := by
  have hmade := registerAll_accepted empty steps
  have hcoupled := coupled_after steps
  have hfamilies : (empty.after steps).families = (empty.transcript steps).filterMap accepted? :=
    families_registerAll hmade
  have hnames : (empty.after steps).names = ((empty.transcript steps).filterMap accepted?).map
    Family.name := by
    rw [names, hfamilies]
  exact {
    made := ofFamilies_eq_ok_iff.2 hmade
    listed := congrArg Answer.families hnames
    nodup := hnames ▸ hcoupled.nodup
    templates := hcoupled.templates
    duplicate := fun f name => by
      rw [hcoupled.answer_register f]
      by_cases hname : f.name ∈ (empty.after steps).names
      · simp [hname, eq_comm]
      · cases Template.compile f.template <;> simp [hname]
    invalid := fun f name => by
      rw [hcoupled.answer_register f]
      by_cases hname : f.name ∈ (empty.after steps).names
      · simp [hname]
      · cases Template.compile f.template <;> simp [hname, eq_comm]
    accepted := fun f => by
      rw [hcoupled.answer_register f]
      by_cases hname : f.name ∈ (empty.after steps).names
      · simp [hname]
      · cases Template.compile f.template <;> simp [hname]
    refused := fun f cause => refused_again
    generating := fun file type => rfl
    rendering := fun f hf => hcoupled.chars hf
    missing := fun file type name => hcoupled.build_of_generateFrom }

end Generator
end Companion
