import Mathlib
import Companion.Template.Engine

/-! Sessions with a template engine.

In a session an engine is asked, in any order, to register a text under a name, whether it knows a
name, to render the template of a name, and to render a text on the spot. It compiles a text once,
when that is registered, and looks the result up whenever the name is rendered; a text that is
rendered on the spot is compiled each time.

`Explains` says what the answer to a step has to be, given the steps and answers before it: the
compiled templates do not occur in it, only texts and the rendering of texts on the spot. `Holds` is
what ties the engine's store to those earlier entries. Every step keeps it (`Holds.perform`), so the
entries before any answer of a session explain the answer (`transcript_explained`). -/
namespace Companion.Engine

/-! ### Sessions -/

/-- What an engine is asked. -/
inductive Step where
  | register (name text : String)
  | has (name : String)
  | render (name : String) (data : Value)
  | renderText (text : String) (data : Value)

/-- What it answers. -/
inductive Answer where
  | registered
  /-- The text is no template. -/
  | invalid
  | known (known : Bool)
  | rendered (result : Except RenderError String)

/-- The answer to a step, and the engine behind it. -/
def perform (e : Engine) : Step → Answer × Engine
  | .register name text =>
    match e.register name text with
    | some made => (.registered, made)
    | none => (.invalid, e)
  | .has name => (.known (e.has name), e)
  | .render name data => (.rendered (e.render name data), e)
  | .renderText text data => (.rendered (renderText text data), e)

/-- The engine after a session. -/
def after (e : Engine) : List Step → Engine
  | [] => e
  | s :: rest => after (e.perform s).2 rest

/-- The steps of a session with their answers. -/
def transcript (e : Engine) : List Step → List (Step × Answer)
  | [] => []
  | s :: rest => (s, (e.perform s).1) :: transcript (e.perform s).2 rest

/-- A step registers a text that is a template, or it leaves the engine as it is. -/
theorem perform_cases (e : Engine) (s : Step) :
    (∃ name text t, s = .register name text ∧ Template.compile text.toList = some t ∧
      e.perform s = (.registered, ⟨(name, t) :: e.templates⟩)) ∨
    (e.perform s).1 ≠ .registered ∧ (e.perform s).2 = e := by
  cases s with
  | has name => exact Or.inr ⟨nofun, rfl⟩
  | render name data => exact Or.inr ⟨nofun, rfl⟩
  | renderText text data => exact Or.inr ⟨nofun, rfl⟩
  | register name text =>
    cases hcompile : Template.compile text.toList with
    | some t =>
      exact Or.inl ⟨name, text, t, rfl, hcompile, by simp [perform, register, add, hcompile]⟩
    | none =>
      have hrefused : e.perform (.register name text) = (.invalid, e) := by
        simp [perform, register, add, hcompile]
      rw [hrefused]
      exact Or.inr ⟨nofun, rfl⟩

theorem answer_register (e : Engine) (name text : String) : (e.perform (.register name text)).1 =
    if (Template.compile text.toList).isSome then .registered else .invalid := by
  cases hcompile : Template.compile text.toList <;> simp [perform, register, add, hcompile]

/-! ### What earlier entries say -/

/-- The text was registered under the name. -/
def Registered (entries : List (Step × Answer)) (name text : String) : Prop :=
  (.register name text, .registered) ∈ entries

/-- The text was the last to be registered under the name. -/
def LastRegistered (entries : List (Step × Answer)) (name text : String) : Prop :=
  ∃ before behind, entries = before ++ (.register name text, .registered) :: behind ∧
    ∀ other, ¬ Registered behind name other

/-- The answer to a step is the one that the entries before it ask for. A text is registered when it
is a template. A name is known when a text was registered under it. Rendering a name is rendering
the text that was last registered under it. -/
def Explains (entries : List (Step × Answer)) : Step → Answer → Prop
  | .register _ text, a =>
    a = if (Template.compile text.toList).isSome then .registered else .invalid
  | .has name, a =>
    ∃ known, a = .known known ∧ (known = true ↔ ∃ text, Registered entries name text)
  | .render name data, a =>
    (∃ text, LastRegistered entries name text ∧ a = .rendered (renderText text data)) ∨
      (∀ text, ¬ Registered entries name text) ∧ a = .rendered (.error (.unregistered name))
  | .renderText text data, a => a = .rendered (renderText text data)

theorem LastRegistered.registered {entries : List (Step × Answer)} {name text : String}
    (h : LastRegistered entries name text) : Registered entries name text := by
  obtain ⟨before, behind, rfl, -⟩ := h
  simp [Registered]

theorem lastRegistered_self (entries : List (Step × Answer)) (name text : String) :
    LastRegistered (entries ++ [(.register name text, .registered)]) name text :=
  ⟨entries, [], rfl, nofun⟩

/-- An entry that registers nothing under the name does not matter to it. -/
theorem LastRegistered.concat {entries : List (Step × Answer)} {name text : String}
    (h : LastRegistered entries name text) {entry : Step × Answer}
    (hentry : ∀ other, ¬ Registered [entry] name other) :
    LastRegistered (entries ++ [entry]) name text := by
  obtain ⟨before, behind, rfl, hlast⟩ := h
  refine ⟨before, behind ++ [entry], by simp, fun other hmem => ?_⟩
  rcases List.mem_append.1 hmem with hmem | hmem
  · exact hlast other hmem
  · exact hentry other hmem

/-! ### The store -/

/-- The engine holds, for every name, the template of the text that was last registered under it. -/
structure Holds (entries : List (Step × Answer)) (e : Engine) : Prop where
  known : ∀ {name t}, e.template? name = some t →
    ∃ text, LastRegistered entries name text ∧ Template.compile text.toList = some t
  unknown : ∀ {name}, e.template? name = none → ∀ text, ¬ Registered entries name text

theorem holds_empty : Holds [] empty := ⟨nofun, fun _ _ => nofun⟩

variable {entries : List (Step × Answer)} {e : Engine}

/-- A step that registers nothing keeps what is held. -/
theorem Holds.concat (h : Holds entries e) {entry : Step × Answer}
    (hentry : entry.2 ≠ .registered) :
    Holds (entries ++ [entry]) e := by
  have hnone : ∀ name text, ¬ Registered [entry] name text := by
    intro name text hmem
    obtain rfl := List.mem_singleton.1 hmem
    exact hentry rfl
  refine ⟨fun ht => ?_, fun ht text hmem => ?_⟩
  · obtain ⟨text, hlast, hcompile⟩ := h.known ht
    exact ⟨text, hlast.concat (hnone _), hcompile⟩
  · rcases List.mem_append.1 hmem with hmem | hmem
    · exact h.unknown ht text hmem
    · exact hnone _ text hmem

theorem Holds.register (h : Holds entries e) {name text : String} {t : Template}
    (hcompile : Template.compile text.toList = some t) :
    Holds (entries ++ [(.register name text, .registered)]) ⟨(name, t) :: e.templates⟩ := by
  have hself : template? ⟨(name, t) :: e.templates⟩ name = some t := by
    simp [template?]
  have hother : ∀ other, other ≠ name →
    template? ⟨(name, t) :: e.templates⟩ other = e.template? other := by
    intro other hne
    have hskip : (other == name) = false := by simpa using hne
    simp [template?, List.lookup, hskip]
  have hnone : ∀ other, other ≠ name → ∀ text',
      ¬ Registered [(.register name text, .registered)] other text' := by
    intro other hne text' hmem
    obtain ⟨hstep, -⟩ := Prod.mk.inj (List.mem_singleton.1 hmem)
    exact hne (Step.register.inj hstep).1
  refine ⟨fun {other t'} ht => ?_, fun {other} ht text' hmem => ?_⟩
  · by_cases hname : other = name
    · subst hname
      obtain rfl := Option.some.inj (hself.symm.trans ht)
      exact ⟨text, lastRegistered_self entries other text, hcompile⟩
    · rw [hother other hname] at ht
      obtain ⟨text', hlast, hcompile'⟩ := h.known ht
      exact ⟨text', hlast.concat (hnone other hname), hcompile'⟩
  · by_cases hname : other = name
    · rw [hname, hself] at ht
      cases ht
    · rw [hother other hname] at ht
      rcases List.mem_append.1 hmem with hmem | hmem
      · exact h.unknown ht text' hmem
      · exact hnone other hname text' hmem

/-- Every step keeps what is held. -/
theorem Holds.perform (h : Holds entries e) (s : Step) :
    Holds (entries ++ [(s, (e.perform s).1)]) (e.perform s).2 := by
  rcases perform_cases e s with ⟨name, text, t, rfl, hcompile, hperform⟩ | ⟨hanswer, hsame⟩
  · rw [hperform]
    exact h.register hcompile
  · rw [hsame]
    exact h.concat hanswer

/-! ### Answers -/

/-- A registered text renders on the spot as its compiled template does. -/
theorem renderText_of_compile {text : String} {t : Template}
    (h : Template.compile text.toList = some t) (data : Value) :
    renderText text data = (t.render data).map String.ofList := by
  rw [renderText, h]

theorem Holds.has_iff (h : Holds entries e) (name : String) :
    e.has name = true ↔ ∃ text, Registered entries name text := by
  rw [has, Option.isSome_iff_exists]
  constructor
  · rintro ⟨t, ht⟩
    obtain ⟨text, hlast, -⟩ := h.known ht
    exact ⟨text, hlast.registered⟩
  · rintro ⟨text, hmem⟩
    cases ht : e.template? name with
    | some t => exact ⟨t, rfl⟩
    | none => exact absurd hmem (h.unknown ht text)

theorem Holds.render (h : Holds entries e) (name : String) (data : Value) :
    (∃ text, LastRegistered entries name text ∧ e.render name data = renderText text data) ∨
      (∀ text, ¬ Registered entries name text) ∧
        e.render name data = .error (.unregistered name) := by
  cases ht : e.template? name with
  | some t =>
    obtain ⟨text, hlast, hcompile⟩ := h.known ht
    refine Or.inl ⟨text, hlast, ?_⟩
    rw [Engine.render, chars, ht, renderText_of_compile hcompile]
  | none =>
    refine Or.inr ⟨h.unknown ht, ?_⟩
    rw [Engine.render, chars, ht]
    rfl

theorem Holds.explains (h : Holds entries e) (s : Step) : Explains entries s (e.perform s).1 := by
  cases s with
  | register name text => exact answer_register e name text
  | has name => exact ⟨_, rfl, h.has_iff name⟩
  | renderText text data => rfl
  | render name data =>
    rcases h.render name data with ⟨text, hlast, hrender⟩ | ⟨hnone, hrender⟩
    · exact Or.inl ⟨text, hlast, congrArg Answer.rendered hrender⟩
    · exact Or.inr ⟨hnone, congrArg Answer.rendered hrender⟩

/-- Every answer of a session is explained by what was held before it and the entries since. -/
theorem Holds.transcript (h : Holds entries e) {steps : List Step}
    {before behind : List (Step × Answer)} {s : Step} {a : Answer}
    (hcut : e.transcript steps = before ++ (s, a) :: behind) :
    Explains (entries ++ before) s a := by
  induction steps generalizing entries e before with
  | nil => simp [Engine.transcript] at hcut
  | cons first steps ih =>
    rw [Engine.transcript] at hcut
    cases before with
    | nil =>
      obtain ⟨hentry, -⟩ := List.cons.inj hcut
      obtain ⟨rfl, rfl⟩ := Prod.mk.inj hentry
      rw [List.append_nil]
      exact h.explains first
    | cons entry before =>
      obtain ⟨rfl, hrest⟩ := List.cons.inj hcut
      have hexplains := ih (h.perform first) hrest
      rwa [List.append_assoc, List.singleton_append] at hexplains

/-- **Rendering by name is rendering the text that was last registered, over any session.** Every
answer is the one that the entries before it ask for: the answers of renderings and questions among
them do not matter, nor do texts that were refused. For a step that registers nothing leaves the
engine as it is. -/
theorem transcript_explained (steps : List Step) :
    (∀ before s a behind, empty.transcript steps = before ++ (s, a) :: behind →
      Explains before s a) ∧
    ∀ s, ((empty.after steps).perform s).1 ≠ .registered →
      ((empty.after steps).perform s).2 = empty.after steps := by
  constructor
  · intro before s a behind hcut
    exact holds_empty.transcript hcut
  · intro s hanswer
    rcases perform_cases (empty.after steps) s with ⟨name, text, t, -, -, hperform⟩ | ⟨-, hsame⟩
    · rw [hperform] at hanswer
      exact absurd rfl hanswer
    · exact hsame

/-- The second text replaces the first, and the third, whose tag is not closed, is refused. -/
example :
    ((empty.after
      [.register "a" "x", .register "a" "\x7b\x7bb\x7d\x7d", .register "a" "\x7b\x7b"]).render "a"
    (.record [("b", .text "y")])).toOption = some "y" := by
  decide +kernel

end Companion.Engine
