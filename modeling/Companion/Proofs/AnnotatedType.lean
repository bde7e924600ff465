import Mathlib
import Companion.AnnotatedType
import Companion.Proofs.Logged

/-! Collecting annotated types.

Which declarations are looked at is decided by their doc text and their form alone
(`Declaration.Eligible`). The others are as good as not there: collecting goes over the eligible
ones, declaration by declaration, and gives a type for each whose doc text holds directives, or the
error of the first whose doc text cannot be read (`collect_eligible`). -/
namespace Companion

namespace Declaration

/-- The declaration is looked at: it has a doc text that is not blank, and is of a form for which
code can be generated. -/
def Eligible (d : Declaration) : Prop :=
  (∃ text, d.doc = some text ∧ ∃ c ∈ text.toList, Text.isBlank c = false) ∧
    (d.shape = .named ∨ d.shape = .unit ∨ ∃ p ∈ primitives, d.shape = .newtype p)

/-- What the doc text is read as. -/
def scanned (d : Declaration) : Except Directive.ReadError (List Directive) :=
  Directive.scan (d.doc.getD "")

/-- The doc text can be read. -/
def Readable (d : Declaration) : Prop := ∃ found, d.scanned = .ok found

/-- The directives in the doc text. -/
def directives (d : Declaration) : List Directive := d.scanned.toOption.getD []

/-- What the declared type is made of: the primitive that it wraps, or fields of its own. -/
def underlying (d : Declaration) : Underlying :=
  match d.shape with
  | .newtype p => .newtype p
  | _ => .aggregate

/-- The declared type with the directives in its doc text. -/
def annotated (d : Declaration) : AnnotatedType := ⟨d.name, d.underlying, d.directives⟩

variable {d : Declaration}

theorem text?_eq_some_iff {text : String} :
    d.text? = some text ↔ d.doc = some text ∧ ∃ c ∈ text.toList, Text.isBlank c = false := by
  simp [text?, Option.filter_eq_some_iff, Text.allBlank]

theorem underlying?_eq_some_iff {u : Underlying} : d.shape.underlying? = some u ↔
    (d.shape = .named ∨ d.shape = .unit ∨ ∃ p ∈ primitives, d.shape = .newtype p) ∧
      d.underlying = u := by
  rw [underlying]
  cases d.shape <;> simp [Shape.underlying?, isPrimitive]

theorem eligible_iff : d.Eligible ↔ d.text?.isSome ∧ d.shape.underlying?.isSome := by
  simp [Eligible, Option.isSome_iff_exists, text?_eq_some_iff, underlying?_eq_some_iff]

/-- An eligible declaration declares an aggregate, or wraps a primitive. -/
theorem Eligible.underlying (h : d.Eligible) :
    d.underlying = .aggregate ∨ ∃ p ∈ primitives, d.underlying = .newtype p := by
  rw [Declaration.underlying]
  rcases h.2 with hshape | hshape | ⟨p, hp, hshape⟩
  · exact Or.inl (by rw [hshape])
  · exact Or.inl (by rw [hshape])
  · exact Or.inr ⟨p, hp, by rw [hshape]⟩

instance (d : Declaration) : Decidable d.Eligible := decidable_of_iff _ eligible_iff.symm

instance (d : Declaration) : Decidable d.Readable :=
  decidable_of_iff (d.scanned.toOption.isSome = true) (by
  rw [Readable]
  cases d.scanned <;> simp [Except.toOption])

/-- The annotated type that the declaration gives, if it gives one. -/
def type? (d : Declaration) : Option AnnotatedType :=
  if d.Eligible ∧ d.directives ≠ [] then some d.annotated else none

theorem reduceOption_map_type? (ds : List Declaration) :
    (ds.map type?).reduceOption = (ds.filter fun d => d.Eligible ∧ d.directives ≠ []).map
      annotated := by
  induction ds with
  | nil => rfl
  | cons d ds ih =>
    by_cases h : d.Eligible ∧ d.directives ≠ []
    · rw [List.map_cons, type?, if_pos h, List.reduceOption_cons_of_some, ih, List.filter_cons,
        if_pos (decide_eq_true h), List.map_cons]
    · rw [List.map_cons, type?, if_neg h, List.reduceOption_cons_of_none, ih, List.filter_cons,
        if_neg (by rwa [decide_eq_true_iff])]

end Declaration

namespace AnnotatedType

variable {file : Path} {d : Declaration} {ds : List Declaration}

/-! ### One declaration -/

/-- The doc text of an eligible declaration is read, that of another is not. -/
theorem result_ofDeclaration (file : Path) (d : Declaration) : (ofDeclaration file d).result =
    if d.Eligible then
      (d.scanned.mapError (CollectError.mk file d.name)).map fun found =>
        if found = [] then none else some ⟨d.name, d.underlying, found⟩
    else .ok none := by
  rw [ofDeclaration]
  split
  · next htext =>
    rw [if_neg (by simp [Declaration.eligible_iff, htext])]
    rfl
  · next text htext =>
    split
    · next hshape =>
      rw [if_neg (by simp [Declaration.eligible_iff, hshape])]
      rfl
    · next underlying hshape =>
      rw [if_pos (by simp [Declaration.eligible_iff, htext, hshape])]
      obtain ⟨hdoc, -⟩ := Declaration.text?_eq_some_iff.1 htext
      obtain ⟨-, rfl⟩ := Declaration.underlying?_eq_some_iff.1 hshape
      rw [Declaration.scanned, hdoc, Option.getD_some]
      split
      · next hscan => rw [hscan]; rfl
      · next hscan => rw [hscan]; rfl
      · next found hnil hscan =>
        rw [hscan]
        show Except.ok (some _) = Except.ok (if found = [] then none else some _)
        rw [if_neg hnil]

theorem ofDeclaration_eq_error_iff {e : CollectError} : (ofDeclaration file d).result = .error e ↔
    d.Eligible ∧ d.scanned = .error e.cause ∧ e.file = file ∧ e.type = d.name := by
  rw [result_ofDeclaration]
  obtain ⟨file', type, cause⟩ := e
  by_cases h : d.Eligible
  · cases d.scanned with
    | error cause' =>
      simp [h, Except.mapError, Except.map, eq_comm, and_comm, and_left_comm, and_assoc]
    | ok found => simp [h, Except.mapError, Except.map]
  · simp [h]

theorem ofDeclaration_eq_ok_iff {found : Option AnnotatedType} :
    (ofDeclaration file d).result = .ok found ↔
    (d.Eligible → d.Readable) ∧ d.type? = found := by
  rw [result_ofDeclaration, Declaration.Readable, Declaration.type?, Declaration.annotated,
    Declaration.directives]
  by_cases h : d.Eligible
  · cases d.scanned with
    | error cause => simp [h, Except.mapError, Except.map]
    | ok ds =>
      by_cases hds : ds = [] <;> simp [h, hds, Except.mapError, Except.map, Except.toOption]
  · simp [h]

/-! ### All declarations -/

/-- Collecting goes declaration by declaration. -/
theorem result_collect (file : Path) (ds : List Declaration) :
    (collect file ds).result = (Logged.each (ofDeclaration file) ds).result.map
      List.reduceOption := by
  induction ds with
  | nil => rfl
  | cons d ds ih =>
    simp only [collect, Logged.each, Logged.result_bind, Logged.result_pure, ih]
    cases (ofDeclaration file d).result with
    | error e => rfl
    | ok found =>
      cases (Logged.each (ofDeclaration file) ds).result with
      | error e => rfl
      | ok others => cases found <;> rfl

theorem collect_eq_error_iff {e : CollectError} : (collect file ds).result = .error e ↔
    ∃ (before : List Declaration) (d : Declaration) (after : List Declaration),
      ds = before ++ d :: after ∧
      (∀ b ∈ before, b.Eligible → b.Readable) ∧ d.Eligible ∧ d.scanned = .error e.cause ∧
      e.file = file ∧ e.type = d.name := by
  have hresult : (collect file ds).result = .error e ↔
      (Logged.each (ofDeclaration file) ds).result = .error e := by
    rw [result_collect]
    cases (Logged.each (ofDeclaration file) ds).result <;> simp [Except.map]
  simp only [hresult, Logged.each_eq_error_iff, ofDeclaration_eq_error_iff, ofDeclaration_eq_ok_iff,
    exists_and_left, exists_eq', and_true]

theorem collect_eq_ok_iff {types : List AnnotatedType} : (collect file ds).result = .ok types ↔
    (∀ d ∈ ds, d.Eligible → d.Readable) ∧
      types = (ds.filter fun d => d.Eligible ∧ d.directives ≠ []).map Declaration.annotated := by
  have hresult : (collect file ds).result = .ok types ↔
      ∃ found, (Logged.each (ofDeclaration file) ds).result = .ok found ∧
        found.reduceOption = types := by
    rw [result_collect]
    cases (Logged.each (ofDeclaration file) ds).result <;> simp [Except.map]
  have hfound (found : List (Option AnnotatedType)) :
      (Logged.each (ofDeclaration file) ds).result = .ok found ↔
        (∀ d ∈ ds, d.Eligible → d.Readable) ∧ ds.map Declaration.type? = found := by
    simp only [Logged.each_eq_ok_iff, ofDeclaration_eq_ok_iff, List.forall₂_and_left]
    rw [← List.forall₂_map_left_iff, List.forall₂_eq_eq_eq]
  simp only [hresult, hfound, and_assoc, exists_and_left, exists_eq_left',
    Declaration.reduceOption_map_type?]
  exact and_congr_right fun _ => eq_comm

/-- Declarations that are not eligible do not matter. -/
theorem result_collect_filter (file : Path) (ds : List Declaration) :
    (collect file (ds.filter (·.Eligible))).result = (collect file ds).result := by
  induction ds with
  | nil => rfl
  | cons d ds ih =>
    by_cases h : d.Eligible
    · rw [List.filter_cons_of_pos (by simpa using h), collect, collect, Logged.result_bind,
        Logged.result_bind]
      simp only [Logged.result_bind, ih]
    · rw [List.filter_cons_of_neg (by simpa using h), ih, collect, Logged.result_bind,
        result_ofDeclaration, if_neg h]
      simp only [Except.bind, Logged.result_bind]
      cases (collect file ds).result <;> rfl

/-- What is collected from declarations behind others follows what is collected from those. -/
theorem collect_append (file : Path) (ds es : List Declaration) : collect file (ds ++ es) = (do
    let types ← collect file ds
    let others ← collect file es
    return types ++ others) := by
  induction ds with
  | nil => exact (Logged.bind_pure _).symm
  | cons d ds ih =>
    simp only [List.cons_append, collect, ih, Logged.bind_assoc, Logged.pure_bind,
      List.append_assoc]

/-- **Collecting goes over the eligible declarations and over no others.** It fails when the doc
text of one of them cannot be read, with the error of the first; else it gives a type for each whose
doc text holds a directive, in order and with all its directives, and no other type. Declarations
behind others are collected behind them. -/
theorem collect_eligible (file : Path) (ds : List Declaration) :
    (collect file ds).result = (collect file (ds.filter (·.Eligible))).result ∧
    ((∃ e, (collect file ds).result = .error e) ↔ ∃ d ∈ ds, d.Eligible ∧ ¬ d.Readable) ∧
    (∀ e, (collect file ds).result = .error e ↔
      ∃ (before : List Declaration) (d : Declaration) (after : List Declaration),
        ds = before ++ d :: after ∧
        (∀ b ∈ before, b.Eligible → b.Readable) ∧ d.Eligible ∧ d.scanned = .error e.cause ∧
        e.file = file ∧ e.type = d.name) ∧
    (∀ types, (collect file ds).result = .ok types ↔ (∀ d ∈ ds, d.Eligible → d.Readable) ∧
      types = (ds.filter fun d => d.Eligible ∧ d.directives ≠ []).map Declaration.annotated) ∧
    (∀ types, (collect file ds).result = .ok types → ∀ type ∈ types, type.directives ≠ [] ∧
      (type.underlying = .aggregate ∨ ∃ p ∈ primitives, type.underlying = .newtype p) ∧
      ∃ d ∈ ds, d.Eligible ∧ d.directives ≠ [] ∧ type = d.annotated) ∧
    ∀ es, collect file (ds ++ es) = (do
      let types ← collect file ds
      let others ← collect file es
      return types ++ others) := by
  refine ⟨(result_collect_filter file ds).symm, ?_, fun e => collect_eq_error_iff,
    fun types => collect_eq_ok_iff, ?_, collect_append file ds⟩
  · constructor
    · rintro ⟨e, h⟩
      obtain ⟨before, d, after, rfl, -, hd, hscan, -⟩ := collect_eq_error_iff.1 h
      refine ⟨d, by simp, hd, ?_⟩
      rintro ⟨found, hfound⟩
      rw [hscan] at hfound
      cases hfound
    · rintro ⟨d, hd, heligible, hunread⟩
      cases h : (collect file ds).result with
      | error e => exact ⟨e, rfl⟩
      | ok types => exact absurd ((collect_eq_ok_iff.1 h).1 d hd heligible) hunread
  · intro types h type htype
    obtain ⟨-, rfl⟩ := collect_eq_ok_iff.1 h
    obtain ⟨d, hd, rfl⟩ := List.mem_map.1 htype
    obtain ⟨hd, hgives⟩ := List.mem_filter.1 hd
    obtain ⟨heligible, hfound⟩ := of_decide_eq_true hgives
    exact ⟨hfound, heligible.underlying, d, hd, heligible, hfound, rfl⟩

/-- Malformed directives on types of other forms, a blank doc text, prose, and a newtype with two
directives. -/
def overlooked : List Declaration :=
  [⟨"A", .other, some "i18n(en=\"Hi\" \"Ho\")"⟩, ⟨"B", .newtype "String", some "f(x=\"("⟩,
    ⟨"C", .unit, some " \u3000"⟩, ⟨"D", .named, some "See f(x)."⟩,
    ⟨"E", .newtype "u8", some "g() f(x=1)"⟩]

theorem collect_eligible_overlooked : (∃ d ∈ overlooked, ¬ d.Readable) ∧
    (collect ⟨"a.rs"⟩ overlooked).result =
      .ok [⟨"E", .newtype "u8", [⟨"g", []⟩, ⟨"f", [⟨"x", .integer 1⟩]⟩]⟩] ∧
    (collect ⟨"a.rs"⟩ (overlooked ++ [⟨"F", .unit, some "f(x=\"("⟩])).result =
      .error ⟨⟨"a.rs"⟩, "F", .unterminatedString "f" 4⟩ := by
  refine ⟨by decide +kernel, ?_, ?_⟩
  · exact ((collect_eligible ⟨"a.rs"⟩ overlooked).2.2.2.1 _).2
      ⟨by decide +kernel, by decide +kernel⟩
  · refine ((collect_eligible ⟨"a.rs"⟩ _).2.2.1 _).2 ⟨overlooked, _, [], rfl, ?_, ?_⟩
    · decide +kernel
    · exact ⟨by decide +kernel, by decide +kernel, rfl, rfl⟩

end AnnotatedType
end Companion
