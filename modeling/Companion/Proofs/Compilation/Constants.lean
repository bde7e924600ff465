import Mathlib
import Companion.Proofs.Compilation
import Companion.Proofs.Family.ModuleConstant
import Companion.Proofs.MessageTable.Request
import Companion.Proofs.Source.Declared

/-! Constants of a module. The artifacts of a unit are put into the module that declares its types,
and each newtype with a code brings a constant there. Nothing is compared across types: two
constants are one where the parts of their types' names agree up to case, and a constant has the
name of a type where this is spelled as the constant is. Names in camel case keep constants apart,
save that a type of one letter is its own constant (`constants_of_unit`). -/
namespace Companion
open Source Text

namespace AnnotatedType

/-- The names of the constants that a directive asks for: one, on a newtype, if it gives messages
and a code. -/
def constantsOf (type : AnnotatedType) (d : Directive) : List String :=
  match type.underlying with
  | .newtype _ =>
    if d.name = "i18n" ∧ d.localeNames ≠ [] ∧
      (d.last? "code").isSome then [screamingSnake type.name] else []
  | .aggregate => []

/-- The names of the constants that the directives of a type ask for. -/
def constants (type : AnnotatedType) : List String := type.directives.flatMap type.constantsOf

theorem constantsOf_of_name {type : AnnotatedType} {d : Directive} (h : d.name ≠ "i18n") :
    type.constantsOf d = [] := by
  unfold constantsOf
  split <;> simp [h]

theorem eq_of_mem_constants {type : AnnotatedType} {name : String} (h : name ∈ type.constants) :
    name = screamingSnake type.name := by
  obtain ⟨d, -, hmem⟩ := List.mem_flatMap.1 h
  unfold constantsOf at hmem
  split at hmem
  · split at hmem
    · exact List.mem_singleton.1 hmem
    · cases hmem
  · cases hmem

/-- Two constants are one where the names of their types agree up to case and underscores. -/
theorem constant_eq_iff {s t : AnnotatedType} {x y : String} (hx : x ∈ s.constants)
    (hy : y ∈ t.constants) :
    (x = y ↔ (parts s.name.toList).map upper = (parts t.name.toList).map upper) ∧
      (isCamelCase s.name.toList = true → isCamelCase t.name.toList = true →
        (x = y ↔ s.name = t.name)) := by
  rw [eq_of_mem_constants hx, eq_of_mem_constants hy]
  refine ⟨screamingSnake_eq_iff s.name t.name, fun hs ht => ⟨eq_of_screamingSnake_eq hs ht, ?_⟩⟩
  intro hsame
  rw [hsame]

/-- A constant is an identifier that is spelled as the constant is. -/
theorem constant_eq_name_iff {t : AnnotatedType} {x name : String} (hx : x ∈ t.constants)
    (hname : IsIdentifier name) :
    (x = name ↔ List.splitOn '_' name.toList = (parts t.name.toList).map upper) ∧
      (isCamelCase t.name.toList = true → isCamelCase name.toList = true →
        (x = name ↔ t.name = name ∧ t.name.toList.length = 1)) := by
  rw [eq_of_mem_constants hx]
  exact ⟨screamingSnake_eq_iff_splitOn (ne_empty_of_isIdentifier hname), screamingSnake_eq_name_iff⟩

/-- The annotated types of a unit have names of its declarations. -/
theorem isIdentifier_of_collect {file : Path} {ds : List Declaration} {types : List AnnotatedType}
    (h : (collect file ds).result = .ok types) (hds : ∀ d ∈ ds, IsIdentifier d.name) :
    ∀ type ∈ types, IsIdentifier type.name := by
  obtain ⟨-, rfl⟩ := collect_eq_ok_iff.1 h
  intro type htype
  obtain ⟨declaration, hmem, rfl⟩ := List.mem_map.1 htype
  exact hds declaration (List.mem_filter.1 hmem).1

end AnnotatedType

/-- The artifact holds code of its type, with constants of these names behind the block. Each is the
type's code in the type's constructor. -/
def Artifact.Declares (a : Artifact) (names : List String) : Prop :=
  ∃ code : Code, a.body = String.ofList code.layout ∧
    Code.readBlock? a.body.toList = some code.block ∧ code.type = a.type ∧
    code.constants.map (fun c => (c.name, c.type, c.value)) =
      names.map fun name => (name, .named a.type, .wrapped a.type "CODE")

namespace MessageTable
open Directive

/-- A directive without messages asks for no constant. -/
theorem constantsOf_of_none {type : AnnotatedType} {d : Directive}
    (h : (ofDirective type d).result = .ok none) :
    type.constantsOf d = [] := by
  have hlocales : d.localeNames = [] := by
    rw [result_ofDirective, requested] at h
    split at h
    · next hmessages => rw [← locale_messages, hmessages, List.map_nil]
    · split at h <;> cases h
  unfold AnnotatedType.constantsOf
  split <;> simp [hlocales]

/-- The table of a directive has the constants that the directive asks for. -/
theorem map_moduleConstants {type : AnnotatedType} {d : Directive} (hname : d.name = "i18n")
    {t : MessageTable} (h : (ofDirective type d).result = .ok (some t)) :
    t.moduleConstants.map (fun c => (c.name, c.type, c.value)) =
      (type.constantsOf d).map fun name => (name, .named type.name, .wrapped type.name "CODE") := by
  rw [result_ofDirective, requested] at h
  split at h
  · cases h
  · next first others hmessages =>
    have hlocales : d.localeNames ≠ [] := by
      rw [← locale_messages, hmessages]
      simp
    split at h
    · cases h
    · obtain rfl := Option.some.inj (Except.ok.inj h)
      unfold moduleConstants isNewtype AnnotatedType.constantsOf
      dsimp only
      cases type.underlying with
      | aggregate => rfl
      | newtype primitive =>
        cases hcode : d.last? "code" with
        | none => simp
        | some v => simp [hname, hlocales, instanceConstant]

end MessageTable

namespace Generator
open MessageTable Directive

/-- What the generator gives for a directive has the constants that the directive asks for. -/
theorem declares_apply {g : Generator} (hg : g.Knows .messages) {file : Path} {type : AnnotatedType}
    (htype : IsIdentifier type.name) {d : Directive} (hname : d.name = "i18n") {out : Generation}
    (h : (g.apply file type .messages d).result = .ok out) :
    ∃ names, List.Forall₂ Artifact.Declares out.artifacts names ∧
      names.flatten = type.constantsOf d := by
  obtain ⟨data, hdata, h⟩ := Logged.result_bind_eq_ok_iff.1 h
  obtain ⟨table, htable, hmade⟩ := Logged.result_bind_eq_ok_iff.1 hdata
  replace htable := Logged.result_mapError_eq_ok_iff.1 htable
  obtain rfl := Except.ok.inj hmade
  cases table with
  | none =>
    obtain ⟨-, -, h⟩ := Logged.result_bind_eq_ok_iff.1 h
    obtain rfl := Except.ok.inj h
    exact ⟨[], .nil, (constantsOf_of_none htable).symm⟩
  | some t =>
    obtain ⟨body, hbody, h⟩ := Logged.result_bind_eq_ok_iff.1 h
    obtain ⟨-, -, h⟩ := Logged.result_bind_eq_ok_iff.1 h
    obtain rfl := Except.ok.inj h
    have hasked := asked_of_ofDirective htable
    have htype : IsIdentifier t.type := hasked.type ▸ htype
    refine ⟨[type.constantsOf d], .cons ?_ .nil, by simp⟩
    obtain ⟨code, rfl, hread⟩ := t.exists_read?_of_body hg hbody
    obtain rfl := code_of_read? htype hasked.code hread
    refine ⟨_, rfl, ?_, hasked.type, map_moduleConstants hname htable⟩
    rw [String.toList_ofList]
    exact Code.readBlock?_layout ⟨htype, spelled_members htype hasked.code⟩

theorem declares_generateFrom {g : Generator} (hg : standard = .ok g) {file : Path}
    {type : AnnotatedType} (htype : IsIdentifier type.name) {seen : List String}
    {ds : List Directive} {out : Generation}
    (h : (g.generateFrom file type seen ds).result = .ok out) :
    ∃ names, List.Forall₂ Artifact.Declares out.artifacts names ∧
      names.flatten = ds.flatMap type.constantsOf := by
  have hknows : g.Knows .messages := knows_of_ofFamilies hg List.mem_cons_self
  induction ds generalizing seen out with
  | nil =>
    obtain rfl := Except.ok.inj h
    exact ⟨[], .nil, rfl⟩
  | cons d ds ih =>
    rcases generateFrom_cons h with
      ⟨hnone, rest, hrest, rfl⟩ | ⟨f, first, rest, hf, -, hfirst, hrest, rfl⟩
    · obtain ⟨names, hdeclares, hnames⟩ := ih hrest
      have hother : d.name ≠ "i18n" := by
        intro hname
        rw [hname, show g.family? "i18n" = _ from hknows.1] at hnone
        cases hnone
      refine ⟨names, hdeclares, ?_⟩
      rw [hnames, List.flatMap_cons, AnnotatedType.constantsOf_of_name hother, List.nil_append]
    · obtain ⟨rfl, hname⟩ := standard_family? hg hf
      obtain ⟨names, hdeclares, hnames⟩ := declares_apply hknows htype hname hfirst
      obtain ⟨others, hdeclares', hothers⟩ := ih hrest
      refine ⟨names ++ others, List.rel_append hdeclares hdeclares', ?_⟩
      rw [List.flatten_append, hnames, hothers, List.flatMap_cons]

/-- The artifacts of a file have the constants that the directives on its types ask for. -/
theorem declares_generateAll {g : Generator} (hg : standard = .ok g) {file : Path}
    {types : List AnnotatedType} (htypes : ∀ type ∈ types, IsIdentifier type.name)
    {out : Generation} (h : (g.generateAll file types).result = .ok out) :
    ∃ names, List.Forall₂ Artifact.Declares out.artifacts names ∧
      names.flatten = types.flatMap AnnotatedType.constants := by
  induction types generalizing out with
  | nil =>
    obtain rfl := Except.ok.inj h
    exact ⟨[], .nil, rfl⟩
  | cons type types ih =>
    obtain ⟨htype, htypes⟩ := List.forall_mem_cons.1 htypes
    obtain ⟨first, hfirst, h⟩ := Logged.result_bind_eq_ok_iff.1 h
    obtain ⟨rest, hrest, h⟩ := Logged.result_bind_eq_ok_iff.1 h
    obtain rfl := Except.ok.inj h
    obtain ⟨names, hdeclares, hnames⟩ := declares_generateFrom hg htype hfirst
    obtain ⟨others, hdeclares', hothers⟩ := ih htypes hrest
    refine ⟨names ++ others, List.rel_append hdeclares hdeclares', ?_⟩
    rw [List.flatten_append, hnames, hothers, List.flatMap_cons]
    rfl

end Generator

/-- The types of a unit that a text makes have identifiers for names. -/
theorem SourceUnit.isIdentifier_of_ofText {file : Path} {text : String} {unit : SourceUnit}
    (h : SourceUnit.ofText file text = .ok unit) :
    ∀ d ∈ unit.declarations, IsIdentifier d.name := by
  unfold SourceUnit.ofText at h
  split at h
  · next ds hds =>
    obtain rfl := Except.ok.inj h
    exact isIdentifier_of_declarations? hds
  · cases h

namespace Compilation

/-- The artifacts of a unit have the constants that the directives on its types ask for. -/
theorem declares_ofUnit {g : Generator} (hg : Generator.standard = .ok g) {unit : SourceUnit}
    {c : Compilation} (hc : (ofUnit g unit).result = .ok c)
    (hnames : ∀ d ∈ unit.declarations, IsIdentifier d.name) :
    ∃ names, List.Forall₂ Artifact.Declares c.generation.artifacts names ∧
      names.flatten = c.types.flatMap AnnotatedType.constants := by
  obtain ⟨types, htypes, hc⟩ := Logged.result_bind_eq_ok_iff.1 hc
  obtain ⟨-, -, hc⟩ := Logged.result_bind_eq_ok_iff.1 hc
  obtain ⟨generation, hgeneration, hc⟩ := Logged.result_bind_eq_ok_iff.1 hc
  obtain rfl := Except.ok.inj hc
  have hidentifiers :=
    AnnotatedType.isIdentifier_of_collect (Logged.result_mapError_eq_ok_iff.1 htypes) hnames
  exact Generator.declares_generateAll hg hidentifiers
    (Logged.result_mapError_eq_ok_iff.1 hgeneration)

/-- **Constants of a module clash exactly where the names of types agree as constants.** Whatever
text the module is, names in camel case keep constants apart from each other, and from the types but
for those of one letter. -/
theorem constants_of_unit {g : Generator} (hg : Generator.standard = .ok g) {file : Path}
    {text : String} {unit : SourceUnit} (hunit : SourceUnit.ofText file text = .ok unit)
    {c : Compilation} (hc : (ofUnit g unit).result = .ok c) :
    (∃ names, List.Forall₂ Artifact.Declares c.generation.artifacts names ∧
      names.flatten = c.types.flatMap AnnotatedType.constants) ∧
    (∀ s ∈ c.types, ∀ t ∈ c.types, ∀ x ∈ s.constants, ∀ y ∈ t.constants,
      (x = y ↔ (parts s.name.toList).map upper = (parts t.name.toList).map upper) ∧
      (isCamelCase s.name.toList = true → isCamelCase t.name.toList = true →
        (x = y ↔ s.name = t.name))) ∧
    ∀ t ∈ c.types, ∀ x ∈ t.constants, ∀ d ∈ unit.declarations,
      (x = d.name ↔ List.splitOn '_' d.name.toList = (parts t.name.toList).map upper) ∧
      (isCamelCase t.name.toList = true → isCamelCase d.name.toList = true →
        (x = d.name ↔ t.name = d.name ∧ t.name.toList.length = 1)) := by
  have hnames := SourceUnit.isIdentifier_of_ofText hunit
  refine ⟨declares_ofUnit hg hc hnames, ?_, ?_⟩
  · intro s _ t _ x hx y hy
    exact AnnotatedType.constant_eq_iff hx hy
  · intro t _ x hx d hd
    exact AnnotatedType.constant_eq_name_iff hx (hnames d hd)

/-- Newtypes with codes. The names of two differ in case only, and the last has one letter. -/
def alikeText : String :=
  "/// i18n(code = 1, en = \"x\")\npub struct OK(u8);\n" ++
    "/// i18n(code = 2, en = \"y\")\npub struct Ok(u8);\n" ++
    "/// i18n(code = 3, en = \"z\")\npub struct E(u8);\n"

def alikeUnit : SourceUnit :=
  ⟨⟨"src/errors.rs"⟩, [⟨"OK", .newtype "u8", some " i18n(code = 1, en = \"x\")"⟩,
    ⟨"Ok", .newtype "u8", some " i18n(code = 2, en = \"y\")"⟩,
    ⟨"E", .newtype "u8", some " i18n(code = 3, en = \"z\")"⟩]⟩

theorem ofText_alike : SourceUnit.ofText ⟨"src/errors.rs"⟩ alikeText = .ok alikeUnit := by
  have hdeclarations : declarations? alikeText = some alikeUnit.declarations := by decide +kernel
  rw [SourceUnit.ofText, hdeclarations]
  rfl

theorem exists_compiled_alike :
    ∃ g c, Generator.standard = .ok g ∧ (ofUnit g alikeUnit).result = .ok c ∧
    c.types.flatMap AnnotatedType.constants = ["OK", "OK", "E"] := by
  obtain ⟨g, hg, hmade⟩ : ∃ g, Generator.standard = .ok g ∧ (ofUnit g alikeUnit).result.toOption.map
      (fun c => c.types.flatMap AnnotatedType.constants) = some ["OK", "OK", "E"] :=
    ⟨Generator.compiledStandard, Generator.standard_eq, by decide +kernel⟩
  obtain ⟨c, hc, hconstants⟩ := Option.map_eq_some_iff.1 hmade
  exact ⟨g, c, hg, Logged.toOption_result_eq_some_iff.1 hc, hconstants⟩

theorem constants_of_unit_alike :
    ∃ g c, Generator.standard = .ok g ∧ (ofUnit g alikeUnit).result = .ok c ∧
    SourceUnit.ofText ⟨"src/errors.rs"⟩ alikeText = .ok alikeUnit ∧
    (∃ names, List.Forall₂ Artifact.Declares c.generation.artifacts names ∧
      names.flatten = ["OK", "OK", "E"]) ∧
    ∀ t ∈ c.types, ∀ x ∈ t.constants,
      (x = "OK" ↔ List.splitOn '_' "OK".toList = (parts t.name.toList).map upper) ∧
      (isCamelCase t.name.toList = true → (x = "E" ↔ t.name = "E")) := by
  obtain ⟨g, c, hg, hc, hconstants⟩ := exists_compiled_alike
  obtain ⟨⟨names, hdeclares, hnames⟩, -, htypes⟩ := constants_of_unit hg ofText_alike hc
  refine ⟨g, c, hg, hc, ofText_alike, ⟨names, hdeclares, hnames.trans hconstants⟩, ?_⟩
  intro t ht x hx
  have hcapitals := htypes t ht x hx _ (List.mem_cons_self : _ ∈ alikeUnit.declarations)
  have hletter := htypes t ht x hx ⟨"E", .newtype "u8", some " i18n(code = 3, en = \"z\")"⟩
    (by simp [alikeUnit])
  refine ⟨hcapitals.1,
    fun hcamel => (hletter.2 hcamel (by decide)).trans ⟨And.left, fun hname => ⟨hname, ?_⟩⟩⟩
  rw [hname]
  decide

/-- **Constants clash with each other and with types.** What the text declares is declared again by
what is generated for it, and nothing refuses it. -/
theorem constants_clash : ∃ g unit c names, Generator.standard = .ok g ∧
    SourceUnit.ofText ⟨"src/errors.rs"⟩ alikeText = .ok unit ∧ (ofUnit g unit).result = .ok c ∧
    unit.declarations.map (fun d => (d.name, d.shape)) =
      [("OK", .newtype "u8"), ("Ok", .newtype "u8"), ("E", .newtype "u8")] ∧
    List.Forall₂ Artifact.Declares c.generation.artifacts names ∧
      names.flatten = ["OK", "OK", "E"] := by
  obtain ⟨g, c, hg, hc, hconstants⟩ := exists_compiled_alike
  have hidentifiers := SourceUnit.isIdentifier_of_ofText ofText_alike
  obtain ⟨names, hdeclares, hnames⟩ := declares_ofUnit hg hc hidentifiers
  exact ⟨g, alikeUnit, c, names, hg, ofText_alike, hc, rfl, hdeclares, hnames.trans hconstants⟩

end Compilation
end Companion
