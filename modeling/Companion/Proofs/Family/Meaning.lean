import Mathlib
import Companion.Proofs.Family.Rendered
import Companion.Proofs.Generator
import Companion.Proofs.MessageTable

/-! What generated message tables mean.

The code of a message table is read back from its formatted text, in whichever layout its lists and
arms stand. It then lists the locales of the directive in order of first occurrence, gives for each
of them the last message of the directive, and for every other text that of the fallback, however
the locales and messages are spelled (`artifact_shows`). -/
namespace Companion

namespace MessageTable
open Code Source

/-! ### The members of the code -/

theorem constant?_defaultConstant (t : MessageTable) :
    constant? ⟨t.type, t.members, []⟩ "DEFAULT_LOCALE" = some t.defaultConstant := by
  cases hc : t.code <;> simp [constant?, members, hc, codeConstant, defaultConstant]

theorem constant?_localesConstant (t : MessageTable) :
    constant? ⟨t.type, t.members, []⟩ "LOCALES" = some t.localesConstant := by
  cases hc :
    t.code <;> simp [constant?, members, hc, codeConstant, defaultConstant, localesConstant]

theorem table?_lookupTable (t : MessageTable) :
    table? ⟨t.type, t.members, []⟩ "message" = some t.lookupTable := by
  cases hc : t.code <;> simp [table?, members, hc, lookupTable]

theorem lookup_arms (ms : List Message) (key : String) :
    (ms.map fun m => (m.locale, m.value.plain)).lookup key =
      (ms.find? (·.locale = key)).map fun m => m.value.plain := by
  induction ms with
  | nil => rfl
  | cons m ms ih =>
    by_cases hm : m.locale = key
    · simp [hm]
    · have hskip : (key == m.locale) = false := by simpa using Ne.symm hm
      simp [List.lookup, hskip, hm, ih]

theorem apply_lookupTable (t : MessageTable) (key : String) :
    t.lookupTable.apply key =
      ((t.locales.find? (·.locale = key)).map fun m => m.value.plain).getD
        t.fallback.value.plain := by
  rw [Table.apply, lookupTable, lookup_arms]

/-! ### What the code says of the directive -/

/-- The code is a message table of the directive. -/
structure Shows (d : Directive) (code : Code) (table : Table) (fallback : Argument) : Prop where
  answering : d.fallback? = some fallback
  /-- The constants name the fallback and the locales. -/
  defaultLocale : (code.constant? "DEFAULT_LOCALE").map (·.value) =
    some (.scalar (.text fallback.name))
  locales : (code.constant? "LOCALES").map (·.value) = some (.texts d.localeNames)
  /-- The function has one arm for each locale, in the same order. -/
  function : code.table? "message" = some table
  patterns : table.arms.map Prod.fst = d.localeNames
  distinct : (table.arms.map Prod.fst).Nodup
  /-- The function gives the last message of a locale, and the fallback's for every other text. -/
  known : ∀ l ∈ d.localeNames, ∃ a, d.argument? l = some a ∧ table.apply l = a.value.plain
  unknown : ∀ l, l ∉ d.localeNames → table.apply l = fallback.value.plain
  default : table.apply fallback.name = fallback.value.plain

variable {type : AnnotatedType} {d : Directive} {t : MessageTable}

theorem Asked.apply_of_mem (h : Asked type d t) {l : String} (hl : l ∈ d.localeNames) :
    ∃ a, d.argument? l = some a ∧ t.lookupTable.apply l = a.value.plain := by
  rw [apply_lookupTable]
  cases hfind : t.locales.find? (·.locale = l) with
  | none =>
    rw [← h.locales] at hl
    obtain ⟨m, hm, rfl⟩ := List.mem_map.1 hl
    have hno := List.find?_eq_none.1 hfind m hm
    simp at hno
  | some m =>
    have hname : m.locale = l := by simpa using List.find?_some hfind
    exact ⟨argumentOf m, hname ▸ h.messages m (List.mem_of_find?_eq_some hfind), rfl⟩

theorem Asked.apply_of_not_mem (h : Asked type d t) {l : String} (hl : l ∉ d.localeNames) :
    t.lookupTable.apply l = t.fallback.value.plain := by
  have hfind : t.locales.find? (·.locale = l) = none := by
    rw [List.find?_eq_none]
    intro m hm hname
    rw [decide_eq_true_eq] at hname
    rw [← h.locales] at hl
    exact hl (List.mem_map.2 ⟨m, hm, hname⟩)
  rw [apply_lookupTable, hfind]
  rfl

/-- The default locale is an argument of the directive, so its message does not depend on whether it
has an arm. -/
theorem Asked.apply_fallback (h : Asked type d t) :
    t.lookupTable.apply t.fallback.locale = t.fallback.value.plain := by
  by_cases hl : t.fallback.locale ∈ d.localeNames
  · obtain ⟨a, ha, happly⟩ := h.apply_of_mem hl
    have hfallback : d.argument? t.fallback.locale = some (argumentOf t.fallback) :=
      Directive.argument?_of_fallback? h.fallback
    rw [hfallback] at ha
    rw [happly, ← Option.some.inj ha]
    rfl
  · exact h.apply_of_not_mem hl

theorem Asked.shows (h : Asked type d t) :
    Shows d ⟨t.type, t.members, []⟩ t.lookupTable (argumentOf t.fallback) where
  answering := h.fallback
  defaultLocale := by rw [constant?_defaultConstant]; rfl
  locales := by rw [constant?_localesConstant, ← h.locales]; rfl
  function := t.table?_lookupTable
  patterns := by rw [← h.locales]; simp [lookupTable, Function.comp_def]
  distinct := by
    have hnodup := d.nodup_localeNames
    rw [← h.locales] at hnodup
    simpa [lookupTable, Function.comp_def] using hnodup
  known l hl := h.apply_of_mem hl
  unknown l hl := h.apply_of_not_mem hl
  default := h.apply_fallback

/-! ### The code of an artifact -/

theorem spelled_members (htype : IsIdentifier t.type) (hcode : ∀ c ∈ t.code, c.acceptable = true) :
    ∀ m ∈ t.members, m.Spelled := by
  intro m hm
  rcases List.mem_append.1 hm with hm | hm
  · obtain ⟨c, hc, rfl⟩ := Option.map_eq_some_iff.1 (Option.mem_toList.1 hm)
    exact spelled_codeConstant htype (hcode c hc)
  · simp only [List.mem_cons, List.not_mem_nil, or_false] at hm
    rcases hm with rfl | rfl | rfl
    · exact t.spelled_defaultConstant
    · exact t.spelled_localesConstant
    · exact t.spelled_lookupTable

/-- The body of a table is the layout of the code that is read from its rendered text. -/
theorem exists_read?_of_body {g : Generator} (hg : g.Knows .messages) {body : String}
    (h : g.body "i18n" t.data = .ok body) : ∃ code : Code, body = String.ofList code.layout ∧
      read? (t.blockText ++ if t.isNewtype then (t.code.map t.instanceText).getD [] else []) =
        some code := by
  obtain ⟨text, code, htext, hread, rfl⟩ := Generator.body_eq_ok_iff.1 h
  have htemplate : g.engine.template? "i18n" = some (blockTemplate instanceTemplate) :=
    hg.2.trans compile_messages
  rw [Engine.chars, htemplate] at htext
  dsimp only at htext
  rw [render_block, render_instance] at htext
  obtain ⟨rest, hrest, rfl⟩ := Template.behind_eq_ok_iff.1 htext
  obtain rfl := Except.ok.inj hrest
  exact ⟨code, rfl, hread⟩

/-- The body of a table is the layout of code with the members of the table. -/
theorem exists_code_of_body {g : Generator} (hg : g.Knows .messages) (htype : IsIdentifier t.type)
    (hcode : ∀ c ∈ t.code, c.acceptable = true) {body : String}
    (h : g.body "i18n" t.data = .ok body) :
    ∃ code : Code, body = String.ofList code.layout ∧ code.type = t.type ∧
      code.members = t.members := by
  obtain ⟨code, hbody, hread⟩ := t.exists_read?_of_body hg h
  obtain ⟨ts, hmembers, hlex⟩ := t.exists_blockTokens_rendered htype hcode
  exact ⟨code, hbody, members_of_read? hlex htype.1 hmembers hread⟩

end MessageTable

namespace Generator
open MessageTable

/-- The table behind an artifact of a message directive. -/
theorem exists_table_of_artifact {g : Generator} (hg : g.Knows .messages) {file : Path}
    {type : AnnotatedType} {out : Generation} (hout : (g.generate file type).result = .ok out)
    {d : Directive} (hd : d ∈ type.directives) (hname : d.name = "i18n") {a : Artifact}
    (ha : a ∈ out.artifacts) (hdirective : a.directive = d.name) :
    ∃ t, Asked type d t ∧ g.body "i18n" t.data = .ok a.body := by
  obtain ⟨e, he, f, hf, happly⟩ := exists_apply_of_mem hout ha
  obtain ⟨-, -, hmade, -, data, hbuild, hbody⟩ := mem_apply happly List.mem_cons_self
  have hsame : e.name = d.name := hmade.symm.trans hdirective
  obtain rfl : e = d := directive_unique hout he hd hf hsame
  have hmessages : g.family? e.name = some .messages := by
    rw [hname]
    exact hg.1
  obtain rfl := Option.some.inj (hf.symm.trans hmessages)
  obtain ⟨table, htable, hdata⟩ := Logged.result_bind_eq_ok_iff.1 hbuild
  obtain ⟨t, rfl, rfl⟩ := Option.map_eq_some_iff.1 (Except.ok.inj hdata)
  exact ⟨t, asked_of_ofDirective (Logged.result_mapError_eq_ok_iff.1 htable), hbody⟩

/-- **The code of a message directive shows the directive.** It can be read back from the formatted
text, and a reader of the whole text finds the same members. -/
theorem artifact_shows {families : List Family} {g : Generator} (hg : ofFamilies families = .ok g)
    (hfamily : Family.messages ∈ families) {file : Path} {type : AnnotatedType}
    (htype : Source.IsIdentifier type.name) {out : Generation}
    (hout : (g.generate file type).result = .ok out) {d : Directive} (hd : d ∈ type.directives)
    (hname : d.name = "i18n") {a : Artifact} (ha : a ∈ out.artifacts)
    (hdirective : a.directive = d.name) :
    ∃ code table fallback, Code.readBlock? a.body.toList = some code ∧ code.type = type.name ∧
      Shows d code table fallback ∧
      ∀ whole, Code.read? a.body.toList = some whole → whole.members = code.members := by
  have hknows := knows_of_ofFamilies hg hfamily
  obtain ⟨t, hasked, hbody⟩ := exists_table_of_artifact hknows hout hd hname ha hdirective
  have htype : Source.IsIdentifier t.type := hasked.type ▸ htype
  obtain ⟨code, htext, hcode, hmembers⟩ := exists_code_of_body hknows htype hasked.code hbody
  have hspelled : code.Spelled := ⟨hcode ▸ htype, hmembers ▸ spelled_members htype hasked.code⟩
  have hchars : a.body.toList = code.layout := by rw [htext, String.toList_ofList]
  have hblock : code.block = ⟨t.type, t.members, []⟩ := by rw [Code.block, hcode, hmembers]
  refine ⟨code.block, t.lookupTable, argumentOf t.fallback, ?_, ?_, ?_, ?_⟩
  · rw [hchars]
    exact Code.readBlock?_layout hspelled
  · exact hcode.trans hasked.type
  · rw [hblock]
    exact hasked.shows
  · intro whole hwhole
    rw [hchars] at hwhole
    show whole.members = code.members
    exact Code.members_of_read?_layout hspelled hwhole

/-- A directive that gives one message twice, the second time with the text of an arm in it, and
falls back to its code. -/
def faultMessages : Directive :=
  ⟨"i18n", [⟨"en", .text "No"⟩, ⟨"code", .integer 7⟩, ⟨"default", .text "code"⟩,
    ⟨"en", .text "\", _ => \"No"⟩]⟩

def fault : AnnotatedType := ⟨"Fault", .newtype "u8", [faultMessages]⟩

theorem artifact_shows_code_default : ∃ g out a code table, ofFamilies [.messages] = .ok g ∧
    (g.generate ⟨"fault.rs"⟩ fault).result = .ok out ∧ a ∈ out.artifacts ∧
    Code.readBlock? a.body.toList = some code ∧
      Shows faultMessages code table ⟨"code", .integer 7⟩ := by
  obtain ⟨g, hg, hmade⟩ : ∃ g, ofFamilies [.messages] = .ok g ∧
      (g.generate ⟨"fault.rs"⟩ fault).result.toOption.map
        (fun out => out.artifacts.map Artifact.directive) = some ["i18n"] :=
    ⟨compiledStandard, standard_eq, by decide +kernel⟩
  have hidentifier : Source.IsIdentifier "Fault" :=
    Source.isIdentifier_of_word (by decide) (by decide)
  have hfallback : faultMessages.fallback? = some ⟨"code", .integer 7⟩ := by decide +kernel
  obtain ⟨out, hout, hdirectives⟩ := Option.map_eq_some_iff.1 hmade
  have hresult : (g.generate ⟨"fault.rs"⟩ fault).result = .ok out := by
    cases hr : (g.generate ⟨"fault.rs"⟩ fault).result with
    | error e => simp [hr, Except.toOption] at hout
    | ok made => simpa [hr, Except.toOption] using hout
  obtain ⟨a, ha, hdirective⟩ : ∃ a ∈ out.artifacts, a.directive = "i18n" := by
    have hmem : "i18n" ∈ out.artifacts.map Artifact.directive := by simp [hdirectives]
    exact List.mem_map.1 hmem
  obtain ⟨code, table, fallback, hread, -, hshows, -⟩ :=
    artifact_shows hg List.mem_cons_self hidentifier
    hresult (d := faultMessages) List.mem_cons_self rfl ha hdirective
  obtain rfl := Option.some.inj (hshows.answering.symm.trans hfallback)
  exact ⟨g, out, a, code, table, hg, hresult, ha, hread, hshows⟩

end Generator
end Companion
