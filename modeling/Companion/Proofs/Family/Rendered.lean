import Mathlib
import Companion.Proofs.Code.RoundTrip
import Companion.Proofs.Family.Messages

/-! Reading a rendered message table. Every part of the text that the template gives is read as a
member of the table, so the whole is read as its block (`exists_blockTokens_rendered`). -/
namespace Companion
open Code Source Text

/-! ### Parts that can stand in a text -/

theorem ErrorCode.isIdentifier_of_integerRange? {primitive : String} {range : Int × Int}
    (h : integerRange? primitive = some range) : IsIdentifier primitive := by
  unfold integerRange? at h
  split at h
  all_goals cases h
  all_goals exact isIdentifier_of_word (by decide) (by decide)

theorem ErrorCode.spelled_constantType {c : ErrorCode} (h : c.acceptable = true) :
    c.constantType.Spelled := by
  have hbool : IsIdentifier "bool" := isIdentifier_of_word (by decide) (by decide)
  unfold acceptable at h
  unfold constantType
  by_cases hempty : c.representation = ""
  · rw [if_pos hempty]
    cases c.value with
    | integer i => exact isIdentifier_of_word (by decide) (by decide)
    | boolean b => exact hbool
    | text s => trivial
  · rw [if_neg hempty] at h ⊢
    show IsIdentifier c.representation
    cases hvalue : c.value with
    | integer i =>
      simp only [hvalue, integerFits] at h
      split at h
      · next low high hrange => exact isIdentifier_of_integerRange? hrange
      · cases h
    | boolean b =>
      simp only [hvalue, decide_eq_true_eq] at h
      rw [h]
      exact hbool
    | text s => simp [hvalue] at h

namespace MessageTable

theorem plainDoc_code {type : String} (h : IsIdentifier type) :
    PlainDoc (" Error code of `" ++ type ++ "`.") := by
  have hline : '\n' ∉ type.toList := newline_not_mem_identifier h
  have hreturn : '\r' ∉ type.toList := not_mem_identifier h (by decide) (by decide) (by decide)
  refine ⟨⟨?_, by simp⟩, by simp [List.getLast?_cons]⟩
  intro c hc
  constructor
  · rintro rfl
    simp [hline] at hc
  · rintro rfl
    simp [hreturn] at hc

theorem spelled_codeConstant {type : String} (htype : IsIdentifier type) {c : ErrorCode}
    (hc : c.acceptable = true) : (codeConstant type c).Spelled where
  name := (isIdentifier_of_word (by decide) (by decide) : IsIdentifier "CODE")
  type := c.spelled_constantType hc
  docs := by
    intro doc hdoc
    obtain rfl := List.mem_singleton.1 hdoc
    exact plainDoc_code htype
  value := by simp [codeConstant]

variable (t : MessageTable)

theorem spelled_defaultConstant : t.defaultConstant.Spelled where
  name := (isIdentifier_of_word (by decide) (by decide) : IsIdentifier "DEFAULT_LOCALE")
  type := trivial
  docs := by
    intro doc hdoc
    obtain rfl := List.mem_singleton.1 hdoc
    exact ⟨⟨by simp, by simp⟩, by simp⟩
  value := by simp [defaultConstant]

theorem spelled_localesConstant : t.localesConstant.Spelled where
  name := (isIdentifier_of_word (by decide) (by decide) : IsIdentifier "LOCALES")
  type := trivial
  docs := by
    intro doc hdoc
    obtain rfl := List.mem_singleton.1 hdoc
    exact ⟨⟨by simp, by simp⟩, by simp⟩
  value := by simp [localesConstant]

theorem spelled_lookupTable : t.lookupTable.Spelled where
  name := (isIdentifier_of_word (by decide) (by decide) : IsIdentifier "message")
  parameter := (isIdentifier_of_word (by decide) (by decide) : IsIdentifier "locale")
  docs := by
    intro doc hdoc
    obtain rfl := List.mem_singleton.1 hdoc
    exact ⟨⟨by simp, by simp⟩, by simp⟩

/-! ### The parts of the text -/

/-- A doc text and the constant under it, up to its value. -/
theorem lexes_described {c : Constant} (h : c.Spelled) {doc : String} (hdoc : c.docs = [doc])
    {cs : List Char} {ts : Tokens} (hvalue : Lexes cs ts) :
    Lexes ("///".toList ++ doc.toList ++ ['\n'] ++ (c.head ++ cs))
      (docTokens c.docs ++ (headTokens c ++ ts)) := by
  have hplain : PlainDoc doc := h.docs doc (by simp [hdoc])
  rw [hdoc]
  exact (lexes_docLine hplain.1).append (lexes_head h.name h.type hvalue)

theorem lexes_codeText {type : String} (htype : IsIdentifier type) {c : ErrorCode}
    (hc : c.acceptable = true) :
    Lexes (codeText type c)
      (docTokens (codeConstant type c).docs ++ constantTokens (codeConstant type c)
        (scalarTokens c.value)) := by
  have hconstant :=
    lexes_described (spelled_codeConstant htype hc) rfl (lexes_scalar c.value lexes_semicolon)
  have htext : codeText type c =
    ['\n'] ++ ("///".toList ++ (" Error code of `" ++ type ++ "`.").toList ++ ['\n'] ++
      ((codeConstant type c).head ++ (scalarChars c.value ++ [';', '\n']))) := by
    unfold codeText Constant.head
    simp [codeConstant]
  rw [htext, constantTokens_eq]
  exact lexes_lineEnd.append hconstant

theorem exists_itemTokens_rendered (ms : List Message) :
    ∃ ts, ItemTokens (ms.map Message.locale) ts ∧ Lexes (ms.flatMap itemText) ts := by
  induction ms with
  | nil => exact ⟨[], .nil, Lexes.nil⟩
  | cons m ms ih =>
    obtain ⟨ts, hitems, hlex⟩ := ih
    have hitem : Lexes (itemText m) [textToken m.locale, .punct ',' false] :=
      lexes_literal m.locale (by decide) lexes_commaSpace
    exact ⟨_, .cons m.locale false hitems, hitem.append hlex⟩

theorem exists_armTokens_rendered (ms : List Message) :
    ∃ ts, ArmTokens (ms.map fun m => (m.locale, m.value.plain)) ts ∧
      Lexes (ms.flatMap armText) ts := by
  induction ms with
  | nil => exact ⟨[], .nil, Lexes.nil⟩
  | cons m ms ih =>
    obtain ⟨ts, harms, hlex⟩ := ih
    have hvalue := lexes_literal m.value.plain (by decide) lexes_commaLine
    have harm : Lexes (armText m)
      (textToken m.locale :: arrow ++ [textToken m.value.plain, .punct ',' false]) := by
      have hline :=
        lexes_lineEnd.append (lexes_literal m.locale (by decide) (lexes_arrow.append hvalue))
      unfold armText
      simpa using hline
    exact ⟨_, .cons m.locale (.plain m.value.plain false) harms, harm.append hlex⟩

/-! ### The block -/

/-- The text of the default locale. -/
def defaultText : List Char :=
  "///".toList ++ " Locale used when a requested locale has no message.".toList ++ ['\n'] ++
    (t.defaultConstant.head ++ (literalChars t.fallback.locale ++ [';', '\n']))

/-- The text of the list of locales. -/
def localesText : List Char :=
  "///".toList ++ " Locales with a message, in declaration order.".toList ++ ['\n'] ++
    (t.localesConstant.head ++ (['&', '['] ++ (t.locales.flatMap itemText ++ [']', ';', '\n'])))

/-- The text in front of the arms. -/
def matchText : List Char :=
  "pub fn ".toList ++ t.lookupTable.name.toList ++ "(".toList ++ t.lookupTable.parameter.toList ++
    ": &str) -> &'static str \x7b".toList ++ ['\n'] ++ "match locale \x7b\n".toList

/-- The text of the function. -/
def lookupText : List Char :=
  "///".toList ++ " Message for `locale`, falling back to the default locale.".toList ++ ['\n'] ++
    (t.matchText ++ (t.locales.flatMap armText ++
      ("\n_ => ".toList ++
        (literalChars t.fallback.value.plain ++ [',', '\n', '\x7d', '\n', '\x7d', '\n']))))

theorem head_defaultConstant :
    t.defaultConstant.head = "pub const DEFAULT_LOCALE: &'static str = ".toList := by
  show "pub const ".toList ++ "DEFAULT_LOCALE".toList ++ ": ".toList ++ "&'static str".toList ++
    " = ".toList = _
  decide

theorem head_localesConstant :
    t.localesConstant.head = "pub const LOCALES: &'static [&'static str] = ".toList := by
  show "pub const ".toList ++ "LOCALES".toList ++ ": ".toList ++ "&'static [&'static str]".toList ++
    " = ".toList = _
  decide

theorem matchText_eq :
    t.matchText =
      "pub fn message(locale: &str) -> &'static str \x7b\nmatch locale \x7b\n".toList := by
  show "pub fn ".toList ++ "message".toList ++ "(".toList ++ "locale".toList ++
    ": &str) -> &'static str \x7b".toList ++ ['\n'] ++ "match locale \x7b\n".toList = _
  decide

/-- The template cuts its text elsewhere than between the members. -/
theorem blockText_eq : t.blockText = "impl ".toList ++ (t.type.toList ++ ([' ', '\x7b', '\n'] ++
    ((t.code.map (codeText t.type)).getD [] ++ (['\n'] ++ (t.defaultText ++ (t.localesText ++
      (t.lookupText ++ ['\x7d', '\n']))))))) := by
  have hopen : " \x7b\n".toList = [' ', '\x7b', '\n'] := rfl
  have hdefault : "\n/// Locale used when a requested locale has no message.".toList ++
      "\npub const DEFAULT_LOCALE: &'static str = ".toList = ['\n'] ++ ("///".toList ++
      " Locale used when a requested locale has no message.".toList ++ ['\n'] ++
        t.defaultConstant.head) := by
    rw [head_defaultConstant]
    decide
  have hlocales : ";\n/// Locales with a message, in declaration order.".toList ++
      "\npub const LOCALES: &'static [&'static str] = &[".toList = [';', '\n'] ++ ("///".toList ++
      " Locales with a message, in declaration order.".toList ++ ['\n'] ++
      (t.localesConstant.head ++ ['&', '['])) := by
    rw [head_localesConstant]
    decide
  have hmatch : "];\n/// Message for `locale`, falling back to the default locale.".toList ++
      "\npub fn message(locale: &str) -> &'static str \x7b\nmatch locale \x7b\n".toList =
      [']', ';', '\n'] ++ ("///".toList ++
        " Message for `locale`, falling back to the default locale.".toList ++ ['\n'] ++
          t.matchText) := by
    rw [matchText_eq]
    decide
  have hclose : ",\n\x7d\n\x7d\n\x7d\n".toList =
      [',', '\n', '\x7d', '\n', '\x7d', '\n'] ++ ['\x7d', '\n'] := rfl
  unfold blockText defaultText localesText lookupText
  rw [hopen, hdefault, hlocales, hmatch, hclose]
  simp only [List.append_assoc]

theorem exists_memberTokens_default :
    ∃ ts, MemberTokens (.constant t.defaultConstant) ts ∧ Lexes t.defaultText ts := by
  have hspelled := t.spelled_defaultConstant
  have hvalue := lexes_scalar (.text t.fallback.locale) lexes_semicolon
  refine ⟨_, .constant hspelled.name.1 hspelled.type.readable (.scalar (.text t.fallback.locale)),
    ?_⟩
  rw [constantTokens_eq]
  exact lexes_described hspelled rfl hvalue

theorem exists_memberTokens_locales :
    ∃ ts, MemberTokens (.constant t.localesConstant) ts ∧ Lexes t.localesText ts := by
  have hspelled := t.spelled_localesConstant
  obtain ⟨ts, hitems, hlex⟩ := exists_itemTokens_rendered t.locales
  have hvalue := lexes_described hspelled rfl (lexes_listOpen.append (hlex.append lexes_listClose))
  refine ⟨_, .constant hspelled.name.1 hspelled.type.readable (.texts hitems), ?_⟩
  rw [constantTokens_eq]
  simpa [localesText, localesConstant] using hvalue

theorem exists_memberTokens_lookup :
    ∃ ts, MemberTokens (.table t.lookupTable) ts ∧ Lexes t.lookupText ts := by
  have hspelled := t.spelled_lookupTable
  obtain ⟨ts, harms, hlex⟩ := exists_armTokens_rendered t.locales
  have hdoc := lexes_docLine (hspelled.docs _ List.mem_cons_self).1
  have hmatch : Lexes "match locale \x7b\n".toList
    [.word "match", .word "locale", .opening .brace] := by
    decide
  have hotherwise : Lexes "\n_ => ".toList (.word "_" :: arrow) := by decide
  have hend : Lexes [',', '\n', '\x7d', '\n', '\x7d', '\n']
    [.punct ',' false, .closing .brace, .closing .brace] := by
    decide
  have hvalue := lexes_literal t.fallback.value.plain (by decide) hend
  have hbody :=
    ((lexes_signature hspelled).append hmatch).append (hlex.append (hotherwise.append hvalue))
  refine ⟨_,
    .table hspelled.name.1 hspelled.parameter.1 harms (.plain t.fallback.value.plain false), ?_⟩
  exact hdoc.append hbody

theorem exists_memberTokens_code (htype : IsIdentifier t.type)
    (hcode : ∀ c ∈ t.code, c.acceptable = true) :
    ∃ ts, MembersTokens (t.code.map fun c => .constant (codeConstant t.type c)).toList ts ∧
      Lexes ((t.code.map (codeText t.type)).getD []) ts := by
  cases hc : t.code with
  | none => exact ⟨[], .nil, Lexes.nil⟩
  | some c =>
    have hspelled := spelled_codeConstant htype (hcode c hc)
    have hlex := lexes_codeText htype (hcode c hc)
    have hmember := MemberTokens.constant hspelled.name.1 hspelled.type.readable (.scalar c.value)
    refine ⟨_, .cons hmember .nil, ?_⟩
    rw [List.append_nil]
    exact hlex

/-- **The rendered block is read as the members of the table.** -/
theorem exists_blockTokens_rendered (htype : IsIdentifier t.type)
    (hcode : ∀ c ∈ t.code, c.acceptable = true) :
    ∃ ts, MembersTokens t.members ts ∧ Lexes t.blockText (blockTokens t.type ts) := by
  obtain ⟨cs, hcode, hlexCode⟩ := t.exists_memberTokens_code htype hcode
  obtain ⟨ds, hdefault, hlexDefault⟩ := t.exists_memberTokens_default
  obtain ⟨ls, hlocales, hlexLocales⟩ := t.exists_memberTokens_locales
  obtain ⟨us, hlookup, hlexLookup⟩ := t.exists_memberTokens_lookup
  have hfront : Lexes "impl ".toList [.word "impl"] := by decide
  have hmembers := hlexCode.append (lexes_lineEnd.append (hlexDefault.append (hlexLocales.append
    (hlexLookup.append lexes_blockClose))))
  have hname := lexes_identifier htype (by decide) (lexes_blockOpen.append hmembers)
  refine ⟨_, hcode.append (.cons hdefault (.cons hlocales (.cons hlookup .nil))), ?_⟩
  rw [blockText_eq]
  simpa [blockTokens] using hfront.append hname

end MessageTable
end Companion
