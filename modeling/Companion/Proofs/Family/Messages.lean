import Mathlib
import Companion.Code.Layout
import Companion.Family.Messages
import Companion.Proofs.Template

/-! The text of a message table. The family's template is one block and what follows it
(`compile_messages`), and on the data of a table the block renders to the text of the members of the
table (`render_block`). -/
namespace Companion

/-! ### The members of a table -/

/-- The type of the constant for a code. -/
def ErrorCode.constantType (c : ErrorCode) : Code.ConstantType :=
  if c.representation = "" then
    match c.value with
    | .integer _ => .named "i64"
    | .boolean _ => .named "bool"
    | .text _ => .text
  else .named c.representation

namespace MessageTable

def codeConstant (type : String) (c : ErrorCode) : Code.Constant :=
  ⟨[" Error code of `" ++ type ++ "`."], "CODE", c.constantType, .scalar c.value⟩

def defaultConstant (t : MessageTable) : Code.Constant :=
  ⟨[" Locale used when a requested locale has no message."], "DEFAULT_LOCALE", .text,
    .scalar (.text t.fallback.locale)⟩

def localesConstant (t : MessageTable) : Code.Constant :=
  ⟨[" Locales with a message, in declaration order."], "LOCALES", .texts,
    .texts (t.locales.map Message.locale)⟩

def lookupTable (t : MessageTable) : Code.Table :=
  ⟨[" Message for `locale`, falling back to the default locale."], "message", "locale",
    t.locales.map fun m => (m.locale, m.value.plain), t.fallback.value.plain⟩

/-- The members of the block that shows a table. -/
def members (t : MessageTable) : List Code.Member :=
  (t.code.map fun c => .constant (codeConstant t.type c)).toList ++
    [.constant t.defaultConstant, .constant t.localesConstant, .table t.lookupTable]

/-! ### The template -/

section Template
open Template

/-- The part of the template for the code. -/
def codeTemplate : Template :=
  .text "\n/// Error code of `".toList <| .value ["type_name"] <|
    .text "`.\npub const CODE: ".toList <|
  .call "code_type" [.path ["code"]] <| .text " = ".toList <|
  .call "rust_literal" [.path ["code", "value"]] <| .text ";\n".toList .done

/-- The part of the template for one item of the list of locales. -/
def itemTemplate : Template := .call "rust_str" [.path ["locale"]] <| .text ", ".toList .done

/-- The part of the template for one arm. -/
def armTemplate : Template :=
  .text "\n".toList <| .call "rust_str" [.path ["locale"]] <| .text " => ".toList <|
  .call "rust_str" [.path ["value"]] <| .text ",\n".toList .done

/-- The template of the block, with what follows it. -/
def blockTemplate (next : Template) : Template :=
  .text "impl ".toList <| .value ["type_name"] <| .text " \x7b\n".toList <|
  .branch (.path ["code"]) codeTemplate .done <|
  .text ("\n/// Locale used when a requested locale has no message.".toList ++
    "\npub const DEFAULT_LOCALE: &'static str = ".toList) <|
  .call "rust_str" [.path ["default_locale", "locale"]] <|
  .text (";\n/// Locales with a message, in declaration order.".toList ++
    "\npub const LOCALES: &'static [&'static str] = &[".toList) <|
  .each (.path ["locales"]) itemTemplate <|
  .text ("];\n/// Message for `locale`, falling back to the default locale.".toList ++
    "\npub fn message(locale: &str) -> &'static str \x7b\nmatch locale \x7b\n".toList) <|
  .each (.path ["locales"]) armTemplate <|
  .text "\n_ => ".toList <| .call "rust_str" [.path ["default_locale", "value"]] <|
  .text ",\n\x7d\n\x7d\n\x7d\n".toList next

/-- The template of the constant behind the block of a newtype. -/
def instanceTemplate : Template :=
  .branch (.path ["alias"]) (.branch (.path ["code"])
    (.text "\n#[doc = ".toList <|
      .call "rust_str"
        [.constant (.text " "), .path ["default_locale", "value"], .constant (.text " ["),
        .path ["code", "value"], .constant (.text "]")] <|
      .text "]\npub const ".toList <| .call "screaming_snake" [.path ["type_name"]] <|
      .text ": ".toList <| .value ["type_name"] <| .text " = ".toList <| .value ["type_name"] <|
      .text "(".toList <| .value ["type_name"] <| .text "::CODE);\n".toList .done) .done .done)
        .done .done

theorem compile_messages :
    compile Family.messages.template = some (blockTemplate instanceTemplate) := by
  have hagree : (compile Family.messages.template).any (·.agrees (blockTemplate instanceTemplate)) =
    true := by
    decide +kernel
  obtain ⟨made, hmade, hsame⟩ := (Option.any_eq_true _ _).1 hagree
  rw [hmade, eq_of_agrees hsame]

/-! ### Rendering -/

theorem plain_ofScalar (v : Scalar) : (Value.ofScalar v).plain = v.plain := by
  cases v with
  | text s => rfl
  | integer i => rfl
  | boolean b => cases b <;> rfl

theorem literal?_ofScalar (v : Scalar) :
    (Value.ofScalar v).literal? = some (Code.scalarChars v) := by
  cases v with
  | text s => rfl
  | integer i =>
    simp [Value.ofScalar, Value.integer, Value.literal?, Value.jsonChars, Value.numberText,
      Code.scalarChars, Scalar.plain]
  | boolean b => cases b <;> rfl

theorem codeType_data (c : ErrorCode) :
    (codeType (codeData (some c))).toList = c.constantType.chars := by
  have hrepresentation : (codeData (some c)).field? "representation_type" =
    some (.text c.representation) := by
    simp [codeData, Value.field?]
  have hvalue : (codeData (some c)).field? "value" = some (.ofScalar c.value) := by
    simp [codeData, Value.field?, List.lookup]
  simp only [codeType, hrepresentation, hvalue]
  by_cases hempty : c.representation = ""
  · have hnone : c.representation.isEmpty = true := by simpa using hempty
    rw [ErrorCode.constantType, if_pos hempty, hnone]
    cases c.value <;> rfl
  · have hfull : c.representation.isEmpty = false := by simpa using hempty
    rw [ErrorCode.constantType, if_neg hempty, hfull]
    rfl

/-- The text of the code. -/
def codeText (type : String) (c : ErrorCode) : List Char :=
  "\n/// Error code of `".toList ++ type.toList ++ "`.\npub const CODE: ".toList ++
    c.constantType.chars ++ " = ".toList ++ Code.scalarChars c.value ++ ";\n".toList

variable (t : MessageTable)

theorem look_typeName : t.data.look ["type_name"] = .text t.type := by
  simp [data, Value.look, Value.field?]

theorem look_code : t.data.look ["code"] = codeData t.code := by
  simp [data, Value.look, Value.field?, List.lookup]

theorem look_alias : t.data.look ["alias"] = .boolean t.isNewtype := by
  simp [data, Value.look, Value.field?, List.lookup]

theorem look_codeValue {c : ErrorCode} (h : t.code = some c) :
    t.data.look ["code", "value"] = .ofScalar c.value := by
  simp [data, Value.look, Value.field?, List.lookup, h, codeData]

theorem look_defaultLocale :
    t.data.look ["default_locale", "locale"] = .text t.fallback.locale := by
  simp [data, Value.look, Value.field?, List.lookup, Message.data]

theorem look_defaultValue :
    t.data.look ["default_locale", "value"] = .ofScalar t.fallback.value := by
  simp [data, Value.look, Value.field?, List.lookup, Message.data]

theorem look_locales : t.data.look ["locales"] = .list (t.locales.map Message.data) := by
  simp [data, Value.look, Value.field?, List.lookup]

theorem type_code {c : ErrorCode} (h : t.code = some c) :
    applyHelper "code_type" [t.data.look ["code"]] = .ok c.constantType.chars := by
  rw [look_code, h, ← codeType_data]
  simp [applyHelper]

theorem literal_code {c : ErrorCode} (h : t.code = some c) :
    applyHelper "rust_literal" [t.data.look ["code", "value"]] =
      .ok (Code.scalarChars c.value) := by
  rw [look_codeValue t h]
  simp [applyHelper, literal?_ofScalar]

theorem render_code {c : ErrorCode} (h : t.code = some c) :
    codeTemplate.render t.data = .ok (codeText t.type c) := by
  unfold codeTemplate
  rw [render_text, render_value, look_typeName, render_text, render_call (type_code t h),
    render_text, render_call (literal_code t h), render_text, render_done]
  unfold codeText
  simp [behind, Except.map, Value.shown]

/-- The text of an item of the list of locales. -/
def itemText (m : Message) : List Char := Text.literalChars m.locale ++ ", ".toList

/-- The text of an arm. -/
def armText (m : Message) : List Char :=
  "\n".toList ++ Text.literalChars m.locale ++ " => ".toList ++ Text.literalChars m.value.plain ++
    ",\n".toList

theorem literal_locale (m : Message) :
    applyHelper "rust_str" [m.data.look ["locale"]] = .ok (Text.literalChars m.locale) := by
  refine applyHelper_literal ?_
  simp [Message.data, Value.look, Value.field?, Value.plain]

theorem literal_value (m : Message) :
    applyHelper "rust_str" [m.data.look ["value"]] = .ok (Text.literalChars m.value.plain) := by
  refine applyHelper_literal ?_
  simp [Message.data, Value.look, Value.field?, List.lookup, plain_ofScalar]

theorem render_item (m : Message) : itemTemplate.render m.data = .ok (itemText m) := by
  unfold itemTemplate itemText
  rw [render_call (literal_locale m), render_text, render_done]
  simp [behind, Except.map]

theorem render_arm (m : Message) : armTemplate.render m.data = .ok (armText m) := by
  unfold armTemplate armText
  rw [render_text, render_call (literal_locale m), render_text, render_call (literal_value m),
    render_text, render_done]
  simp [behind, Except.map]

/-- The text of the block. -/
def blockText : List Char :=
  "impl ".toList ++ t.type.toList ++ " \x7b\n".toList ++ (t.code.map (codeText t.type)).getD [] ++
  ("\n/// Locale used when a requested locale has no message.".toList ++
    "\npub const DEFAULT_LOCALE: &'static str = ".toList) ++
  Text.literalChars t.fallback.locale ++
  (";\n/// Locales with a message, in declaration order.".toList ++
    "\npub const LOCALES: &'static [&'static str] = &[".toList) ++
  t.locales.flatMap itemText ++
  ("];\n/// Message for `locale`, falling back to the default locale.".toList ++
    "\npub fn message(locale: &str) -> &'static str \x7b\nmatch locale \x7b\n".toList) ++
  t.locales.flatMap armText ++ "\n_ => ".toList ++ Text.literalChars t.fallback.value.plain ++
  ",\n\x7d\n\x7d\n\x7d\n".toList

theorem render_block (next : Template) :
    (blockTemplate next).render t.data = behind t.blockText (next.render t.data) := by
  have hcode : (if (Operand.value t.data (.path ["code"])).holds then codeTemplate.render t.data
      else done.render t.data) = .ok ((t.code.map (codeText t.type)).getD []) := by
    rw [Operand.value, look_code]
    cases hc : t.code with
    | none => exact @render_done t.data
    | some c => exact render_code t hc
  have hdefault : applyHelper "rust_str" [t.data.look ["default_locale", "locale"]] =
      .ok (Text.literalChars t.fallback.locale) :=
        applyHelper_literal (by rw [look_defaultLocale]; rfl)
  have hvalue : applyHelper "rust_str" [t.data.look ["default_locale", "value"]] =
      .ok (Text.literalChars t.fallback.value.plain) :=
    applyHelper_literal (by rw [look_defaultValue, plain_ofScalar])
  have hlocales : (Operand.value t.data (.path ["locales"])).items =
    t.locales.map Message.data := by
    rw [Operand.value, look_locales]
    rfl
  unfold blockTemplate blockText
  rw [render_text, render_value, look_typeName, render_text, render_branch hcode, render_text,
    render_call hdefault, render_text, render_each hlocales render_item, render_text,
    render_each hlocales render_arm, render_text, render_call hvalue, render_text]
  simp only [behind_behind, List.append_assoc]
  rfl

/-- The doc text of the constant behind the block. -/
def instanceDoc (c : ErrorCode) : String :=
  " " ++ t.fallback.value.plain ++ " [" ++ c.value.plain ++ "]"

/-- The text of a constant of the type, behind its name. -/
def usageText (type : String) : List Char :=
  ": ".toList ++ type.toList ++ " = ".toList ++ type.toList ++ "(".toList ++ type.toList ++
    "::CODE);\n".toList

/-- The text of the constant behind the block. -/
def instanceText (c : ErrorCode) : List Char :=
  "\n#[doc = ".toList ++ Text.literalChars (t.instanceDoc c) ++ "]\npub const ".toList ++
    (Text.screamingSnake t.type).toList ++ usageText t.type

theorem literal_instanceDoc {c : ErrorCode} (h : t.code = some c) :
    applyHelper "rust_str"
      ([.constant (.text " "), .path ["default_locale", "value"], .constant (.text " ["),
      .path ["code", "value"], .constant (.text "]")].map (Operand.value t.data)) =
      .ok (Text.literalChars (t.instanceDoc c)) := by
  have hplain : ∀ s, (Value.text s).plain = s := fun s => rfl
  rw [applyHelper_text, Text.literalChars, instanceDoc]
  simp [Operand.value, look_defaultValue, look_codeValue t h, plain_ofScalar, hplain]

/-- Behind the block of a newtype with a code stands its constant, and behind every other block
nothing. -/
theorem render_instance : instanceTemplate.render t.data =
    .ok (if t.isNewtype then (t.code.map t.instanceText).getD [] else []) := by
  have hname : applyHelper "screaming_snake" [t.data.look ["type_name"]] =
      .ok (Text.screamingSnake t.type).toList := by
    rw [look_typeName]
    simp [applyHelper]
  have hbehind : ∀ cs, behind cs (done.render t.data) = .ok cs := by
    intro cs
    rw [render_done]
    simp [behind, Except.map]
  unfold instanceTemplate
  refine (render_branch ?_).trans (hbehind _)
  rw [Operand.value, look_alias]
  cases t.isNewtype with
  | false => exact @render_done t.data
  | true =>
    refine (render_branch ?_).trans (hbehind _)
    rw [Operand.value, look_code]
    cases hc : t.code with
    | none => exact @render_done t.data
    | some c =>
      have hholds : (codeData (some c)).holds = true := rfl
      rw [if_pos hholds, render_text, render_call (literal_instanceDoc t hc), render_text,
        render_call hname, render_text, render_value, render_text, render_value, render_text,
        render_value, render_text, look_typeName, hbehind]
      unfold instanceText usageText
      simp only [behind, Except.map, Value.shown, if_true, Option.map_some, Option.getD_some,
        List.append_assoc]

end Template

end MessageTable
end Companion
