import Mathlib
import Companion.Proofs.Family.Rendered
import Companion.Proofs.MessageTable.Request

/-! The constant for the code of a type. Its type and its literal are written by two helpers, and
whether a code may be written at all is decided before either of them is called. The three agree: a
code is refused exactly when no constant of the type can have it, and for every other code the
rendered text holds the declaration of a constant that is read back with the code as its value and a
type that has this value (`declares_code_iff_takes`). -/
namespace Companion

/-! ### Types and values -/

namespace Code

/-- The value is one of those of the type. -/
def ConstantType.Has : ConstantType → Scalar → Prop
  | .named name, .integer i =>
    ∃ t, IntegerType.named? name = some t ∧ t.least ≤ i.toInt ∧ i.toInt ≤ t.greatest
  | .named name, .boolean _ => name = "bool"
  | .text, .text _ => True
  | _, _ => False

/-- The type of the constant for a code: the primitive of a newtype; for an aggregate one that has
the value. -/
def ConstantType.ofCode : Underlying → Scalar → ConstantType
  | .newtype p, _ => .named p
  | .aggregate, .integer _ => .named "i64"
  | .aggregate, .boolean _ => .named "bool"
  | .aggregate, .text _ => .text

/-- A constant of the type of a code can have the code. -/
theorem ConstantType.has_ofCode {u : Underlying} {v : Scalar} (h : u.Takes v) :
    (ofCode u v).Has v := by
  cases h with
  | boolean b => rfl
  | integer ht hlow hhigh => exact ⟨_, ht, hlow, hhigh⟩
  | aggregate v =>
    cases v with
    | text s => trivial
    | boolean b => rfl
    | integer i =>
      have hlow := i.le_toInt
      have hhigh := i.toInt_lt
      refine ⟨⟨true, 64⟩, rfl, ?_, ?_⟩
      · simpa [IntegerType.least] using hlow
      · show i.toInt ≤ 2 ^ 63 - 1
        omega

end Code

theorem ErrorCode.constantType_eq {u : Underlying} (h : u.Declared) (v : Scalar) :
    constantType ⟨u.primitive, v⟩ = Code.ConstantType.ofCode u v := by
  cases u with
  | aggregate => cases v <;> rfl
  | newtype p =>
    have hprimitive : isPrimitive p = true := h
    have hnamed : p ≠ "" := by
      rintro rfl
      exact absurd hprimitive (by decide)
    simp [constantType, Underlying.primitive, hnamed, Code.ConstantType.ofCode]

namespace MessageTable
open Code Source Template

/-! ### The declaration -/

/-- The declaration of the code with the given type and literal. -/
def declaration (type literal : List Char) : List Char :=
  "pub const CODE: ".toList ++ type ++ " = ".toList ++ literal ++ ";\n".toList

theorem declaration_eq (c : Constant) (literal : List Char) (hname : c.name = "CODE") :
    declaration c.type.chars literal = c.head ++ (literal ++ [';', '\n']) := by
  have hfront : "pub const CODE: ".toList = "pub const ".toList ++ "CODE".toList ++
    ": ".toList := by decide
  have hend : ";\n".toList = [';', '\n'] := rfl
  unfold declaration Constant.head
  rw [hname, hfront, hend, List.append_assoc, List.append_assoc]

/-- The declaration of a code is read as its constant. -/
theorem read_declaration {c : ErrorCode} (h : c.acceptable = true) :
    (lex? (declaration c.constantType.chars (scalarChars c.value))).bind eatMember =
      some (.constant ⟨[], "CODE", c.constantType, .scalar c.value⟩, []) := by
  let constant : Constant := ⟨[], "CODE", c.constantType, .scalar c.value⟩
  have hname : IsIdentifier constant.name :=
    (isIdentifier_of_word (by decide) (by decide) : IsIdentifier "CODE")
  have htype : constant.type.Spelled := c.spelled_constantType h
  have htokens : MemberTokens (.constant constant)
    (docTokens [] ++ constantTokens constant (scalarTokens c.value)) :=
    .constant hname.1 htype.readable (.scalar c.value)
  have htext := lexes_head hname htype (lexes_scalar c.value lexes_semicolon)
  rw [← constantTokens_eq] at htext
  have hbalanced := closed_member htokens [] []
  have hread := eatMember_tokens htokens []
  rw [List.append_nil] at hbalanced hread
  have hchars := declaration_eq constant (scalarChars c.value) rfl
  rw [hchars, htext.lex?_eq hbalanced]
  exact hread

/-! ### The rendered text -/

theorem codeText_eq (type : String) (c : ErrorCode) :
    codeText type c = "\n/// Error code of `".toList ++ type.toList ++ "`.\n".toList ++
      declaration c.constantType.chars (scalarChars c.value) := by
  have hcut : "`.\npub const CODE: ".toList = "`.\n".toList ++ "pub const CODE: ".toList := by
    decide
  unfold codeText declaration
  rw [hcut]
  simp only [List.append_assoc]

/-- The declaration of a code stands in the text of its table. -/
theorem exists_render_declaration (t : MessageTable) {c : ErrorCode} (h : t.code = some c) :
    ∃ template front back, compile Family.messages.template = some template ∧
      template.render t.data =
      .ok (front ++ declaration c.constantType.chars (scalarChars c.value) ++ back) := by
  obtain ⟨rest, hrest⟩ : ∃ rest, instanceTemplate.render t.data = .ok rest := ⟨_, t.render_instance⟩
  have hcode : (t.code.map (codeText t.type)).getD [] = codeText t.type c := by rw [h]; rfl
  have hblock := t.blockText_eq
  rw [hcode, codeText_eq] at hblock
  refine ⟨_, "impl ".toList ++
    (t.type.toList ++ ([' ', '\x7b', '\n'] ++ ("\n/// Error code of `".toList ++
    t.type.toList ++ "`.\n".toList))), ['\n'] ++ (t.defaultText ++ (t.localesText ++
    (t.lookupText ++ ['\x7d', '\n']))) ++ rest, compile_messages, ?_⟩
  rw [render_block, hrest, hblock]
  simp only [Template.behind, Except.map, List.append_assoc]

/-- The constant for a code in the text of a table: how it is written, and what it says. -/
structure DeclaresCode (t : MessageTable) (u : Underlying) (v : Scalar) (type literal : List Char) :
    Prop where
  /-- The helpers write the type and the literal. -/
  typeText : applyHelper "code_type" [t.data.look ["code"]] = .ok type
  literalText : applyHelper "rust_literal" [t.data.look ["code", "value"]] = .ok literal
  /-- The template puts them into one declaration. -/
  rendered : ∃ template front back, compile Family.messages.template = some template ∧
    template.render t.data = .ok (front ++ declaration type literal ++ back)
  /-- The declaration is that of a constant with the code as its value and of a type that has it. -/
  spelled : type = (ConstantType.ofCode u v).chars
  read : (lex? (declaration type literal)).bind eatMember =
    some (.constant ⟨[], "CODE", ConstantType.ofCode u v, .scalar v⟩, [])
  typed : (ConstantType.ofCode u v).Has v

theorem declaresCode {t : MessageTable} {u : Underlying} {v : Scalar} (hu : u.Declared)
    (hv : u.Takes v) (hcode : t.code = some ⟨u.primitive, v⟩) :
    t.DeclaresCode u v (ConstantType.ofCode u v).chars (scalarChars v) where
  typeText := by rw [← ErrorCode.constantType_eq hu]; exact t.type_code hcode
  literalText := t.literal_code hcode
  rendered := by rw [← ErrorCode.constantType_eq hu]; exact t.exists_render_declaration hcode
  spelled := rfl
  read := by
    have haccepted : ErrorCode.acceptable ⟨u.primitive, v⟩ = true := by
      rw [ErrorCode.acceptable_eq]
      exact (Underlying.represents_iff_takes hu v).2 hv
    rw [← ErrorCode.constantType_eq hu]
    exact read_declaration haccepted
  typed := ConstantType.has_ofCode hv

/-! ### Which codes are written -/

/-- A directive with a locale has a first message. -/
theorem exists_messages_cons {d : Directive} {a : Argument} (ha : a ∈ d.arguments)
    (hcode : a.name ≠ "code") (hdefault : a.name ≠ "default") :
    ∃ first others, d.messages = first :: others := by
  have hname : a.name ∈ d.messages.map Message.locale := by
    rw [locale_messages, Directive.localeNames, List.mem_filter, List.mem_eraseDups]
    exact ⟨List.mem_map_of_mem ha, by simp [hcode, hdefault]⟩
  cases hmessages : d.messages with
  | nil => simp [hmessages] at hname
  | cons first others => exact ⟨first, others, rfl⟩

/-- What becomes of a code on a directive with a locale. -/
theorem result_of_code {type : AnnotatedType} (htype : type.underlying.Declared) {d : Directive}
    {a : Argument} (ha : a ∈ d.arguments) (hcode : a.name ≠ "code") (hdefault : a.name ≠ "default")
    {v : Scalar} (hv : d.last? "code" = some v) :
    (type.underlying.Takes v ∧ ∃ t, (ofDirective type d).result = .ok (some t) ∧
      t.code = some ⟨type.underlying.primitive, v⟩) ∨
    (¬type.underlying.Takes v ∧ (ofDirective type d).result =
      .error ⟨type.name, d.name, "code", v, type.underlying.primitive⟩) := by
  obtain ⟨first, others, hmessages⟩ := exists_messages_cons ha hcode hdefault
  rw [← Underlying.represents_iff_takes htype, result_ofDirective, requested, hmessages, hv]
  cases hrepresents : type.underlying.represents v with
  | true => exact Or.inl ⟨rfl, by simp [Option.filter, hrepresents]⟩
  | false => exact Or.inr ⟨by simp, by simp [Option.filter, hrepresents]⟩

/-- **A code is refused exactly when no constant of the type can have it, and is otherwise declared
as a constant of a type that has it.** -/
theorem declares_code_iff_takes {type : AnnotatedType} (htype : type.underlying.Declared)
    {d : Directive} {a : Argument} (ha : a ∈ d.arguments) (hcode : a.name ≠ "code")
    (hdefault : a.name ≠ "default") {v : Scalar} (hv : d.last? "code" = some v) :
    ((∃ made, (ofDirective type d).result = .ok made) ↔ type.underlying.Takes v) ∧
    (type.underlying.primitive ∈ ["char", "f32", "f64"] → (ofDirective type d).result =
      .error ⟨type.name, d.name, "code", v, type.underlying.primitive⟩) ∧
    ∀ made, (ofDirective type d).result = .ok made →
      ∃ t typeText literal, made = some t ∧ t.DeclaresCode type.underlying v typeText literal := by
  rcases result_of_code htype ha hcode hdefault hv with
    ⟨htakes, t, hresult, htable⟩ | ⟨hrefused, hresult⟩
  · refine ⟨⟨fun _ => htakes, fun _ => ⟨_, hresult⟩⟩, fun hnone => ?_, fun made hmade => ?_⟩
    · cases hu : type.underlying with
      | aggregate => simp [hu, Underlying.primitive] at hnone
      | newtype p =>
        rw [hu] at hnone htakes
        exact absurd htakes (Underlying.not_takes hnone v)
    · obtain rfl := Except.ok.inj (hresult.symm.trans hmade)
      exact ⟨t, _, _, rfl, declaresCode htype htakes htable⟩
  · refine ⟨⟨?_, fun htakes => absurd htakes hrefused⟩, fun _ => hresult, fun made hmade => ?_⟩
    · rintro ⟨made, hmade⟩
      cases hresult.symm.trans hmade
    · cases hresult.symm.trans hmade

/-- A directive whose last code is the least integer of 64 bits. -/
def lowest : Directive :=
  ⟨"i18n", [⟨"code", .text "none"⟩, ⟨"en", .text "Low"⟩, ⟨"code", .integer (-9223372036854775808)⟩]⟩

theorem declares_code_iff_takes_lowest :
    (∃ t typeText literal,
      (ofDirective ⟨"Low", .newtype "isize", []⟩ lowest).result = .ok (some t) ∧
      t.DeclaresCode (.newtype "isize") (.integer (-9223372036854775808)) typeText literal ∧
      typeText = "isize".toList) ∧
    ¬∃ made, (ofDirective ⟨"Low", .newtype "usize", []⟩ lowest).result = .ok made := by
  have ha : (⟨"en", .text "Low"⟩ : Argument) ∈ lowest.arguments := by decide
  have hv : lowest.last? "code" = some (.integer (-9223372036854775808)) := by decide
  have hsigned : isPrimitive "isize" = true := by decide
  have hunsigned : isPrimitive "usize" = true := by decide
  constructor
  · obtain ⟨haccepted, -, hdeclares⟩ :=
      @declares_code_iff_takes ⟨"Low", .newtype "isize", []⟩ hsigned
      lowest _ ha (by decide) (by decide) _ hv
    obtain ⟨made, hmade⟩ := haccepted.2 (.integer (t := ⟨true, 64⟩) rfl (by decide) (by decide))
    obtain ⟨t, typeText, literal, rfl, hcode⟩ := hdeclares made hmade
    exact ⟨t, typeText, literal, hmade, hcode, hcode.spelled⟩
  · obtain ⟨haccepted, -, -⟩ := @declares_code_iff_takes ⟨"Low", .newtype "usize", []⟩ hunsigned
      lowest _ ha (by decide) (by decide) _ hv
    intro hmade
    have hrepresents := (@Underlying.represents_iff_takes (.newtype "usize") hunsigned _).2
      (haccepted.1 hmade)
    exact absurd hrepresents (by decide)

end MessageTable
end Companion
