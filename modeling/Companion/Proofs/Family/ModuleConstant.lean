import Mathlib
import Companion.Proofs.Family.Meaning
import Companion.Proofs.Source.Names

/-! The constant behind the block of a newtype with a code. Its name is that of the type, in the
form of constants. Where this is no word, nothing can be read: an empty name leaves the colon behind
it, one that starts with digits is a number, and the mark of a raw identifier ends the word before
it. So code that is read has the constant (`code_of_read?`). -/
namespace Companion
open Source Text

namespace Code

/-! ### Reading a constant of the module -/

/-- The tokens of the constructor of a type, applied to the code of the type. -/
def wrappedTokens (type : String) : Tokens :=
  [.word type, .opening .parenthesis, .word type, .punct ':' true, .punct ':' false, .word "CODE",
    .closing .parenthesis]

/-- The tokens of a constant of a type, behind its name. -/
def usageTokens (type : String) : Tokens :=
  .punct ':' false :: .word type :: .punct '=' false :: wrappedTokens type ++ [.punct ';' false]

/-- The tokens in front of the name of a constant. -/
def openingTokens (doc : String) : Tokens :=
  [.punct '#' false, .opening .bracket, .word "doc", .punct '=' false, textToken doc,
    .closing .bracket, .word "pub", .word "const"]

theorem eatScalar_word {type : String} (h : isIdentifier type = true) (rest : Tokens) :
    eatScalar (.word type :: rest) = none := by
  have htrue : type ≠ "true" := by
    rintro rfl
    exact absurd h (by decide)
  have hfalse : type ≠ "false" := by
    rintro rfl
    exact absurd h (by decide)
  simp [eatScalar, htrue, hfalse]

/-- A list of one part between delimiters. -/
theorem between_commaList {α : Type} {d : Delimiter} {read : Tokens → Option (α × Tokens)}
    {ts : Tokens} (a : α) (rest : Tokens) (hmore : atEnd ts = false)
    (hlt : rest.length + 1 < ts.length) (hread : read ts = some (a, .closing d :: rest)) :
    between d (commaList read) (.opening d :: ts) = some ([a], rest) := by
  have hlist : commaList read ts = some ([a], .closing d :: rest) := by
    refine Repeats.many_eq (.next (by simp [hmore]) ?_ (by simpa using hlt) (.done rfl))
    simp [hread, atEnd]
  simp [between, eatOpening, peekOpening, hlist, eatClosing]

theorem eatWrapped_tokens {type : String} (h : isIdentifier type = true) (rest : Tokens) :
    eatWrapped (wrappedTokens type ++ rest) = some (.wrapped type "CODE", rest) := by
  have hcolons : ∀ ts, eatPunct "::" (.punct ':' true :: .punct ':' false :: ts) = some ts :=
    fun ts => rfl
  have hname : ∀ ts, eatTypeName (.word type :: ts) = some (type, ts) := fun ts => by
    simp [eatTypeName, h]
  have hcode : isIdentifier "CODE" = true := by decide
  simp only [eatWrapped, wrappedTokens, List.cons_append, List.nil_append, hname,
    Option.bind_eq_bind, Option.bind_some]
  rw [between_commaList (type, "CODE") rest rfl (by simp)]
  · simp
  · simp [hname, hcolons, eatIdentifier, hcode]

theorem eatConstantValue_wrapped {type : String} (h : isIdentifier type = true) (rest : Tokens) :
    eatConstantValue (wrappedTokens type ++ rest) = some (.wrapped type "CODE", rest) := by
  have hpeek : peekPunct "&" (wrappedTokens type ++ rest) = false := rfl
  have hscalar : eatScalar (wrappedTokens type ++ rest) = none := eatScalar_word h _
  rw [eatConstantValue, hpeek, hscalar]
  exact eatWrapped_tokens h rest

theorem eatDocs_opening (doc : String) (rest : Tokens) :
    eatDocs (openingTokens doc ++ rest) = ([doc], .word "pub" :: .word "const" :: rest) := rfl

theorem eatDocumented_opening (doc : String) (rest : Tokens) :
    eatDocumented (openingTokens doc ++ rest) =
      eatConstant [doc] (.word "pub" :: .word "const" :: rest) := by
  rw [eatDocumented, eatDocs_opening]

/-- The first part that is read. -/
theorem exists_first_of_many {α : Type} {more : Tokens → Bool} {read : Tokens → Option (α × Tokens)}
    {ts us : Tokens}
    {as : List α} (hmore : more ts = true) (h : many more read ts = some (as, us)) :
    ∃ a rest, read ts = some (a, rest) := by
  rw [many, manyFuel, if_pos hmore] at h
  split at h
  · next a rest hread => exact ⟨a, rest, hread⟩
  · cases h

/-- A name is read, and a colon behind it. -/
theorem exists_name_of_eatConstant {docs : List String} {ts rest : Tokens} {c : Constant}
    (h : eatConstant docs (.word "pub" :: .word "const" :: ts) = some (c, rest)) :
    ∃ us vs, ts = .word c.name :: us ∧ isIdentifier c.name = true ∧ eatPunct ":" us = some vs := by
  simp only [eatConstant, eatWord, peekWord, decide_true, if_true, List.drop_succ_cons,
    List.drop_zero, Option.bind_eq_bind, Option.bind_some] at h
  obtain ⟨⟨name, us⟩, hname, h⟩ := Option.bind_eq_some_iff.1 h
  obtain ⟨vs, hcolon, h⟩ := Option.bind_eq_some_iff.1 h
  obtain ⟨⟨type, vs'⟩, -, h⟩ := Option.bind_eq_some_iff.1 h
  obtain ⟨ws, -, h⟩ := Option.bind_eq_some_iff.1 h
  obtain ⟨⟨value, ws'⟩, -, h⟩ := Option.bind_eq_some_iff.1 h
  obtain ⟨rest', -, h⟩ := Option.bind_eq_some_iff.1 h
  simp only [Option.pure_def, Option.some.injEq, Prod.mk.injEq] at h
  obtain ⟨rfl, -⟩ := h
  unfold eatIdentifier at hname
  split at hname
  · next w ws =>
    split at hname
    · next hid =>
      simp only [Option.some.injEq, Prod.mk.injEq] at hname
      obtain ⟨rfl, rfl⟩ := hname
      exact ⟨_, vs, rfl, hid, hcolon⟩
    · cases hname
  · cases hname

theorem eatConstant_usage {doc name type : String} (hname : isIdentifier name = true)
    (htype : isIdentifier type = true) :
    eatConstant [doc] (.word "pub" :: .word "const" :: .word name :: usageTokens type) =
      some (⟨[doc], name, .named type, .wrapped type "CODE"⟩, []) := by
  have hequals : ∀ ts, eatPunct "=" (.punct '=' false :: ts) = some ts := fun ts => rfl
  have hcolon : ∀ ts, eatPunct ":" (.punct ':' false :: ts) = some ts := fun ts => rfl
  have hend : ∀ ts, eatPunct ";" (.punct ';' false :: ts) = some ts := fun ts => rfl
  have hreadable : (ConstantType.named type).Readable := htype
  have htyped : ∀ ts, eatConstantType (.word type :: ts) = some (.named type, ts) :=
    eatConstantType_tokens hreadable
  rw [eatConstant, usageTokens]
  simp [eatWord, peekWord, eatIdentifier, hname, hcolon, htyped, hequals,
    eatConstantValue_wrapped htype, hend]

end Code

namespace MessageTable
open Code

/-! ### The constant in the rendered text -/

variable (t : MessageTable)

/-- The constant behind the block. -/
def instanceConstant (c : ErrorCode) : Constant :=
  ⟨[t.instanceDoc c], screamingSnake t.type, .named t.type, .wrapped t.type "CODE"⟩

/-- The constants behind the block: one, for a newtype with a code. -/
def moduleConstants : List Constant :=
  if t.isNewtype then (t.code.map t.instanceConstant).toList else []

theorem lexes_opening (doc : String) :
    Lexes ("\n#[doc = ".toList ++ literalChars doc ++ "]\npub const ".toList)
      (openingTokens doc) := by
  have hfront : Lexes "\n#[doc = ".toList
    [.punct '#' false, .opening .bracket, .word "doc", .punct '=' false] := by
    decide
  have hbehind : Lexes "]\npub const ".toList [.closing .bracket, .word "pub", .word "const"] := by
    decide
  rw [List.append_assoc]
  exact hfront.append (lexes_literal doc (by decide) hbehind)

theorem usageText_eq (type : String) :
    usageText type = ':' :: ' ' :: (type.toList ++ ' ' :: '=' :: ' ' ::
    (type.toList ++ '(' :: (type.toList ++ [':', ':', 'C', 'O', 'D', 'E', ')', ';', '\n']))) := by
  unfold usageText
  simp

theorem lexes_usage {type : String} (h : IsIdentifier type) :
    Lexes (usageText type) (usageTokens type) := by
  have hcolon : Lexes [':', ' '] [.punct ':' false] := by decide
  have hequals : Lexes [' ', '=', ' '] [.punct '=' false] := by decide
  have hopen : Lexes ['('] [.opening .parenthesis] := by decide
  have hcode : Lexes [':', ':', 'C', 'O', 'D', 'E', ')', ';', '\n']
    [.punct ':' true, .punct ':' false, .word "CODE",
      .closing .parenthesis, .punct ';' false] := by decide
  have hinner := hopen.append (lexes_identifier h (by decide) hcode)
  have hvalue := hequals.append (lexes_identifier h (by decide) hinner)
  rw [usageText_eq]
  exact hcolon.append (lexes_identifier h (by decide) hvalue)

/-- The constant can be read only if its name is a word. -/
theorem isWordText_of_usage {type : String} (h : IsIdentifier type) {vs us ws : Tokens}
    {name : String}
    (hlex : (Lexing.run ⟨[], .ground⟩ ((screamingSnake type).toList ++ usageText type)).finish? =
      some vs.reverse)
    (hvs : vs = .word name :: us) (hcolon : eatPunct ":" us = some ws) :
    isWordText (screamingSnake type).toList = true := by
  have husage := lexes_usage h
  rw [usageText_eq] at hlex husage
  rcases h.2 with hword | ⟨word, rfl, hword, -⟩
  · refine isWordText_of_finish? (isWordContinue_screamingSnake hword) husage hlex ?_
    rw [List.reverse_reverse, hvs]
    rfl
  · -- the `#` of a raw identifier stands in its constant too, where no colon follows
    have hslash : '/' ∉ ("r#" ++ word).toList :=
      not_mem_identifier h (by decide) (by decide) (by decide)
    obtain ⟨first, touching, rest, hrest⟩ :=
      exists_hash_screamingSnake hword (by simp_all) (by simp) hlex
    rw [List.reverse_reverse, hvs] at hrest
    obtain rfl := (List.cons.inj hrest).2
    cases hcolon

/-- The text of the constant is read as the constant, if at all. -/
theorem constants_of_instanceText {t : MessageTable} (h : IsIdentifier t.type) {c : ErrorCode}
    {vs : Tokens} (hvs : (Lexing.run ⟨[], .ground⟩ (t.instanceText c)).finish? = some vs.reverse)
    {constants : List Constant}
    (hread : many (fun ts => !atEnd ts) eatDocumented vs = some (constants, [])) :
    constants = [t.instanceConstant c] := by
  have htext : t.instanceText c =
    ("\n#[doc = ".toList ++ literalChars (t.instanceDoc c) ++ "]\npub const ".toList) ++
      ((screamingSnake t.type).toList ++ usageText t.type) := by
    unfold instanceText
    rw [List.append_assoc]
  rw [htext] at hvs
  obtain ⟨us, hopening, hus⟩ := (lexes_opening (t.instanceDoc c)).exists_of_finish?_append hvs
  rw [List.reverse_reverse] at hopening
  subst hopening
  obtain ⟨first, rest, hfirst⟩ := exists_first_of_many (by rfl) hread
  rw [eatDocumented_opening] at hfirst
  obtain ⟨behind, ws, hname, hidentifier, hcolon⟩ := exists_name_of_eatConstant hfirst
  have hword := isWordText_of_usage h hus hname hcolon
  have husage := lexes_usage h
  rw [usageText_eq] at husage
  have htokens := lexes_word hword (by decide) husage
  rw [← usageText_eq] at htokens
  have hall : us = .word (screamingSnake t.type) :: usageTokens t.type := by
    rw [htokens] at hus
    exact (List.reverse_injective (Option.some.inj hus)).symm
  obtain ⟨hsame, -⟩ := List.cons.inj (hname.symm.trans hall)
  rw [Token.word.inj hsame] at hidentifier
  have hmany : many (fun ts => !atEnd ts) eatDocumented (openingTokens (t.instanceDoc c) ++ us) =
      some ([t.instanceConstant c], []) := by
    refine Repeats.many_eq (.next rfl ?_ (by simp [openingTokens]) (.done rfl))
    rw [eatDocumented_opening, hall]
    exact eatConstant_usage hidentifier h.1
  exact (Prod.mk.inj (Option.some.inj (hread.symm.trans hmany))).1

/-- The code of the rendered text, if it has any. -/
theorem code_of_read? {t : MessageTable} (htype : IsIdentifier t.type)
    (hcode : ∀ c ∈ t.code, c.acceptable = true) {code : Code}
    (hread : read? (t.blockText ++ if t.isNewtype then (t.code.map t.instanceText).getD []
      else []) = some code) :
    code = ⟨t.type, t.members, t.moduleConstants⟩ := by
  obtain ⟨ts, hmembers, hblock⟩ := t.exists_blockTokens_rendered htype hcode
  obtain ⟨hcodeType, hcodeMembers, vs, hvs, hconstants⟩ :=
    of_read?_append hblock htype.1 hmembers hread
  have hnone : ∀ {us : Tokens}, (Lexing.run ⟨[], .ground⟩ []).finish? = some us.reverse →
      many (fun ts => !atEnd ts) eatDocumented us = some (code.constants, []) →
        code.constants = [] := by
    intro us hus hread
    obtain rfl : us = [] := by simpa [Lexing.run, Lexing.finish?] using hus.symm
    exact (Prod.mk.inj (Option.some.inj hread)).1.symm
  have hmodule : code.constants = t.moduleConstants := by
    unfold moduleConstants
    split at hvs
    · next hnewtype =>
      rw [if_pos hnewtype]
      cases hc : t.code with
      | none =>
        rw [hc] at hvs
        exact hnone hvs hconstants
      | some c =>
        rw [hc] at hvs
        exact constants_of_instanceText htype hvs hconstants
    · next hnewtype =>
      rw [if_neg hnewtype]
      exact hnone hvs hconstants
  rw [← hcodeType, ← hcodeMembers, ← hmodule]

end MessageTable
end Companion
