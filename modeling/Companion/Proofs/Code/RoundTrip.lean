import Mathlib
import Companion.Proofs.Code.Layout
import Companion.Proofs.Text.Literals

/-! Reading a layout back. The lines inside a block are indented and no part of one holds a line
end, so the first line that is a closing brace ends the block. The text up to it reads back as the
block (`readBlock?_layout`), and a reader of the whole text finds the same members in it
(`members_of_read?_layout`). -/
namespace Companion.Code
open Source Companion.Text

/-! ### Parts without line ends -/

theorem newline_not_mem_literalChars (s : String) : '\n' ∉ literalChars s := fun h =>
  absurd (not_lineBreak_literalChars h) (by decide)

/-- A character that is in no word is in no identifier. -/
theorem not_mem_identifier {name : String} (h : IsIdentifier name) {c : Char}
    (hstart : isWordStart c = false) (hcontinue : isWordContinue c = false)
    (hraw : c ≠ 'r' ∧ c ≠ '#') : c ∉ name.toList := by
  have hword : ∀ cs, isWordText cs = true → c ∉ cs := by
    intro cs hcs hmem
    cases cs with
    | nil => cases hmem
    | cons d ds =>
      obtain ⟨hd, hds⟩ := Bool.and_eq_true_iff.1 hcs
      rcases List.mem_cons.1 hmem with rfl | hmem
      · rw [hstart] at hd
        cases hd
      · rw [List.all_eq_true.1 hds c hmem] at hcontinue
        cases hcontinue
  rcases h.2 with hname | ⟨word, rfl, hname, -⟩
  · exact hword _ hname
  · simpa [hraw] using hword _ hname

theorem newline_not_mem_identifier {name : String} (h : IsIdentifier name) : '\n' ∉ name.toList :=
  not_mem_identifier h (by decide) (by decide) (by decide)

theorem newline_not_mem_constantType {type : ConstantType} (h : type.Spelled) :
    '\n' ∉ type.chars := by
  cases type with
  | named name => exact newline_not_mem_identifier h
  | text => decide
  | texts => decide

theorem newline_not_mem_head {c : Constant} (h : c.Spelled) : '\n' ∉ c.head := by
  have hname := newline_not_mem_identifier h.name
  have htype := newline_not_mem_constantType h.type
  unfold Constant.head
  simp [hname, htype]

theorem newline_not_mem_scalar (v : Scalar) : '\n' ∉ scalarChars v := by
  cases v with
  | text s => exact newline_not_mem_literalChars s
  | integer i =>
    intro h
    have hdecimal : '\n' ∈ decimal i.toInt := by simpa [scalarChars, Scalar.plain] using h
    rcases mem_decimal hdecimal with h | h
    · exact absurd h (by decide)
    · exact absurd h (by decide)
  | boolean b => cases b <;> decide

theorem newline_not_mem_joinItems {parts : List (List Char)} (h : ∀ part ∈ parts, '\n' ∉ part) :
    '\n' ∉ joinItems parts := by
  induction parts with
  | nil => simp [joinItems]
  | cons part parts ih =>
    have hpart := h part List.mem_cons_self
    have hparts := ih fun p hp => h p (List.mem_cons_of_mem part hp)
    cases parts with
    | nil => exact hpart
    | cons next parts => simp [joinItems, hpart, hparts]

/-! ### Lines inside a block -/

/-- A line inside a block: indented, and without a line end of its own. -/
def Inside (line : List Char) : Prop := line.head? = some ' ' ∧ '\n' ∉ line

theorem inside_indented {level : Nat} (hlevel : 0 < level) {text : List Char} (h : '\n' ∉ text) :
    Inside (indented level text) := by
  obtain ⟨k, rfl⟩ := Nat.exists_eq_succ_of_ne_zero (Nat.ne_of_gt hlevel)
  constructor
  · simp [indented, Nat.mul_succ, List.replicate_succ]
  · simp [indented, h]

theorem inside_docLines {level : Nat} (hlevel : 0 < level) {docs : List String}
    (h : ∀ doc ∈ docs, PlainDoc doc) : ∀ line ∈ docLines level docs, Inside line := by
  intro line hline
  obtain ⟨doc, hdoc, rfl⟩ := List.mem_map.1 hline
  have hplain := h doc hdoc
  have hline : '\n' ∉ doc.toList := fun hmem => (hplain.1.1 '\n' hmem).1 rfl
  refine inside_indented hlevel ?_
  rw [docLine_of_plain hplain]
  simp [hline]

theorem inside_bracketed {level : Nat} (hlevel : 0 < level) {opening closing : List Char}
    {parts : List (List Char)} (hopening : '\n' ∉ opening) (hparts : ∀ part ∈ parts, '\n' ∉ part)
    (hclosing : '\n' ∉ closing) : ∀ line ∈ bracketed level opening parts closing, Inside line := by
  intro line hline
  rcases bracketed_cases level opening parts closing with hlayout | hlayout
  · rw [hlayout, List.mem_singleton] at hline
    subst hline
    exact inside_indented hlevel (by simp [hopening, newline_not_mem_joinItems hparts, hclosing])
  · rw [hlayout, List.mem_append, List.mem_cons, List.mem_map, List.mem_singleton] at hline
    rcases hline with (rfl | ⟨part, hpart, rfl⟩) | rfl
    · exact inside_indented hlevel hopening
    · exact inside_indented (Nat.succ_pos level) (by simp [hparts part hpart])
    · exact inside_indented hlevel hclosing

theorem inside_constant {level : Nat} (hlevel : 0 < level) {c : Constant} (h : c.Spelled) :
    ∀ line ∈ c.lines level, Inside line := by
  have hhead := newline_not_mem_head h
  intro line hline
  unfold Constant.lines at hline
  rcases List.mem_append.1 hline with hline | hline
  · exact inside_docLines hlevel h.docs line hline
  · cases hvalue : c.value with
    | scalar v =>
      rw [hvalue] at hline
      obtain rfl := List.mem_singleton.1 hline
      exact inside_indented hlevel (by simp [hhead, newline_not_mem_scalar v])
    | texts ss =>
      rw [hvalue] at hline
      refine inside_bracketed hlevel (by simp [hhead]) ?_ (by decide) line hline
      intro part hpart
      obtain ⟨s, -, rfl⟩ := List.mem_map.1 hpart
      exact newline_not_mem_literalChars s
    | wrapped type constant => exact absurd hvalue (h.value type constant)

theorem inside_armLines {pattern text : List Char} (hpattern : '\n' ∉ pattern)
    (htext : '\n' ∉ text) :
    ∀ line ∈ armLines pattern text, Inside line := by
  intro line hline
  rcases armLines_cases pattern text with hlayout | hlayout
  · rw [hlayout, List.mem_singleton] at hline
    subst hline
    exact inside_indented (by decide) (by simp [hpattern, htext])
  · rw [hlayout, List.mem_cons, List.mem_cons, List.mem_singleton] at hline
    rcases hline with rfl | rfl | rfl
    · exact inside_indented (by decide) (by simp [hpattern])
    · exact inside_indented (by decide) htext
    · exact inside_indented (by decide) (by decide)

theorem inside_table {t : Table} (h : t.Spelled) : ∀ line ∈ t.lines, Inside line := by
  have hname := newline_not_mem_identifier h.name
  have hparameter := newline_not_mem_identifier h.parameter
  intro line hline
  unfold Table.lines at hline
  simp only [List.mem_append, List.mem_cons, List.mem_flatMap, List.not_mem_nil, or_false] at hline
  rcases hline with ((hdoc | rfl | rfl | ⟨arm, -, harm⟩) | hother) | rfl | rfl
  · exact inside_docLines (by decide) h.docs line hdoc
  · exact inside_indented (by decide) (by simp [hname, hparameter])
  · exact inside_indented (by decide) (by simp [hparameter])
  · exact inside_armLines (newline_not_mem_literalChars _)
      (newline_not_mem_literalChars _) line harm
  · exact inside_armLines (by decide) (newline_not_mem_literalChars _) line hother
  · exact inside_indented (by decide) (by decide)
  · exact inside_indented (by decide) (by decide)

theorem inside_members {ms : List Member} (h : ∀ m ∈ ms, m.Spelled) :
    ∀ line ∈ ms.flatMap Member.lines, Inside line := by
  intro line hline
  obtain ⟨m, hm, hline⟩ := List.mem_flatMap.1 hline
  have hspelled := h m hm
  cases m with
  | constant c => exact inside_constant (by decide) hspelled line hline
  | table t => exact inside_table hspelled line hline

/-! ### The block at the start of a text -/

/-- The text through its first line that is a closing brace. -/
def throughBrace : List Char → List Char
  | [] => []
  | c :: cs =>
    if c = '\n' && ['\x7d', '\n'].isPrefixOf cs then ['\n', '\x7d', '\n'] else c :: throughBrace cs

/-- The code of the block at the start of a text. -/
def readBlock? (text : List Char) : Option Code := read? (throughBrace text)

theorem throughBrace_append {cs : List Char} (h : '\n' ∉ cs) (rest : List Char) :
    throughBrace (cs ++ rest) = cs ++ throughBrace rest := by
  induction cs with
  | nil => rfl
  | cons c cs ih =>
    have hc : c ≠ '\n' := fun heq => h (heq ▸ List.mem_cons_self)
    simp [throughBrace, hc, ih fun hmem => h (List.mem_cons_of_mem c hmem)]

theorem throughBrace_inside {lines : List (List Char)} (h : ∀ line ∈ lines, Inside line)
    (rest : List Char) :
    throughBrace ('\n' :: (linesText lines ++ '\x7d' :: '\n' :: rest)) =
      '\n' :: (linesText lines ++ ['\x7d', '\n']) := by
  induction lines with
  | nil => simp [throughBrace]
  | cons line lines ih =>
    obtain ⟨hhead, hline⟩ := h line List.mem_cons_self
    have hrest := ih fun l hl => h l (List.mem_cons_of_mem line hl)
    obtain ⟨tail, rfl⟩ : ∃ tail, line = ' ' :: tail := by
      cases line with
      | nil => cases hhead
      | cons c tail => exact ⟨tail, by simpa using hhead⟩
    have hstep := throughBrace_append hline ('\n' :: (linesText lines ++ '\x7d' :: '\n' :: rest))
    rw [hrest] at hstep
    rw [throughBrace]
    simpa using hstep

/-! ### Layouts -/

/-- Code whose parts can stand in a text as they are. -/
structure Spelled (code : Code) : Prop where
  type : IsIdentifier code.type
  members : ∀ m ∈ code.members, m.Spelled

/-- The code without what stands behind its block. -/
def block (code : Code) : Code := { code with constants := [] }

theorem layout_eq (code : Code) :
    code.layout = "impl ".toList ++ code.type.toList ++ [' ', '\x7b', '\n'] ++
    linesText (code.members.flatMap Member.lines) ++ '\x7d' :: '\n' ::
      linesText (code.constants.flatMap (Constant.lines 0)) := by
  have hlayout : code.layout = linesText code.lines := rfl
  rw [hlayout]
  unfold lines
  simp

theorem layout_eq_append (code : Code) :
    code.layout = code.block.layout ++ linesText (code.constants.flatMap (Constant.lines 0)) := by
  rw [layout_eq, layout_eq]
  simp [block]

theorem throughBrace_layout {code : Code} (h : code.Spelled) :
    throughBrace code.layout = code.block.layout := by
  have htype := newline_not_mem_identifier h.type
  have hfirst : '\n' ∉ "impl ".toList ++ code.type.toList ++ [' ', '\x7b'] := by simp [htype]
  have hlines := throughBrace_inside (inside_members h.members)
    (linesText (code.constants.flatMap (Constant.lines 0)))
  have hthrough := throughBrace_append hfirst
    ('\n' :: (linesText (code.members.flatMap Member.lines) ++ '\x7d' :: '\n' ::
      linesText (code.constants.flatMap (Constant.lines 0))))
  rw [hlines] at hthrough
  rw [layout_eq, layout_eq]
  simpa [block] using hthrough

theorem exists_blockTokens {code : Code} (h : code.Spelled) :
    ∃ ts, MembersTokens code.members ts ∧ Lexes code.block.layout (blockTokens code.type ts) := by
  obtain ⟨ts, hms, hlex⟩ := exists_membersTokens h.members
  have hfront : Lexes "impl ".toList [.word "impl"] := by decide
  have hfirst := hfront.append (lexes_identifier h.type (by decide) lexes_blockOpen)
  have hblock := hfirst.append (hlex.append lexes_blockClose)
  refine ⟨ts, hms, ?_⟩
  rw [layout_eq]
  simpa [block, blockTokens] using hblock

/-- **The block of a layout reads back.** -/
theorem readBlock?_layout {code : Code} (h : code.Spelled) :
    readBlock? code.layout = some code.block := by
  obtain ⟨ts, hms, hlex⟩ := exists_blockTokens h
  rw [readBlock?, throughBrace_layout h]
  exact read?_block hlex h.type.1 hms

/-- A reader of the whole layout finds the members of the block. -/
theorem members_of_read?_layout {code whole : Code} (h : code.Spelled)
    (hread : read? code.layout = some whole) :
    whole.members = code.members := by
  obtain ⟨ts, hms, hlex⟩ := exists_blockTokens h
  rw [layout_eq_append] at hread
  exact (members_of_read? hlex h.type.1 hms hread).2

end Companion.Code
