import Mathlib
import Companion.Proofs.Code.Tokens

/-! Laid-out code reads back. Every line of the layout is read as the tokens of its part, in the
broken and in the unbroken form of lists and arms, so the text of an `impl` block is read back as
its members (`exists_memberTokens`, `exists_membersTokens`). -/
namespace Companion.Code
open Source Companion.Text

/-! ### Marks -/

theorem lexes_lineEnd : Lexes ['\n'] [] := by decide

theorem lexes_semicolon : Lexes [';', '\n'] [.punct ';' false] := by decide

theorem lexes_commaSpace : Lexes [',', ' '] [.punct ',' false] := by decide

theorem lexes_commaLine : Lexes [',', '\n'] [.punct ',' false] := by decide

theorem lexes_arrow : Lexes [' ', '=', '>', ' '] arrow := by decide

theorem lexes_listOpen : Lexes ['&', '['] [.punct '&' false, .opening .bracket] := by decide

theorem lexes_listClose : Lexes [']', ';', '\n'] [.closing .bracket, .punct ';' false] := by decide

theorem lexes_blockOpen : Lexes [' ', '\x7b', '\n'] [.opening .brace] := by decide

theorem lexes_blockClose : Lexes ['\x7d', '\n'] [.closing .brace] := by decide

/-! ### Lines -/

/-- The lines one below the other. -/
def linesText (lines : List (List Char)) : List Char := lines.flatMap fun line => line ++ ['\n']

@[simp] theorem linesText_nil : linesText [] = [] := rfl

@[simp] theorem linesText_cons (line : List Char) (lines : List (List Char)) :
    linesText (line :: lines) = line ++ '\n' :: linesText lines := by
  simp [linesText]

@[simp] theorem linesText_append (a b : List (List Char)) :
    linesText (a ++ b) = linesText a ++ linesText b := by
  simp [linesText]

theorem lexes_indented (level : Nat) {cs : List Char} {ts : Tokens} (h : Lexes cs ts) :
    Lexes (indented level cs) ts := by
  have hspaces : Lexes (List.replicate (4 * level) ' ') [] := by
    refine lexes_gaps ?_
    intro c hc
    obtain rfl := List.eq_of_mem_replicate hc
    rfl
  exact hspaces.append h

theorem indented_append (level : Nat) (cs ds : List Char) :
    indented level cs ++ ds = indented level (cs ++ ds) := by
  simp [indented]

/-- A line and what stands below it. -/
theorem lexes_line (level : Nat) {line rest : List Char} {ts us : Tokens}
    (h : Lexes (line ++ ['\n']) ts) (hrest : Lexes rest us) :
    Lexes (indented level line ++ '\n' :: rest) (ts ++ us) := by
  have hline := (lexes_indented level h).append hrest
  rw [indented_append] at hline ⊢
  simpa using hline

/-! ### Doc texts -/

/-- A doc text that stands in the layout as it is, on a line of its own. -/
def PlainDoc (doc : String) : Prop := IsDocLine doc ∧ doc.toList.getLast? ≠ some ' '

theorem docLine_of_plain {doc : String} (h : PlainDoc doc) :
    docLine doc = "///".toList ++ doc.toList := by
  obtain ⟨⟨hchars, hhead⟩, hlast⟩ := h
  have hline : doc.toList.contains '\n' = false := by
    simpa using fun hmem => (hchars '\n' hmem).1 rfl
  have htrim : trimSpaces doc.toList = doc.toList := by
    have hdrop : doc.toList.reverse.dropWhile (· = ' ') = doc.toList.reverse := by
      refine dropWhile_of_stops ?_
      intro c hc
      rw [List.head?_reverse] at hc
      have hc' : c ≠ ' ' := by
        rintro rfl
        exact hlast hc
      simpa using hc'
    rw [trimSpaces, hdrop, List.reverse_reverse]
  have hplain : (!doc.toList.contains '\n' && decide (doc.toList.head? ≠ some '/')) = true := by
    rw [hline, decide_eq_true hhead]
    rfl
  rw [docLine, if_pos hplain, htrim]

theorem lexes_docLines (level : Nat) {docs : List String} (h : ∀ doc ∈ docs, PlainDoc doc) :
    Lexes (linesText (docLines level docs)) (docTokens docs) := by
  induction docs with
  | nil => exact Lexes.nil
  | cons doc docs ih =>
    have hdoc := h doc List.mem_cons_self
    have hline := lexes_docLine hdoc.1
    rw [← docLine_of_plain hdoc] at hline
    have hrest := ih fun d hd => h d (List.mem_cons_of_mem doc hd)
    have hlines : linesText (docLines level (doc :: docs)) =
        indented level (docLine doc) ++ '\n' :: linesText (docLines level docs) := by
      simp [docLines]
    rw [hlines]
    exact lexes_line level hline hrest

/-! ### Constants -/

/-- A type that can stand in a text. -/
def ConstantType.Spelled : ConstantType → Prop
  | .named name => IsIdentifier name
  | _ => True

theorem ConstantType.Spelled.readable {type : ConstantType} (h : type.Spelled) : type.Readable := by
  cases type with
  | named name => exact h.1
  | text => trivial
  | texts => trivial

theorem lexes_constantType {type : ConstantType} (h : type.Spelled) {cs : List Char} {ts : Tokens}
    (hrest : Lexes (' ' :: cs) ts) : Lexes (type.chars ++ ' ' :: cs) (type.tokens ++ ts) := by
  cases type with
  | named name => exact lexes_identifier h (by decide) hrest
  | text =>
    have hfront : Lexes "&'static ".toList [.punct '&' true, .lifetime "static"] := by decide
    have hword := @lexes_word "str" (by decide) ' ' cs ts (by decide) hrest
    exact hfront.append hword
  | texts =>
    have hfront : Lexes "&'static [&'static str]".toList (ConstantType.tokens .texts) := by decide
    exact hfront.append hrest

/-- What stands in front of the value of a constant. -/
def headTokens (c : Constant) : Tokens :=
  .word "pub" :: .word "const" :: .word c.name :: .punct ':' false :: c.type.tokens ++
    [.punct '=' false]

theorem lexes_head {c : Constant} (hname : IsIdentifier c.name) (htype : c.type.Spelled)
    {cs : List Char} {ts : Tokens} (h : Lexes cs ts) :
    Lexes (c.head ++ cs) (headTokens c ++ ts) := by
  have hfront : Lexes "pub const ".toList [.word "pub", .word "const"] := by decide
  have hcolon : Lexes [':', ' '] [.punct ':' false] := by decide
  have hequals : Lexes [' ', '=', ' '] [.punct '=' false] := by decide
  have htyped : Lexes (c.type.chars ++ ' ' :: '=' :: ' ' :: cs)
    (c.type.tokens ++ .punct '=' false :: ts) :=
    lexes_constantType htype (hequals.append h)
  have hnamed : Lexes (c.name.toList ++ ':' :: ' ' :: (c.type.chars ++ ' ' :: '=' :: ' ' :: cs))
      (.word c.name :: .punct ':' false :: (c.type.tokens ++ .punct '=' false :: ts)) :=
    lexes_identifier hname (by decide) (hcolon.append htyped)
  have htext : c.head ++ cs = "pub const ".toList ++
      (c.name.toList ++ ':' :: ' ' :: (c.type.chars ++ ' ' :: '=' :: ' ' :: cs)) := by
    unfold Constant.head
    simp
  have htokens : headTokens c ++ ts = [.word "pub", .word "const"] ++
      .word c.name :: .punct ':' false :: (c.type.tokens ++ .punct '=' false :: ts) := by
    simp [headTokens]
  rw [htext, htokens]
  exact hfront.append hnamed

theorem lexes_scalar (v : Scalar) {cs : List Char} {ts : Tokens} (h : Lexes (';' :: cs) ts) :
    Lexes (scalarChars v ++ ';' :: cs) (scalarTokens v ++ ts) := by
  cases v with
  | text s => exact lexes_literal s (by decide) h
  | integer i =>
    have hchars : scalarChars (.integer i) = decimal i.toInt := by simp [scalarChars, Scalar.plain]
    rw [hchars]
    exact lexes_decimal i.toInt h
  | boolean b =>
    cases b with
    | true => exact @lexes_word "true" (by decide) ';' cs ts (by decide) h
    | false => exact @lexes_word "false" (by decide) ';' cs ts (by decide) h

/-- Items on one line. -/
theorem exists_itemTokens_joined (ss : List String) {cs : List Char} {us : Tokens}
    (h : Lexes (']' :: cs) us) :
    ∃ ts, ItemTokens ss ts ∧ Lexes (joinItems (ss.map literalChars) ++ ']' :: cs) (ts ++ us) := by
  induction ss with
  | nil => exact ⟨[], .nil, h⟩
  | cons s ss ih =>
    cases ss with
    | nil => exact ⟨_, .last s, lexes_literal s (by decide) h⟩
    | cons s' ss =>
      obtain ⟨ts, hitems, hlex⟩ := ih
      have hline : Lexes
        (literalChars s ++ ',' :: ' ' :: (joinItems ((s' :: ss).map literalChars) ++ ']' :: cs))
          (textToken s :: .punct ',' false :: (ts ++ us)) :=
        lexes_literal s (by decide) (lexes_commaSpace.append hlex)
      refine ⟨_, .cons s false hitems, ?_⟩
      simpa [joinItems] using hline

/-- Items on lines of their own. -/
theorem exists_itemTokens_broken (level : Nat) (ss : List String) :
    ∃ ts, ItemTokens ss ts ∧
      Lexes (linesText (ss.map fun s => indented level (literalChars s ++ [',']))) ts := by
  induction ss with
  | nil => exact ⟨[], .nil, Lexes.nil⟩
  | cons s ss ih =>
    obtain ⟨ts, hitems, hlex⟩ := ih
    have hitem : Lexes (literalChars s ++ [','] ++ ['\n']) [textToken s, .punct ',' false] := by
      rw [List.append_assoc]
      exact lexes_literal s (by decide) lexes_commaLine
    refine ⟨_, .cons s false hitems, ?_⟩
    rw [List.map_cons, linesText_cons]
    exact lexes_line level hitem hlex

theorem constantTokens_eq (c : Constant) (value : Tokens) :
    constantTokens c value = headTokens c ++ (value ++ [.punct ';' false]) := by
  simp [constantTokens, headTokens]

/-- The two layouts of a list. -/
theorem bracketed_cases (level : Nat) (opening : List Char) (parts : List (List Char))
    (closing : List Char) :
    bracketed level opening parts closing =
      [indented level (opening ++ joinItems parts ++ closing)] ∨
      bracketed level opening parts closing = indented level opening ::
        parts.map (fun part => indented (level + 1) (part ++ [','])) ++
          [indented level closing] := by
  have hcomma : ",".toList = [','] := rfl
  unfold bracketed
  rw [hcomma]
  dsimp only
  split
  · exact Or.inl rfl
  · exact Or.inr rfl

theorem exists_valueTokens_texts (level : Nat) {c : Constant} (hname : IsIdentifier c.name)
    (htype : c.type.Spelled) (ss : List String) :
    ∃ ts, ItemTokens ss ts ∧
      Lexes (linesText (bracketed level (c.head ++ ['&', '[']) (ss.map literalChars) [']', ';']))
        (headTokens c ++ (.punct '&' false :: .opening .bracket :: ts ++
          [.closing .bracket, .punct ';' false])) := by
  rcases bracketed_cases level (c.head ++ ['&', '[']) (ss.map literalChars) [']', ';'] with
    hlayout | hlayout
  · obtain ⟨ts, hitems, hlex⟩ := exists_itemTokens_joined ss lexes_listClose
    have hline := lexes_indented level (lexes_head hname htype (lexes_listOpen.append hlex))
    refine ⟨ts, hitems, ?_⟩
    rw [hlayout, linesText_cons, linesText_nil, indented_append]
    simpa using hline
  · obtain ⟨ts, hitems, hlex⟩ := exists_itemTokens_broken (level + 1) ss
    have hopen : Lexes ['&', '[', '\n'] [.punct '&' false, .opening .bracket] := by decide
    have hfirst : Lexes (c.head ++ ['&', '['] ++ ['\n'])
      (headTokens c ++ [.punct '&' false, .opening .bracket]) := by
      rw [List.append_assoc]
      exact lexes_head hname htype hopen
    have hlast := @lexes_line level [']', ';'] _ _ _ lexes_listClose Lexes.nil
    have hlines := lexes_line level hfirst (hlex.append hlast)
    refine ⟨ts, hitems, ?_⟩
    rw [hlayout]
    simpa [List.map_map, Function.comp_def] using hlines

/-- A constant whose parts can stand in a text as they are, and that does not wrap another. -/
structure Constant.Spelled (c : Constant) : Prop where
  name : IsIdentifier c.name
  type : c.type.Spelled
  docs : ∀ doc ∈ c.docs, PlainDoc doc
  value : ∀ type constant, c.value ≠ .wrapped type constant

theorem exists_constantTokens (level : Nat) {c : Constant} (h : c.Spelled) :
    ∃ value, ValueTokens c.value value ∧
      Lexes (linesText (c.lines level)) (docTokens c.docs ++ constantTokens c value) := by
  have hdocs := lexes_docLines level h.docs
  unfold Constant.lines
  rw [linesText_append]
  cases hvalue : c.value with
  | scalar v =>
    have hline := lexes_indented level (lexes_head h.name h.type (lexes_scalar v lexes_semicolon))
    refine ⟨_, .scalar v, hdocs.append ?_⟩
    rw [constantTokens_eq, linesText_cons, linesText_nil, indented_append]
    simpa using hline
  | texts ss =>
    obtain ⟨ts, hitems, hlex⟩ := exists_valueTokens_texts level h.name h.type ss
    refine ⟨_, .texts hitems, hdocs.append ?_⟩
    rw [constantTokens_eq]
    simpa using hlex
  | wrapped type constant => exact absurd hvalue (h.value type constant)

/-! ### Tables -/

/-- The two layouts of an arm. -/
theorem armLines_cases (pattern text : List Char) :
    armLines pattern text = [indented 3 (pattern ++ [' ', '=', '>', ' '] ++ text ++ [','])] ∨
      armLines pattern text =
        [indented 3 (pattern ++ [' ', '=', '>', ' ', '\x7b']), indented 4 text,
          indented 3 ['\x7d']] := by
  have harrow : " => ".toList = [' ', '=', '>', ' '] := rfl
  have hopen : " => \x7b".toList = [' ', '=', '>', ' ', '\x7b'] := rfl
  have hcomma : ",".toList = [','] := rfl
  have hclose : "\x7d".toList = ['\x7d'] := rfl
  unfold armLines
  rw [harrow, hopen, hcomma, hclose]
  dsimp only
  split
  · exact Or.inl (by rw [indented_append])
  · exact Or.inr rfl

/-- An arm, of whatever pattern. -/
theorem exists_armTextTokens {pattern : List Char} {token : Token} (text : String)
    (hpattern : ∀ cs ts, Lexes (' ' :: cs) ts → Lexes (pattern ++ ' ' :: cs) (token :: ts)) :
    ∃ ts, ArmTextTokens text ts ∧
      Lexes (linesText (armLines pattern (literalChars text))) (token :: arrow ++ ts) := by
  rcases armLines_cases pattern (literalChars text) with hlayout | hlayout
  · have hline := lexes_indented 3
      (hpattern _ _ (lexes_arrow.append (lexes_literal text (by decide) lexes_commaLine)))
    refine ⟨_, .plain text false, ?_⟩
    rw [hlayout, linesText_cons, linesText_nil, indented_append]
    simpa using hline
  · have hopen : Lexes [' ', '=', '>', ' ', '\x7b', '\n'] (arrow ++ [.opening .brace]) := by decide
    have hfirst : Lexes (pattern ++ [' ', '=', '>', ' ', '\x7b'] ++ ['\n'])
        (token :: (arrow ++ [.opening .brace])) := by
      rw [List.append_assoc]
      exact hpattern _ _ hopen
    have htext := lexes_literal text (by decide) lexes_lineEnd
    have hlast := @lexes_line 3 ['\x7d'] _ _ _ lexes_blockClose Lexes.nil
    have hlines := lexes_line 3 hfirst (lexes_line 4 htext hlast)
    refine ⟨_, .braced text, ?_⟩
    rw [hlayout]
    simpa using hlines

theorem exists_armTokens (arms : List (String × String)) :
    ∃ ts, ArmTokens arms ts ∧
      Lexes (linesText (arms.flatMap fun arm => armLines (literalChars arm.1) (literalChars arm.2)))
        ts := by
  induction arms with
  | nil => exact ⟨[], .nil, Lexes.nil⟩
  | cons arm arms ih =>
    obtain ⟨ts, harms, hlex⟩ := ih
    obtain ⟨us, htext, harm⟩ := exists_armTextTokens arm.2 fun cs ts h =>
      lexes_literal arm.1 (by decide) h
    refine ⟨_, .cons arm.1 htext harms, ?_⟩
    rw [List.flatMap_cons, linesText_append]
    exact harm.append hlex

/-- A table whose parts can stand in a text as they are. -/
structure Table.Spelled (t : Table) : Prop where
  name : IsIdentifier t.name
  parameter : IsIdentifier t.parameter
  docs : ∀ doc ∈ t.docs, PlainDoc doc

theorem lexes_signature {t : Table} (h : t.Spelled) :
    Lexes ("pub fn ".toList ++ t.name.toList ++ "(".toList ++ t.parameter.toList ++
        ": &str) -> &'static str \x7b".toList ++ ['\n'])
      [.word "pub", .word "fn", .word t.name, .opening .parenthesis, .word t.parameter,
        .punct ':' false, .punct '&' false, .word "str", .closing .parenthesis, .punct '-' true,
        .punct '>' false, .punct '&' true, .lifetime "static", .word "str", .opening .brace] := by
  have hfront : Lexes "pub fn ".toList [.word "pub", .word "fn"] := by decide
  have hopen : Lexes ['('] [.opening .parenthesis] := by decide
  have htail : Lexes (':' :: " &str) -> &'static str \x7b\n".toList)
    [.punct ':' false, .punct '&' false,
      .word "str", .closing .parenthesis, .punct '-' true, .punct '>' false, .punct '&' true,
      .lifetime "static", .word "str", .opening .brace] := by
    decide
  have hparameter := hopen.append (lexes_identifier h.parameter (by decide) htail)
  have hall := hfront.append (lexes_identifier h.name (by decide) hparameter)
  simpa using hall

theorem exists_tableTokens {t : Table} (h : t.Spelled) :
    ∃ arms otherwise, ArmTokens t.arms arms ∧ ArmTextTokens t.otherwise otherwise ∧
      Lexes (linesText t.lines) (docTokens t.docs ++ tableTokens t arms otherwise) := by
  obtain ⟨arms, harms, hlexArms⟩ := exists_armTokens t.arms
  obtain ⟨otherwise, hotherwise, hlexOther⟩ := exists_armTextTokens t.otherwise
    fun cs ts h => @lexes_word "_" (by decide) ' ' cs ts (by decide) h
  have hmatch : Lexes ("match ".toList ++ t.parameter.toList ++ [' ', '\x7b'] ++ ['\n'])
      [.word "match", .word t.parameter, .opening .brace] := by
    have hfront : Lexes "match ".toList [.word "match"] := by decide
    have hline := hfront.append (lexes_identifier h.parameter (by decide) lexes_blockOpen)
    simpa using hline
  have hend := @lexes_line 2 ['\x7d'] _ _ _ lexes_blockClose
    (@lexes_line 1 ['\x7d'] _ _ _ lexes_blockClose Lexes.nil)
  have hbody :=
    lexes_line 1 (lexes_signature h) (lexes_line 2 hmatch (hlexArms.append (hlexOther.append hend)))
  refine ⟨arms, otherwise, harms, hotherwise, ?_⟩
  have htable := (lexes_docLines 1 h.docs).append hbody
  unfold Table.lines
  simpa [tableTokens, matchTokens] using htable

/-! ### Members and blocks -/

/-- A member whose parts can stand in a text as they are. -/
def Member.Spelled : Member → Prop
  | .constant c => c.Spelled
  | .table t => t.Spelled

theorem exists_memberTokens {m : Member} (h : m.Spelled) :
    ∃ ts, MemberTokens m ts ∧ Lexes (linesText m.lines) ts := by
  cases m with
  | constant c =>
    have hc : c.Spelled := h
    obtain ⟨value, hvalue, hlex⟩ := exists_constantTokens 1 hc
    exact ⟨_, .constant hc.name.1 hc.type.readable hvalue, hlex⟩
  | table t =>
    have ht : t.Spelled := h
    obtain ⟨arms, otherwise, harms, hotherwise, hlex⟩ := exists_tableTokens ht
    exact ⟨_, .table ht.name.1 ht.parameter.1 harms hotherwise, hlex⟩

theorem exists_membersTokens {ms : List Member} (h : ∀ m ∈ ms, m.Spelled) :
    ∃ ts, MembersTokens ms ts ∧ Lexes (linesText (ms.flatMap Member.lines)) ts := by
  induction ms with
  | nil => exact ⟨[], .nil, Lexes.nil⟩
  | cons m ms ih =>
    obtain ⟨ts, hm, hlex⟩ := exists_memberTokens (h m List.mem_cons_self)
    obtain ⟨us, hms, hrest⟩ := ih fun n hn => h n (List.mem_cons_of_mem m hn)
    refine ⟨_, .cons hm hms, ?_⟩
    rw [List.flatMap_cons, linesText_append]
    exact hlex.append hrest

end Companion.Code
