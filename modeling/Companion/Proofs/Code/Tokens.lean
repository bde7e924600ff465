import Mathlib
import Companion.Code.Reader
import Companion.Proofs.Scalar
import Companion.Proofs.Source.Spelling

/-! The tokens of generated code, and reading them. A list of texts may have a comma behind its last
item, and the text of an arm may stand between braces or in front of a comma, so these tokens are
given by relations. Whatever the form, the reader finds the same parts and stops behind them
(`eatMember_tokens`, `read?_block`). -/
namespace Companion.Source

/-! ### Repetition -/

/-- What is read from a sequence of tokens as long as `more` holds, and what is left. Every part
takes a token. -/
inductive Repeats {α : Type} (more : Tokens → Bool) (read : Tokens → Option (α × Tokens)) :
    List α → Tokens → Tokens → Prop where
  | done {rest : Tokens} (h : more rest = false) : Repeats more read [] rest rest
  | next {a : α} {as : List α} {ts us rest : Tokens} (hmore : more ts = true)
      (hread : read ts = some (a, us)) (hlt : us.length < ts.length)
      (h : Repeats more read as us rest) :
      Repeats more read (a :: as) ts rest

namespace Repeats

variable {α : Type} {more : Tokens → Bool} {read : Tokens → Option (α × Tokens)} {as : List α}
  {ts rest : Tokens}

theorem length_le (h : Repeats more read as ts rest) : as.length ≤ ts.length := by
  induction h with
  | done => simp
  | next _ _ hlt _ ih =>
    rw [List.length_cons]
    omega

theorem manyFuel_eq (h : Repeats more read as ts rest) {fuel : Nat} (hfuel : as.length < fuel) :
    manyFuel more read fuel ts = some (as, rest) := by
  induction h generalizing fuel with
  | done hstop =>
    cases fuel with
    | zero => simp at hfuel
    | succ fuel => rw [manyFuel, hstop]; rfl
  | next hmore hread _ _ ih =>
    cases fuel with
    | zero => simp at hfuel
    | succ fuel =>
      rw [manyFuel, hmore, hread]
      simp [ih (by simpa using hfuel)]

theorem many_eq (h : Repeats more read as ts rest) : many more read ts = some (as, rest) :=
  h.manyFuel_eq (Nat.lt_succ_of_le h.length_le)

end Repeats

end Companion.Source

namespace Companion.Code
open Source

/-! ### Lists of texts -/

/-- The items of a list with commas between them, and possibly one behind the last. -/
inductive ItemTokens : List String → Tokens → Prop where
  | nil : ItemTokens [] []
  | last (s : String) : ItemTokens [s] [textToken s]
  | cons (s : String) (touching : Bool) {ss : List String} {ts : Tokens} (h : ItemTokens ss ts) :
      ItemTokens (s :: ss) (textToken s :: .punct ',' touching :: ts)

theorem commaList_items {ss : List String} {ts : Tokens} (h : ItemTokens ss ts) (d : Delimiter)
    (rest : Tokens) :
    commaList eatText (ts ++ .closing d :: rest) = some (ss, .closing d :: rest) := by
  refine Repeats.many_eq ?_
  induction h with
  | nil => exact .done rfl
  | last s => exact .next rfl rfl (by simp) (.done rfl)
  | cons s touching _ ih => exact .next rfl rfl (by simp) ih

/-! ### Constants -/

def ConstantType.tokens : ConstantType → Tokens
  | .named name => [.word name]
  | .text => [.punct '&' true, .lifetime "static", .word "str"]
  | .texts => [.punct '&' true, .lifetime "static", .opening .bracket, .punct '&' true,
      .lifetime "static", .word "str", .closing .bracket]

/-- The types that the reader takes: a named one has the name of a type. -/
def ConstantType.Readable : ConstantType → Prop
  | .named name => isIdentifier name = true
  | _ => True

theorem eatConstantType_tokens {type : ConstantType} (h : type.Readable) (rest : Tokens) :
    eatConstantType (type.tokens ++ rest) = some (type, rest) := by
  cases type with
  | named name =>
    have hname : isIdentifier name = true := h
    simp [ConstantType.tokens, eatConstantType, eatTypeName, hname]
  | text => rfl
  | texts => rfl

def scalarTokens : Scalar → Tokens
  | .text s => [textToken s]
  | .integer i => integerTokens i.toInt
  | .boolean true => [.word "true"]
  | .boolean false => [.word "false"]

theorem eatScalar_tokens (v : Scalar) (rest : Tokens) :
    eatScalar (scalarTokens v ++ rest) = some (v, rest) := by
  cases v with
  | text s => rfl
  | boolean b => cases b <;> rfl
  | integer i =>
    have hread : (Text.readDecimal (Text.decimal i.toInt)).bind Scalar.ofInt? =
      some (.integer i) := by
      rw [Text.readDecimal_decimal]
      exact Scalar.ofInt?_toInt i
    rw [Text.decimal] at hread
    by_cases hi : i.toInt < 0
    · rw [if_pos hi] at hread
      simp [scalarTokens, integerTokens, hi, eatScalar, eatInteger, hread]
    · rw [if_neg hi] at hread
      simp [scalarTokens, integerTokens, hi, eatScalar, eatInteger, hread]

/-- The tokens of a value. A constant that wraps another is none of them. -/
inductive ValueTokens : ConstantValue → Tokens → Prop where
  | scalar (v : Scalar) : ValueTokens (.scalar v) (scalarTokens v)
  | texts {ss : List String} {ts : Tokens} (h : ItemTokens ss ts) :
      ValueTokens (.texts ss) (.punct '&' false :: .opening .bracket :: ts ++ [.closing .bracket])

theorem not_peekPunct_scalarTokens (v : Scalar) (rest : Tokens) :
    peekPunct "&" (scalarTokens v ++ rest) = false := by
  cases v with
  | text s => rfl
  | boolean b => cases b <;> rfl
  | integer i =>
    rw [scalarTokens, integerTokens]
    split <;> rfl

theorem eatConstantValue_tokens {value : ConstantValue} {ts : Tokens} (h : ValueTokens value ts)
    (rest : Tokens) : eatConstantValue (ts ++ rest) = some (value, rest) := by
  cases h with
  | scalar v =>
    rw [eatConstantValue, not_peekPunct_scalarTokens, eatScalar_tokens]
    rfl
  | @texts ss ts hitems =>
    have hlist := commaList_items hitems .bracket rest
    have hopen : eatOpening .bracket (.opening .bracket :: (ts ++ .closing .bracket :: rest)) =
        some (ts ++ .closing .bracket :: rest) := rfl
    have hcut : .punct '&' false :: .opening .bracket :: ts ++ [.closing .bracket] ++ rest =
        .punct '&' false :: .opening .bracket :: (ts ++ .closing .bracket :: rest) := by simp
    have hpeek : peekPunct "&"
      (.punct '&' false :: .opening .bracket :: (ts ++ .closing .bracket :: rest)) =
        true := rfl
    rw [hcut, eatConstantValue, hpeek, if_pos rfl]
    simp [between, hopen, hlist, eatClosing]

/-- The doc comments in front of a part. -/
def docTokens (docs : List String) : Tokens := docs.map (.doc false)

theorem eatDocs_tokens (docs : List String) (rest : Tokens) :
    eatDocs (docTokens docs ++ .word "pub" :: rest) = (docs, .word "pub" :: rest) := by
  induction docs with
  | nil => rfl
  | cons doc docs ih =>
    show (doc :: (eatDocs (docTokens docs ++ .word "pub" :: rest)).1,
      (eatDocs (docTokens docs ++ .word "pub" :: rest)).2) = _
    rw [ih]

/-- The tokens of a constant behind its doc texts. -/
def constantTokens (c : Constant) (value : Tokens) : Tokens :=
  .word "pub" :: .word "const" :: .word c.name :: .punct ':' false :: c.type.tokens ++
    .punct '=' false :: value ++ [.punct ';' false]

theorem eatConstant_tokens {c : Constant} {value : Tokens} (hname : isIdentifier c.name = true)
    (htype : c.type.Readable) (hvalue : ValueTokens c.value value) (rest : Tokens) :
    eatConstant c.docs (constantTokens c value ++ rest) = some (c, rest) := by
  have hcut : constantTokens c value ++ rest = .word "pub" :: .word "const" :: .word c.name ::
    .punct ':' false ::
      (c.type.tokens ++ .punct '=' false :: (value ++ .punct ';' false :: rest)) := by
    simp [constantTokens]
  have hequals : ∀ ts, eatPunct "=" (.punct '=' false :: ts) = some ts := fun ts => rfl
  have hcolon : ∀ ts, eatPunct ":" (.punct ':' false :: ts) = some ts := fun ts => rfl
  have hend : ∀ ts, eatPunct ";" (.punct ';' false :: ts) = some ts := fun ts => rfl
  rw [hcut, eatConstant]
  simp [eatWord, peekWord, eatIdentifier, hname, hcolon, eatConstantType_tokens htype, hequals,
    eatConstantValue_tokens hvalue, hend]

/-! ### Tables -/

/-- The text of an arm: in front of a comma, or between braces. -/
inductive ArmTextTokens : String → Tokens → Prop where
  | plain (s : String) (touching : Bool) : ArmTextTokens s [textToken s, .punct ',' touching]
  | braced (s : String) : ArmTextTokens s [.opening .brace, textToken s, .closing .brace]

theorem eatArmText_tokens {s : String} {ts : Tokens} (h : ArmTextTokens s ts) {rest : Tokens}
    (hrest : peekPunct "," rest = false) : eatArmText (ts ++ rest) = some (s, rest) := by
  cases h with
  | plain touching => rfl
  | braced =>
    have hskip : skipPunct "," rest = rest := by simp [skipPunct, eatPunct, hrest]
    show some (s, skipPunct "," rest) = _
    rw [hskip]

/-- The arrow of an arm. -/
def arrow : Tokens := [.punct '=' true, .punct '>' false]

inductive ArmTokens : List (String × String) → Tokens → Prop where
  | nil : ArmTokens [] []
  | cons (pattern : String) {text : String} {arms : List (String × String)} {ts us : Tokens}
      (htext : ArmTextTokens text ts) (h : ArmTokens arms us) :
      ArmTokens ((pattern, text) :: arms) (textToken pattern :: arrow ++ ts ++ us)

theorem not_comma_arms {arms : List (String × String)} {ts rest : Tokens} (h : ArmTokens arms ts)
    (hrest : peekPunct "," rest = false) : peekPunct "," (ts ++ rest) = false := by
  cases h with
  | nil => exact hrest
  | cons => rfl

theorem repeats_arms {arms : List (String × String)} {ts rest : Tokens} (h : ArmTokens arms ts)
    (hstop : peekString rest = false) (hcomma : peekPunct "," rest = false) :
    Repeats peekString eatArm arms (ts ++ rest) rest := by
  induction h with
  | nil => exact .done hstop
  | @cons pattern text arms ts us htext harms ih =>
    have hcut : textToken pattern :: arrow ++ ts ++ us ++ rest =
        textToken pattern :: (arrow ++ (ts ++ (us ++ rest))) := by simp
    have harrow : ∀ ts, eatPunct "=>" (arrow ++ ts) = some ts := fun ts => rfl
    have hread : eatArm (textToken pattern :: (arrow ++ (ts ++ (us ++ rest)))) =
        some ((pattern, text), us ++ rest) := by
      have htext := eatArmText_tokens htext (not_comma_arms harms hcomma)
      simp [eatArm, textToken, eatText, harrow, htext]
    rw [hcut]
    refine .next rfl hread ?_ ih
    simp only [List.length_cons, List.length_append]
    omega

/-- The tokens in front of the arms of a table. -/
def matchTokens (t : Table) : Tokens :=
  [.word "pub", .word "fn", .word t.name, .opening .parenthesis, .word t.parameter,
    .punct ':' false, .punct '&' false, .word "str", .closing .parenthesis, .punct '-' true,
    .punct '>' false, .punct '&' true, .lifetime "static", .word "str", .opening .brace,
    .word "match", .word t.parameter, .opening .brace]

/-- The tokens of a table behind its doc texts. -/
def tableTokens (t : Table) (arms otherwise : Tokens) : Tokens :=
  matchTokens t ++
    (arms ++ .word "_" :: (arrow ++ (otherwise ++ [.closing .brace, .closing .brace])))

theorem eatArms_tokens {t : Table} {arms otherwise : Tokens} (harms : ArmTokens t.arms arms)
    (hotherwise : ArmTextTokens t.otherwise otherwise) (rest : Tokens) :
    eatArms (arms ++ .word "_" :: (arrow ++ (otherwise ++ .closing .brace :: rest))) =
      some ((t.arms, t.otherwise), .closing .brace :: rest) := by
  have harrow : ∀ ts, eatPunct "=>" (arrow ++ ts) = some ts := fun ts => rfl
  have hmany :=
    (@repeats_arms _ _ (.word "_" :: (arrow ++ (otherwise ++ .closing .brace :: rest))) harms
    rfl rfl).many_eq
  have htext := @eatArmText_tokens _ _ hotherwise (.closing .brace :: rest) rfl
  simp [eatArms, hmany, eatWord, peekWord, harrow, htext]

theorem eatParameter_tokens {parameter : String} (h : isIdentifier parameter = true)
    (rest : Tokens) :
    between .parenthesis eatParameter
      (.opening .parenthesis :: .word parameter :: .punct ':' false ::
      .punct '&' false :: .word "str" :: .closing .parenthesis :: rest) =
        some (parameter, rest) := by
  have hcolon : ∀ ts, eatPunct ":" (.punct ':' false :: ts) = some ts := fun ts => rfl
  have hamp : ∀ ts, eatPunct "&" (.punct '&' false :: ts) = some ts := fun ts => rfl
  simp [between, eatOpening, peekOpening, eatParameter, eatIdentifier, h, hcolon, hamp,
    eatWord, peekWord, eatClosing]

theorem eatMatch_tokens {t : Table} {arms otherwise : Tokens} (harms : ArmTokens t.arms arms)
    (hotherwise : ArmTextTokens t.otherwise otherwise) (rest : Tokens) :
    between .brace (eatMatch t.parameter)
        (.opening .brace :: .word "match" :: .word t.parameter :: .opening .brace ::
          (arms ++ .word "_" ::
            (arrow ++ (otherwise ++ .closing .brace :: .closing .brace :: rest)))) =
      some ((t.arms, t.otherwise), rest) := by
  have hread := eatArms_tokens harms hotherwise (.closing .brace :: rest)
  simp [between, eatOpening, peekOpening, eatMatch, eatWord, peekWord, hread, eatClosing]

theorem eatTable_tokens {t : Table} {arms otherwise : Tokens} (hname : isIdentifier t.name = true)
    (hparameter : isIdentifier t.parameter = true) (harms : ArmTokens t.arms arms)
    (hotherwise : ArmTextTokens t.otherwise otherwise) (rest : Tokens) :
    eatTable t.docs (tableTokens t arms otherwise ++ rest) = some (t, rest) := by
  have hcut : tableTokens t arms otherwise ++ rest =
      .word "pub" :: .word "fn" :: .word t.name :: .opening .parenthesis :: .word t.parameter ::
      .punct ':' false :: .punct '&' false :: .word "str" :: .closing .parenthesis ::
      .punct '-' true :: .punct '>' false :: .punct '&' true :: .lifetime "static" :: .word "str" ::
      .opening .brace :: .word "match" :: .word t.parameter :: .opening .brace ::
      (arms ++ .word "_" ::
        (arrow ++ (otherwise ++ .closing .brace :: .closing .brace :: rest))) := by
    simp [tableTokens, matchTokens]
  have hpub : ∀ ts, eatWord "pub" (.word "pub" :: ts) = some ts := fun ts => rfl
  have hfn : ∀ ts, eatWord "fn" (.word "fn" :: ts) = some ts := fun ts => rfl
  have hidentifier : ∀ ts, eatIdentifier (.word t.name :: ts) = some (t.name, ts) := by
    intro ts
    simp [eatIdentifier, hname]
  have hto : ∀ ts, eatPunct "->" (.punct '-' true :: .punct '>' false :: ts) = some ts :=
    fun ts => rfl
  have hstatic : ∀ ts, eatStaticText (.punct '&' true :: .lifetime "static" :: .word "str" :: ts) =
    some ts :=
    fun ts => rfl
  rw [hcut, eatTable]
  simp only [hpub, hfn, hidentifier, eatParameter_tokens hparameter, hto, hstatic,
    eatMatch_tokens harms hotherwise, Option.bind_eq_bind, Option.bind_some]
  rfl

/-! ### Members -/

/-- The tokens of a member that the reader takes. -/
inductive MemberTokens : Member → Tokens → Prop where
  | constant {c : Constant} {value : Tokens} (hname : isIdentifier c.name = true)
      (htype : c.type.Readable) (hvalue : ValueTokens c.value value) :
      MemberTokens (.constant c) (docTokens c.docs ++ constantTokens c value)
  | table {t : Table} {arms otherwise : Tokens} (hname : isIdentifier t.name = true)
      (hparameter : isIdentifier t.parameter = true) (harms : ArmTokens t.arms arms)
      (hotherwise : ArmTextTokens t.otherwise otherwise) :
      MemberTokens (.table t) (docTokens t.docs ++ tableTokens t arms otherwise)

theorem eatMember_tokens {m : Member} {ts : Tokens} (h : MemberTokens m ts) (rest : Tokens) :
    eatMember (ts ++ rest) = some (m, rest) := by
  cases h with
  | @constant c value hname htype hvalue =>
    have hread := eatConstant_tokens hname htype hvalue rest
    have hdocs : eatDocs (docTokens c.docs ++ constantTokens c value ++ rest) =
        (c.docs, constantTokens c value ++ rest) := by
      rw [List.append_assoc]
      exact eatDocs_tokens c.docs _
    have hconst : peekWord "const" ((constantTokens c value ++ rest).drop 1) = true := rfl
    simp only [eatMember, hdocs, hconst, if_true, hread, Option.map_some]
  | @table t arms otherwise hname hparameter harms hotherwise =>
    have hread := eatTable_tokens hname hparameter harms hotherwise rest
    have hdocs : eatDocs (docTokens t.docs ++ tableTokens t arms otherwise ++ rest) =
        (t.docs, tableTokens t arms otherwise ++ rest) := by
      rw [List.append_assoc]
      exact eatDocs_tokens t.docs _
    have hconst : peekWord "const" ((tableTokens t arms otherwise ++ rest).drop 1) = false := rfl
    simp only [eatMember, hdocs, hconst, hread, Bool.false_eq_true, if_false, Option.map_some]

inductive MembersTokens : List Member → Tokens → Prop where
  | nil : MembersTokens [] []
  | cons {m : Member} {ms : List Member} {ts us : Tokens} (hm : MemberTokens m ts)
      (h : MembersTokens ms us) : MembersTokens (m :: ms) (ts ++ us)

theorem MembersTokens.append {ms ns : List Member} {ts us : Tokens} (h : MembersTokens ms ts)
    (h' : MembersTokens ns us) : MembersTokens (ms ++ ns) (ts ++ us) := by
  induction h with
  | nil => exact h'
  | cons hm _ ih =>
    rw [List.append_assoc]
    exact .cons hm ih

/-- A member does not end where it starts, and its first token closes nothing. -/
theorem starts_member {m : Member} {ts : Tokens} (h : MemberTokens m ts) :
    ∃ t us, ts = t :: us ∧ ∀ rest, atEnd (t :: rest) = false := by
  have hdocs : ∀ (docs : List String) (us : Tokens), ∃ t vs,
      docTokens docs ++ .word "pub" :: us = t :: vs ∧ ∀ rest, atEnd (t :: rest) = false := by
    intro docs us
    cases docs with
    | nil => exact ⟨_, _, rfl, fun _ => rfl⟩
    | cons doc docs => exact ⟨_, _, rfl, fun _ => rfl⟩
  cases h with
  | constant => exact hdocs _ _
  | table => exact hdocs _ _

theorem repeats_members {ms : List Member} {ts : Tokens} (h : MembersTokens ms ts) (d : Delimiter)
    (rest : Tokens) :
    Repeats (fun ts => !atEnd ts) eatMember ms (ts ++ .closing d :: rest) (.closing d :: rest) := by
  induction h with
  | nil => exact .done rfl
  | @cons m ms ts us hm _ ih =>
    obtain ⟨t, vs, hstart, hopen⟩ := starts_member hm
    have hread := eatMember_tokens hm (us ++ .closing d :: rest)
    rw [List.append_assoc]
    refine .next ?_ hread ?_ ih
    · simp [hstart, hopen]
    · simp [hstart]

/-! ### Blocks -/

/-- The tokens of an `impl` block. -/
def blockTokens (type : String) (members : Tokens) : Tokens :=
  .word "impl" :: .word type :: .opening .brace :: members ++ [.closing .brace]

/-- A constant with its doc texts. -/
def eatDocumented (ts : Tokens) : Option (Constant × Tokens) :=
  eatConstant (eatDocs ts).1 (eatDocs ts).2

/-- **A block at the start of some tokens is what the reader finds there.** The constants are in the
rest. -/
theorem of_ofTokens?_block {type : String} {ms : List Member} {ts rest : Tokens} {code : Code}
    (htype : isIdentifier type = true) (hms : MembersTokens ms ts)
    (h : ofTokens? (blockTokens type ts ++ rest) = some code) :
    code.type = type ∧ code.members = ms ∧
      many (fun ts => !atEnd ts) eatDocumented rest = some (code.constants, []) := by
  have hcut : blockTokens type ts ++ rest =
      .word "impl" :: .word type :: .opening .brace :: (ts ++ .closing .brace :: rest) := by
    simp [blockTokens]
  have hmany := (repeats_members hms .brace rest).many_eq
  rw [hcut, ofTokens?] at h
  simp [eatWord, peekWord, eatTypeName, htype, between, eatOpening, peekOpening, hmany,
    eatClosing] at h
  obtain ⟨⟨constants, left⟩, hconstants, h⟩ := Option.bind_eq_some_iff.1 h
  split at h
  · next hleft =>
    obtain rfl := Option.some.inj h
    obtain rfl : left = [] := by simpa using hleft
    exact ⟨rfl, rfl, hconstants⟩
  · cases h

theorem ofTokens?_block {type : String} {ms : List Member} {ts : Tokens}
    (htype : isIdentifier type = true) (hms : MembersTokens ms ts) :
    ofTokens? (blockTokens type ts) = some ⟨type, ms, []⟩ := by
  have hmany := (repeats_members hms .brace []).many_eq
  have hrest (item : Tokens → Option (Constant × Tokens)) :
      many (fun ts => !atEnd ts) item [] = some ([], []) :=
    (Repeats.done rfl).many_eq
  have hcut : blockTokens type ts = .word "impl" :: .word type :: .opening .brace ::
    (ts ++ [.closing .brace]) := by
    simp [blockTokens]
  rw [hcut, ofTokens?]
  simp [eatWord, peekWord, eatTypeName, htype, between, eatOpening, peekOpening, hmany,
    eatClosing, hrest]

/-! ### Delimiters -/

/-- Tokens whose delimiters are closed among themselves. -/
def Closed (ts : Tokens) : Prop := ∀ stack rest, balanced stack (ts ++ rest) = balanced stack rest

namespace Closed

theorem nil : Closed [] := fun _ _ => rfl

theorem append {ts us : Tokens} (h : Closed ts) (h' : Closed us) : Closed (ts ++ us) := by
  intro stack rest
  rw [List.append_assoc, h, h']

/-- Tokens without delimiters. -/
theorem of_plain {ts : Tokens} (h : ∀ t ∈ ts, ∀ d, t ≠ .opening d ∧ t ≠ .closing d) :
    Closed ts := by
  intro stack rest
  induction ts with
  | nil => rfl
  | cons t ts ih =>
    have ht := h t List.mem_cons_self
    rw [List.cons_append, ← ih fun u hu => h u (List.mem_cons_of_mem t hu)]
    cases t with
    | opening d => exact absurd rfl (ht d).1
    | closing d => exact absurd rfl (ht d).2
    | _ => cases stack <;> rfl

theorem between {d : Delimiter} {ts us : Tokens} (h : Closed ts) (h' : Closed us) :
    Closed (.opening d :: ts ++ .closing d :: us) := by
  intro stack rest
  have hcut : .opening d :: ts ++ .closing d :: us ++ rest =
    .opening d :: (ts ++ .closing d :: (us ++ rest)) := by
    simp
  rw [hcut, balanced, h, balanced, h']
  simp

end Closed

theorem closed_items {ss : List String} {ts : Tokens} (h : ItemTokens ss ts) : Closed ts := by
  refine .of_plain ?_
  induction h with
  | nil => simp
  | last s => simp [textToken]
  | cons s touching _ ih => simpa [textToken] using ih

theorem closed_scalar (v : Scalar) : Closed (scalarTokens v) := by
  refine .of_plain ?_
  cases v with
  | text s => simp [scalarTokens, textToken]
  | boolean b => cases b <;> simp [scalarTokens]
  | integer i =>
    rw [scalarTokens, integerTokens]
    split <;> simp

theorem closed_constantType (type : ConstantType) : Closed type.tokens := by
  cases type with
  | named name => exact .of_plain (by simp [ConstantType.tokens])
  | text => exact .of_plain (by simp [ConstantType.tokens])
  | texts =>
    have hinner : Closed [.punct '&' true, .lifetime "static", .word "str"] := .of_plain (by simp)
    have hfront : Closed [.punct '&' true, .lifetime "static"] := .of_plain (by simp)
    exact hfront.append (@Closed.between .bracket _ _ hinner .nil)

theorem closed_value {value : ConstantValue} {ts : Tokens} (h : ValueTokens value ts) :
    Closed ts := by
  cases h with
  | scalar v => exact closed_scalar v
  | texts hitems =>
    have hfront : Closed [.punct '&' false] := .of_plain (by simp)
    exact hfront.append ((closed_items hitems).between .nil)

theorem closed_armText {s : String} {ts : Tokens} (h : ArmTextTokens s ts) : Closed ts := by
  cases h with
  | plain touching => exact .of_plain (by simp [textToken])
  | braced =>
    have hinner : Closed [textToken s] := .of_plain (by simp [textToken])
    exact hinner.between .nil

theorem closed_arms {arms : List (String × String)} {ts : Tokens} (h : ArmTokens arms ts) :
    Closed ts := by
  induction h with
  | nil => exact .nil
  | cons pattern htext _ ih =>
    have hfront : Closed (textToken pattern :: arrow) := .of_plain (by simp [textToken, arrow])
    exact (hfront.append (closed_armText htext)).append ih

theorem closed_member {m : Member} {ts : Tokens} (h : MemberTokens m ts) : Closed ts := by
  have hdocs : ∀ docs, Closed (docTokens docs) := fun docs => .of_plain (by simp [docTokens])
  cases h with
  | @constant c value hname htype hvalue =>
    have hhead : Closed [.word "pub", .word "const", .word c.name, .punct ':' false] :=
      .of_plain (by simp)
    have hequals : Closed [.punct '=' false] := .of_plain (by simp)
    have hend : Closed [.punct ';' false] := .of_plain (by simp)
    have hbody := (hhead.append (closed_constantType c.type)).append
      ((hequals.append (closed_value hvalue)).append hend)
    refine (hdocs c.docs).append ?_
    rw [constantTokens]
    simpa using hbody
  | @table t arms otherwise hname hparameter harms hotherwise =>
    have hhead : Closed [.word "pub", .word "fn", .word t.name] := .of_plain (by simp)
    have hparameter : Closed [.word t.parameter, .punct ':' false, .punct '&' false, .word "str"] :=
      .of_plain (by simp)
    have hresult : Closed
      [.punct '-' true, .punct '>' false, .punct '&' true, .lifetime "static", .word "str"] :=
      .of_plain (by simp)
    have hmatch : Closed [.word "match", .word t.parameter] := .of_plain (by simp)
    have harrow : Closed (.word "_" :: arrow) := .of_plain (by simp [arrow])
    have harms := (closed_arms harms).append (harrow.append (closed_armText hotherwise))
    have hbody := (hmatch.append (@Closed.between .brace _ _ harms .nil))
    have htable := (hhead.append (@Closed.between .parenthesis _ _ hparameter hresult)).append
      (@Closed.between .brace _ _ hbody .nil)
    refine (hdocs t.docs).append ?_
    rw [tableTokens, matchTokens]
    simpa using htable

/-- The delimiters of a block are closed in turn. -/
theorem balanced_block (type : String) {ms : List Member} {ts : Tokens} (h : MembersTokens ms ts) :
    balanced [] (blockTokens type ts) = true := by
  have hmembers : Closed ts := by
    induction h with
    | nil => exact .nil
    | cons hm _ ih => exact (closed_member hm).append ih
  have hhead : Closed [.word "impl", .word type] := .of_plain (by simp)
  have hblock := (hhead.append (@Closed.between .brace _ _ hmembers .nil)) [] []
  rw [List.append_nil] at hblock
  exact hblock

/-! ### Texts -/

/-- A text that is read as a block reads back as its members. -/
theorem read?_block {cs : List Char} {type : String} {ms : List Member} {ts : Tokens}
    (h : Lexes cs (blockTokens type ts)) (htype : isIdentifier type = true)
    (hms : MembersTokens ms ts) :
    read? cs = some ⟨type, ms, []⟩ := by
  rw [read?, h.lex?_eq (balanced_block type hms)]
  exact ofTokens?_block htype hms

/-- A text that starts with a block has its members, if it can be read, and the constants of the
rest. -/
theorem of_read?_append {cs ds : List Char} {type : String} {ms : List Member} {ts : Tokens}
    {code : Code} (h : Lexes cs (blockTokens type ts)) (htype : isIdentifier type = true)
    (hms : MembersTokens ms ts) (hread : read? (cs ++ ds) = some code) :
    code.type = type ∧ code.members = ms ∧
      ∃ vs, (Lexing.run ⟨[], .ground⟩ ds).finish? = some vs.reverse ∧
        many (fun ts => !atEnd ts) eatDocumented vs = some (code.constants, []) := by
  obtain ⟨us, hlex, hcode⟩ := Option.bind_eq_some_iff.1 hread
  obtain ⟨vs, rfl, hvs⟩ := h.of_lex?_append hlex
  obtain ⟨htype, hmembers, hconstants⟩ := of_ofTokens?_block htype hms hcode
  exact ⟨htype, hmembers, vs, hvs, hconstants⟩

/-- A longer text starts with the same members, if it can be read. -/
theorem members_of_read? {cs ds : List Char} {type : String} {ms : List Member} {ts : Tokens}
    {code : Code} (h : Lexes cs (blockTokens type ts)) (htype : isIdentifier type = true)
    (hms : MembersTokens ms ts) (hread : read? (cs ++ ds) = some code) :
    code.type = type ∧ code.members = ms := by
  obtain ⟨htype, hmembers, -⟩ := of_read?_append h htype hms hread
  exact ⟨htype, hmembers⟩

end Companion.Code
