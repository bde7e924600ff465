import Companion.Source.Grammar.Items
import Companion.Source.Lexer

/-! Source files and the types they declare. The recursion of the grammar is bounded by the number
of tokens: between two rules that take a token there are only a few that take none. -/
namespace Companion.Source

/-- The reader of a rule, given the readers of all rules. -/
def grammar (g : Readers) : Readers
  | .type plus => typeRule g plus
  | .bound => bound g
  | .generics => generics g
  | .arguments => genericArguments g
  | .pattern => patternRule g
  | .patterns => patternsRule g
  | .expression braces => expressionRule g braces
  | .operand braces => operandRule g braces
  | .operators braces level left => operatorsRule g braces level left
  | .trailers left => trailersRule g left
  | .statement => statementRule g
  | .block => blockRule g
  | .statements => statementsRule g
  | .item => itemRule g

/-- The readers of the grammar, nested at most `depth` deep. -/
def readers : Nat → Readers
  | 0 => fun _ _ => none
  | depth + 1 => grammar (readers depth)

/-- How many rules may follow each other without taking a token. -/
def rulesPerToken : Nat := 16

/-- The items of a file, behind the attributes of the file. -/
def fileItems (ts : Tokens) : Option (List Form) := do
  let g := readers (rulesPerToken * (ts.length + 1))
  let ts ← skipInnerAttributes g ts
  let (forms, ts) ← items g ts
  if ts.isEmpty then return forms else none

/-- The byte order mark. -/
def byteOrderMark : Char := Char.ofNat 0xfeff

def dropMark : List Char → List Char
  | c :: cs => if c = byteOrderMark then cs else c :: cs
  | [] => []

/-- The text behind the end of the line. -/
def afterLine : List Char → List Char
  | [] => []
  | c :: cs => if c = '\n' then cs else afterLine cs

/-- The text behind the end of a comment that `depth` closing marks end. -/
def afterComment : Nat → List Char → Option (List Char)
  | depth, '/' :: '*' :: cs => afterComment (depth + 1) cs
  | 0, '*' :: '/' :: cs => some cs
  | 1, '*' :: '/' :: cs => some cs
  | depth + 2, '*' :: '/' :: cs => afterComment (depth + 1) cs
  | depth, _ :: cs => afterComment depth cs
  | _, [] => none

/-- The text behind the comment it starts with, if that is no doc comment. -/
def skipComment? (cs : List Char) : Option (List Char) :=
  match cs with
  | '/' :: '/' :: rest =>
    match rest with
    | '/' :: '/' :: rest => some (afterLine rest)
    | '/' :: _ => none
    | '!' :: _ => none
    | rest => some (afterLine rest)
  | '/' :: '*' :: rest =>
    match rest with
    | '*' :: '/' :: rest => some rest
    | '*' :: '*' :: _ => afterComment 1 rest
    | '*' :: _ => none
    | '!' :: _ => none
    | rest => afterComment 1 rest
  | _ => none

theorem length_afterLine_le (cs : List Char) : (afterLine cs).length ≤ cs.length := by
  fun_induction afterLine cs with
  | case1 => simp
  | case2 => simp
  | case3 c cs _ ih => simp; omega

theorem length_afterComment_le {depth : Nat} {cs rest : List Char}
    (h : afterComment depth cs = some rest) : rest.length ≤ cs.length := by
  fun_induction afterComment depth cs with
  | case1 _ cs ih => have := ih h; simp; omega
  | case2 cs => simp at h; subst h; simp; omega
  | case3 cs => simp at h; subst h; simp; omega
  | case4 _ cs ih => have := ih h; simp; omega
  | case5 _ c cs _ _ _ _ ih => have := ih h; simp; omega
  | case6 => simp at h

theorem length_skipComment_lt {cs rest : List Char} (h : skipComment? cs = some rest) :
    rest.length < cs.length := by
  unfold skipComment? at h
  split at h
  · split at h
    · obtain rfl := Option.some.inj h
      exact Nat.lt_of_le_of_lt (length_afterLine_le _) (by simp only [List.length_cons]; omega)
    · simp at h
    · simp at h
    · obtain rfl := Option.some.inj h
      exact Nat.lt_of_le_of_lt (length_afterLine_le _) (by simp only [List.length_cons]; omega)
  · split at h
    · simp at h ⊢
      subst h
      omega
    · have := length_afterComment_le h
      simp at this ⊢
      omega
    · simp at h
    · simp at h
    · have := length_afterComment_le h
      simp at this ⊢
      omega
  · simp at h

/-- The text behind blanks and comments. -/
def skipGaps (cs : List Char) : List Char :=
  match _h : skipComment? cs with
  | some rest => skipGaps rest
  | none =>
    match cs with
    | [] => []
    | c :: rest => if isGap c then skipGaps rest else c :: rest
termination_by cs.length
decreasing_by
  · exact length_skipComment_lt _h
  · simp

/-- The text without the line that tells a shell how to run it. -/
def dropScriptLine (cs : List Char) : List Char :=
  match cs with
  | '#' :: '!' :: rest => if (skipGaps rest).head? = some '[' then cs else cs.dropWhile (· ≠ '\n')
  | cs => cs

/-- The types that a source text declares, in order; `none` if it is no source text. -/
def declarations? (text : String) : Option (List Declaration) := do
  let tokens ← lex? (dropMark (dropScriptLine (dropMark text.toList)))
  let forms ← fileItems tokens
  return forms.filterMap fun
    | .item declared => declared
    | _ => none

end Companion.Source
