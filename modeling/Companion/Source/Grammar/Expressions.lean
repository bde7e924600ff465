import Companion.Source.Grammar.Patterns

/-! Expressions and blocks. Operators bind by level: assignment 1, ranges 2, `||` 3, `&&` 4,
comparison 6, `|` 7, `^` 8, `&` 9, shifts 10, sums 11, products 12, `as` 13. Comparisons do not
associate, and a range is no operand of an operator that follows it. -/
namespace Companion.Source

/-! ### Operators -/

def comparisonLevel : Nat := 6

/-- The binary operators, longer ones before those they start with, each with its level. -/
def binaryOperators : List (String × Nat) :=
  [("<<=", 1), (">>=", 1), ("+=", 1), ("-=", 1), ("*=", 1), ("/=", 1), ("%=", 1), ("^=", 1),
    ("&=", 1), ("|=", 1), ("&&", 4), ("||", 3), ("<<", 10), (">>", 10), ("==", 6), ("<=", 6),
    ("!=", 6), (">=", 6), ("+", 11), ("-", 11), ("*", 12), ("/", 12), ("%", 12), ("^", 8), ("&", 9),
    ("|", 7), ("<", 6), (">", 6)]

/-- The binary operator that stands here, with its level. -/
def binaryOperator? (ts : Tokens) : Option (String × Nat) :=
  binaryOperators.find? fun (operator, _) => peekPunct operator ts

/-- Whether an assignment stands here. -/
def peekAssignment (ts : Tokens) : Bool := peekPunct "=" ts && !peekPunct "=>" ts

/-- The level of the operator that stands here; 0 if none does. -/
def operatorLevel (ts : Tokens) : Nat :=
  match binaryOperator? ts with
  | some (_, level) => level
  | none =>
    if peekAssignment ts then 1
    else if peekPunct ".." ts then 2
    else if peekWord "as" ts then 13
    else 0

/-- The operators behind an operand that bind more tightly than `level`, or are further assignments.
A round that takes no token is the last. -/
def tighterOperators (g : Readers) (braces : Bool) (level : Nat) :
    Nat → Form → Tokens → Option (Form × Tokens)
  | 0, form, ts => some (form, ts)
  | fuel + 1, form, ts =>
    let following := operatorLevel ts
    if level < following || (following = level && level = 1) then
      match g (.operators braces following form) ts with
      | some (form, rest) =>
        if rest.length < ts.length then tighterOperators g braces level fuel form rest
        else some (form, rest)
      | none => none
    else some (form, ts)

/-- The right operand of an operator of the given level. -/
def rightOperand (g : Readers) (braces : Bool) (level : Nat) (ts : Tokens) :
    Option (Form × Tokens) := do
  let (form, ts) ← g (.operand braces) ts
  tighterOperators g braces level ts.length form ts

/-- Whether a half-open range ends here. -/
def endsOpenRange (braces : Bool) (ts : Tokens) : Bool :=
  atEnd ts || peekPunct "," ts || peekPunct ";" ts || (peekPunct "." ts && !peekPunct ".." ts) ||
    peekPunct "?" ts || peekPunct "=>" ts || (!braces && peekOpening .brace ts) ||
    peekPunct "=" ts || peekPunct "+" ts || peekPunct "/" ts || peekPunct "%" ts ||
    peekPunct "^" ts || peekPunct ">" ts || peekPunct "<=" ts || peekPunct "!=" ts ||
    peekPunct "-=" ts || peekPunct "*=" ts || peekPunct "&=" ts || peekPunct "|=" ts ||
    peekPunct "<<=" ts || peekWord "as" ts

/-- The operator of a range and what follows it. -/
def rangeOperator (g : Readers) (braces : Bool) (ts : Tokens) : Option (Form × Tokens) := do
  let closed := peekPunct "..=" ts || peekPunct "..." ts
  let ts := ts.drop (if closed then 3 else 2)
  if !closed && endsOpenRange braces ts then return (.range, ts)
  else return (.range, (← rightOperand g braces 2 ts).2)

/-- Whether a call, field, index or question mark stands here, which a cast cannot take. -/
def peekTrailer (ts : Tokens) : Bool :=
  (peekPunct "." ts && !peekPunct ".." ts) || peekPunct "?" ts || peekOpening .bracket ts ||
    peekOpening .parenthesis ts

/-- The operators behind an operand. -/
def operatorsRule (g : Readers) (braces : Bool) (level : Nat) (left : Form) (ts : Tokens) :
    Option (Form × Tokens) :=
  if left = .range then some (left, ts)
  else
    match binaryOperator? ts with
    | some (operator, l) =>
      if l < level then some (left, ts)
      else if l = comparisonLevel && left = .comparison then none
      else do
        let (_, ts) ← rightOperand g braces l (ts.drop operator.toList.length)
        g (.operators braces level (if l = comparisonLevel then .comparison else .expression)) ts
    | none =>
      if level ≤ 1 && peekAssignment ts then do
        let (_, ts) ← rightOperand g braces 1 (ts.drop 1)
        g (.operators braces level .expression) ts
      else if level ≤ 2 && peekPunct ".." ts then do
        let (form, ts) ← rangeOperator g braces ts
        g (.operators braces level form) ts
      else if level ≤ 13 && peekWord "as" ts then do
        let ts ← g.skip (.type false) (ts.drop 1)
        if peekTrailer ts then none else g (.operators braces level .expression) ts
      else some (left, ts)

/-- An expression. -/
def expressionRule (g : Readers) (braces : Bool) (ts : Tokens) : Option (Form × Tokens) := do
  let (form, ts) ← g (.operand braces) ts
  g (.operators braces 0 form) ts

/-! ### Atoms -/

/-- Expressions between delimiters, with commas between them. -/
def expressionList (g : Readers) (d : Delimiter) (ts : Tokens) : Option Tokens :=
  (between d (commaList (g (.expression true))) ts).map Prod.snd

/-- A label in front of a loop or block. -/
def skipLabel (ts : Tokens) : Option Tokens :=
  optionally (peekLifetime ts) (fun ts => eatPunct ":" (ts.drop 1)) ts

/-- A block with attributes of its own. -/
def attributedBlock (g : Readers) (ts : Tokens) : Option Tokens :=
  (between .brace
    (fun ts => do
      let ts ← skipInnerAttributes g ts
      g .statements ts) ts).map Prod.snd

/-- A condition, a block, and the alternatives. -/
def conditional (g : Readers) (ts : Tokens) : Option Tokens := do
  let branch := fun ts => do
    let ts ← g.skip (.expression false) (← eatWord "if" ts)
    g.skip .block ts
  let ts ← branch ts
  let (_, ts) ← many (fun ts => peekWord "else" ts && peekWord "if" (next ts))
    (fun ts => (branch (ts.drop 1)).map fun ts => ((), ts)) ts
  optionally (peekWord "else" ts) (fun ts => g.skip .block (ts.drop 1)) ts

/-- Whether the body of an arm needs no comma behind it. -/
def Form.endsItself : Form → Bool
  | .block => true
  | _ => false

/-- An arm of a match. -/
def arm (g : Readers) (ts : Tokens) : Option (Unit × Tokens) := do
  let ts ← skipAttributes g ts
  let ts ← g.skip .patterns ts
  let ts ← optionally (peekWord "if" ts) (fun ts => g.skip (.expression true) (ts.drop 1)) ts
  let ts ← eatPunct "=>" ts
  let (form, ts) ← g .statement ts
  if form.endsItself || atEnd ts then return ((), skipPunct "," ts)
  else return ((), ← eatPunct "," ts)

def matchExpression (g : Readers) (ts : Tokens) : Option Tokens := do
  let ts ← g.skip (.expression false) (← eatWord "match" ts)
  let (_, ts) ← between .brace
    (fun ts => do
      let ts ← skipInnerAttributes g ts
      many (fun ts => !atEnd ts) (arm g) ts) ts
  return ts

def forLoop (g : Readers) (ts : Tokens) : Option Tokens := do
  let ts ← g.skip .patterns (← eatWord "for" ts)
  let ts ← eatWord "in" ts
  let ts ← g.skip (.expression false) ts
  attributedBlock g ts

def whileLoop (g : Readers) (ts : Tokens) : Option Tokens := do
  let ts ← g.skip (.expression false) (← eatWord "while" ts)
  attributedBlock g ts

/-- A parameter of a closure. -/
def closureParameter (g : Readers) (ts : Tokens) : Option Tokens := do
  let ts ← skipAttributes g ts
  let ts ← g.skip .pattern ts
  optionally (peekPunct ":" ts) (fun ts => g.skip (.type true) (ts.drop 1)) ts

def closure (g : Readers) (braces : Bool) (ts : Tokens) : Option Tokens := do
  let ts ← optionally (peekWord "for" ts) (boundLifetimes g) ts
  let ts := skipWord "move" (skipWord "async" (skipWord "static" (skipWord "const" ts)))
  let ts ← eatPunct "|" ts
  let (_, ts) ← many (fun ts => !peekPunct "|" ts)
    (fun ts => do
      let ts ← closureParameter g ts
      if peekPunct "|" ts then return ((), ts) else return ((), ← eatPunct "," ts)) ts
  let ts ← eatPunct "|" ts
  if peekPunct "->" ts then
    let (_, ts) ← returnType g true ts
    g.skip .block ts
  else g.skip (.expression braces) ts

/-- A field of a record expression. -/
def fieldValue (g : Readers) (ts : Tokens) : Option (Unit × Tokens) :=
  if peekPunct ".." ts then do
    let ts := ts.drop 2
    if atEnd ts then return ((), ts)
    else
      let ts ← g.skip (.expression true) ts
      if atEnd ts then return ((), ts) else none
  else do
    let ts ← skipAttributes g ts
    match ts with
    | .literal .integer _ :: rest => return ((), ← g.skip (.expression true) (← eatPunct ":" rest))
    | _ =>
      let (_, ts) ← eatIdentifier ts
      if peekPunct ":" ts then return ((), ← g.skip (.expression true) (ts.drop 1))
      else return ((), ts)

/-- A path, a macro call, or a record. -/
def pathExpression (g : Readers) (braces : Bool) (ts : Tokens) : Option (Form × Tokens) := do
  let (shape, ts) ← path g true ts
  if !shape.qualified && !shape.applied && peekPunct "!" ts && !peekPunct "!=" ts then
    let form := if peekOpening .brace (ts.drop 1) then Form.bracedCall else .call
    return (form, ← eatGroup (ts.drop 1))
  else if braces && peekOpening .brace ts then
    let (_, ts) ← between .brace (commaList (fieldValue g)) ts
    return (.expression, ts)
  else return (.expression, ts)

/-- An array by its elements, or by one element and its length. -/
def arrayExpression (g : Readers) (ts : Tokens) : Option Tokens :=
  (between .bracket
    (fun ts =>
      if atEnd ts then some ((), ts)
      else do
        let ts ← g.skip (.expression true) ts
        if peekPunct ";" ts then return ((), ← g.skip (.expression true) (ts.drop 1))
        else if atEnd ts then return ((), ts)
        else
          let (_, ts) ← commaList (g (.expression true)) (← eatPunct "," ts)
          return ((), ts)) ts).map Prod.snd

/-- Whether an expression can start here. -/
def startsExpression (ts : Tokens) : Bool :=
  (match ts with
    | .word _ :: _ | .opening _ :: _ | .literal .. :: _ | .lifetime _ :: _ | .doc .. :: _ => true
    | _ => false) ||
    (peekPunct "!" ts && !peekPunct "!=" ts) ||
    (peekPunct "-" ts && !peekPunct "-=" ts && !peekPunct "->" ts) ||
    (peekPunct "*" ts && !peekPunct "*=" ts) || (peekPunct "|" ts && !peekPunct "|=" ts) ||
    (peekPunct "&" ts && !peekPunct "&=" ts) || peekPunct ".." ts ||
    (peekPunct "<" ts && !peekPunct "<=" ts && !peekPunct "<<=" ts) || peekPunct "::" ts ||
    peekPunct "#" ts

/-- The value that a jump takes with it, if there is one. -/
def jumpValue (g : Readers) (braces : Bool) (ts : Tokens) : Option Tokens :=
  optionally (startsExpression ts && (braces || !peekOpening .brace ts))
    (g.skip (.expression braces)) ts

/-- A binding inside a condition. -/
def letCondition (g : Readers) (braces : Bool) (ts : Tokens) : Option Tokens := do
  let ts ← g.skip .patterns (ts.drop 1)
  let ts ← eatPunct "=" ts
  let (form, ts) ← g (.operand braces) ts
  g.skip (.operators braces comparisonLevel form) ts

/-- A loop or block behind a label. -/
def labelled (g : Readers) (ts : Tokens) : Option Tokens := do
  let ts ← skipLabel ts
  if peekWord "while" ts then whileLoop g ts
  else if peekWord "for" ts then forLoop g ts
  else if peekWord "loop" ts then attributedBlock g (ts.drop 1)
  else attributedBlock g ts

/-- Whether a closure starts here. -/
def startsClosure (ts : Tokens) : Bool :=
  let second := next ts
  peekPunct "|" ts || peekWord "move" ts ||
    (peekWord "for" ts && peekPunct "<" second &&
      (peekLifetime (next second) || peekPunct ">" (next second))) ||
    (peekWord "const" ts && !peekOpening .brace second) || peekWord "static" ts ||
    (peekWord "async" ts && (peekPunct "|" second || peekWord "move" second))

/-- Whether a block with a keyword in front starts here. -/
def startsKeywordBlock (ts : Tokens) : Bool :=
  let second := next ts
  (peekWord "async" ts && (peekOpening .brace second ||
      (peekWord "move" second && peekOpening .brace (next second)))) ||
    (peekWord "try" ts && peekOpening .brace second)

/-- An expression without operators and trailers. -/
def atom (g : Readers) (braces : Bool) (ts : Tokens) : Option (Form × Tokens) :=
  let asExpression := fun (r : Option Tokens) => r.map fun ts => (Form.expression, ts)
  let asBlock := fun (r : Option Tokens) => r.map fun ts => (Form.block, ts)
  if peekLiteral ts && !peekPunct "-" ts then asExpression (eatLiteral ts)
  else if startsKeywordBlock ts then
    (g.skip .block (skipWord "move" (ts.drop 1))).map fun ts =>
      (Form.expression, ts)
  else if startsClosure ts then asExpression (closure g braces ts)
  else if peekIdentifier ts || peekPunct "::" ts || peekPunct "<" ts || peekPathKeyword ts ||
      (peekWord "try" ts && (peekPunct "!" (next ts) || peekPunct "::" (next ts))) then
    pathExpression g braces ts
  else if peekOpening .parenthesis ts then asExpression (expressionList g .parenthesis ts)
  else if peekWord "break" ts then
    let ts := ts.drop 1
    if peekLifetime ts && peekPunct ":" (next ts) then none
    else asExpression (jumpValue g braces (skipLifetime ts))
  else if peekWord "continue" ts then some (.expression, skipLifetime (ts.drop 1))
  else if peekWord "return" ts || peekWord "yield" ts then
    asExpression (jumpValue g braces (ts.drop 1))
  else if peekWord "become" ts then asExpression (g.skip (.expression braces) (ts.drop 1))
  else if peekOpening .bracket ts then asExpression (arrayExpression g ts)
  else if peekWord "let" ts then asExpression (letCondition g braces ts)
  else if peekWord "if" ts then asBlock (conditional g ts)
  else if peekWord "while" ts then asBlock (whileLoop g ts)
  else if peekWord "for" ts then asBlock (forLoop g ts)
  else if peekWord "loop" ts then asBlock (attributedBlock g (ts.drop 1))
  else if peekWord "match" ts then asBlock (matchExpression g ts)
  else if peekWord "unsafe" ts then asBlock (attributedBlock g (ts.drop 1))
  else if peekWord "const" ts then asBlock (g.skip .block (ts.drop 1))
  else if peekOpening .brace ts then asBlock (attributedBlock g ts)
  else if peekPunct ".." ts then rangeOperator g braces ts
  else if peekWord "_" ts then some (.expression, ts.drop 1)
  else if peekLifetime ts then asBlock (labelled g ts)
  else none

/-! ### Trailers -/

/-- The name or number of a field, or a method call, behind a point. -/
def memberTrailer (g : Readers) (ts : Tokens) : Option Tokens :=
  match ts with
  | .literal .integer _ :: rest => some rest
  | .literal .float _ :: rest => some rest
  | _ =>
    if peekWord "await" ts then some (ts.drop 1)
    else do
      let (_, ts) ← eatIdentifier ts
      if peekPunct "::" ts then
        let ts ← g.skip .arguments (ts.drop 2)
        expressionList g .parenthesis ts
      else optionally (peekOpening .parenthesis ts) (expressionList g .parenthesis) ts

/-- Calls, fields, indices and question marks. -/
def trailersRule (g : Readers) (left : Form) (ts : Tokens) : Option (Form × Tokens) :=
  if peekOpening .parenthesis ts then do
    g (.trailers .expression) (← expressionList g .parenthesis ts)
  else if peekPunct "." ts && !peekPunct ".." ts && left ≠ .range then do
    g (.trailers .expression) (← memberTrailer g (ts.drop 1))
  else if peekOpening .bracket ts then do
    let (_, ts) ← between .bracket (g (.expression true)) ts
    g (.trailers .expression) ts
  else if peekPunct "?" ts && left ≠ .range then g (.trailers .expression) (ts.drop 1)
  else some (left, ts)

/-- An operand with its prefix operators. -/
def operandRule (g : Readers) (braces : Bool) (ts : Tokens) : Option (Form × Tokens) := do
  let ts ← skipAttributes g ts
  if peekPunct "&" ts then
    let ts := ts.drop 1
    let raw := peekWord "raw" ts && (peekWord "mut" (next ts) || peekWord "const" (next ts))
    let ts := if raw then ts.drop 2 else skipWord "mut" ts
    return (.expression, ← g.skip (.operand braces) ts)
  else if peekPunct "*" ts || peekPunct "!" ts || peekPunct "-" ts then
    return (.expression, ← g.skip (.operand braces) (ts.drop 1))
  else
    let (form, ts) ← atom g braces ts
    g (.trailers form) ts

/-! ### Statements -/

/-- Whether an expression that may end a statement by itself starts here. -/
def startsBlockLike (ts : Tokens) : Bool :=
  let second := next ts
  peekWord "if" ts || peekWord "while" ts ||
    (peekWord "for" ts && !(peekPunct "<" second &&
      (peekLifetime (next second) || peekPunct ">" (next second)))) ||
    peekWord "loop" ts || peekWord "match" ts || (peekWord "try" ts && peekOpening .brace second) ||
    peekWord "unsafe" ts || (peekWord "const" ts && peekOpening .brace second) ||
    peekOpening .brace ts || peekLifetime ts

/-- An expression where a statement may end: behind a block only a point or a question mark
continues it. -/
def statementRule (g : Readers) (ts : Tokens) : Option (Form × Tokens) := do
  let ts ← skipAttributes g ts
  if startsBlockLike ts then
    let (_, ts) ← atom g true ts
    if (peekPunct "." ts && !peekPunct ".." ts) || peekPunct "?" ts then
      let (form, ts) ← g (.trailers .block) ts
      g (.operators true 0 form) ts
    else return (.block, ts)
  else
    let (form, ts) ← g (.operand true) ts
    g (.operators true 0 form) ts

/-- Whether a statement with an item starts here. -/
def startsItem (ts : Tokens) : Bool :=
  let second := next ts
  let third := next second
  peekWord "pub" ts || (peekWord "crate" ts && !peekPunct "::" second) || peekWord "extern" ts ||
    peekWord "use" ts ||
    (peekWord "static" ts && (peekWord "mut" second || peekIdentifier second)) ||
    (peekWord "const" ts && !(peekOpening .brace second || peekWord "static" second ||
      (peekWord "async" second &&
        !(peekWord "unsafe" third || peekWord "extern" third || peekWord "fn" third)) ||
      peekWord "move" second || peekPunct "|" second)) ||
    (peekWord "unsafe" ts && !peekOpening .brace second) ||
    (peekWord "async" ts &&
      (peekWord "unsafe" second || peekWord "extern" second || peekWord "fn" second)) ||
    peekWord "fn" ts || peekWord "mod" ts || peekWord "type" ts || peekWord "struct" ts ||
    peekWord "enum" ts || (peekWord "union" ts && peekIdentifier second) ||
    (peekWord "auto" ts && peekWord "trait" second) || peekWord "trait" ts ||
    (peekWord "default" ts && (peekWord "unsafe" second || peekWord "impl" second)) ||
    peekWord "impl" ts || peekWord "macro" ts

/-- A binding statement. -/
def letStatement (g : Readers) (ts : Tokens) : Option Tokens := do
  let ts ← g.skip .pattern (ts.drop 1)
  let ts ← optionally (peekPunct ":" ts) (fun ts => g.skip (.type true) (ts.drop 1)) ts
  let ts ← optionally (peekPunct "=" ts)
    (fun ts => do
      let ts ← g.skip (.expression true) (ts.drop 1)
      optionally (peekWord "else" ts) (fun ts => g.skip .block (ts.drop 1)) ts) ts
  eatPunct ";" ts

/-- Whether a form may stand at the end of a statement without a semicolon. -/
def Form.needsNoSemicolon : Form → Bool
  | .block | .bracedCall => true
  | _ => false

/-- How a macro call starts a statement. -/
inductive CallStart where
  | none
  /-- A macro that is given a name defines an item. -/
  | item
  /-- A call with braces that ends the statement; what stands behind its exclamation mark. -/
  | braced (group : Tokens)

def callStart (ts : Tokens) : CallStart :=
  match modulePath ts with
  | some rest =>
    if peekPunct "!" rest then
      let behindMark := next rest
      let third := next behindMark
      if peekIdentifier behindMark || peekWord "try" behindMark then .item
      else if peekOpening .brace behindMark &&
          !((peekPunct "." third && !peekPunct ".." third) || peekPunct "?" third) then
        .braced behindMark
      else .none
    else .none
  | none => .none

/-- One statement. A semicolon may be missing at the end of the block only, unless the statement
ends by itself. -/
def statementItem (g : Readers) (ts : Tokens) : Option (Unit × Tokens) := do
  let behindAttributes ← skipAttributes g ts
  match callStart behindAttributes with
  | .braced group => return ((), skipPunct ";" (← eatGroup group))
  | start =>
    let isItem := match start with
      | .item => true
      | _ => false
    if peekWord "let" behindAttributes then return ((), ← letStatement g behindAttributes)
    else if startsItem behindAttributes || isItem then return ((), ← g.skip .item ts)
    else
      let (form, ts) ← g .statement behindAttributes
      if peekPunct ";" ts then return ((), ts.drop 1)
      else if atEnd ts || form.needsNoSemicolon then return ((), ts)
      else none

/-- The statements up to the end of a block. -/
def statementsRule (g : Readers) (ts : Tokens) : Option (Form × Tokens) :=
  (many (fun ts => !atEnd ts)
    (fun ts => if peekPunct ";" ts then some ((), ts.drop 1) else statementItem g ts) ts).map
    fun (_, ts) => (.other, ts)

/-- A block with its braces. -/
def blockRule (g : Readers) (ts : Tokens) : Option (Form × Tokens) :=
  between .brace (g .statements) ts

end Companion.Source
