import Companion.Source.Grammar.Types

/-! Patterns. -/
namespace Companion.Source

/-- What ends an open range of patterns. -/
def endsRange (ts : Tokens) : Bool :=
  atEnd ts || peekPunct "|" ts || peekPunct "=" ts || (peekPunct ":" ts && !peekPunct "::" ts) ||
    peekPunct "," ts || peekPunct ";" ts || peekWord "if" ts

/-- An end of a range, if it has one; the flag tells whether it has. -/
def rangeBound (g : Readers) (ts : Tokens) : Option (Bool × Tokens) :=
  if endsRange ts then some (false, ts)
  else if peekLiteral ts then (eatLiteral ts).map fun ts => (true, ts)
  else if peekIdentifier ts || peekPunct "::" ts || peekPunct "<" ts || peekPathKeyword ts then
    (path g true ts).map fun (_, ts) => (true, ts)
  else if peekWord "const" ts then (g.skip .block (ts.drop 1)).map fun ts => (true, ts)
  else none

/-- The operator of a range and its upper end. A closed range needs one; the flag tells whether
there is one. -/
def rangeEnd (g : Readers) (ts : Tokens) : Option (Bool × Tokens) := do
  let closed := peekPunct "..=" ts || peekPunct "..." ts
  let (bounded, ts) ← rangeBound g (ts.drop (if closed then 3 else 2))
  if closed && !bounded then none else return (bounded, ts)

/-- Patterns up to the end of the delimiters. -/
def patternList (g : Readers) (ts : Tokens) : Option (List Form × Tokens) :=
  commaList (g .patterns) ts

/-- A field of a record pattern. -/
def fieldPattern (g : Readers) (ts : Tokens) : Option (Form × Tokens) := do
  let ts ← skipAttributes g ts
  if peekPunct ".." ts then
    let ts := ts.drop 2
    if atEnd ts then return (.rest, ts) else none
  else
    let marked := peekWord "box" ts || peekWord "ref" ts || peekWord "mut" ts
    let ts := skipWord "mut" (skipWord "ref" (skipWord "box" ts))
    match ts with
    | .literal .integer _ :: rest =>
      if marked then none else g .patterns (← eatPunct ":" rest)
    | _ =>
      let (_, ts) ← eatIdentifier ts
      if !marked && peekPunct ":" ts then g .patterns (ts.drop 1) else return (.pattern, ts)

/-- A pattern that starts with a path. -/
def pathPattern (g : Readers) (ts : Tokens) : Option (Form × Tokens) := do
  let (shape, ts) ← path g true ts
  if !shape.qualified && !shape.applied && peekPunct "!" ts && !peekPunct "!=" ts then
    return (.pattern, ← eatGroup (ts.drop 1))
  else if peekOpening .brace ts then
    let (_, ts) ← between .brace (commaList (fieldPattern g)) ts
    return (.pattern, ts)
  else if peekOpening .parenthesis ts then
    let (_, ts) ← between .parenthesis (patternList g) ts
    return (.pattern, ts)
  else if peekPunct ".." ts then return (.pattern, (← rangeEnd g ts).2)
  else return (.pattern, ts)

/-- A name to bind, possibly with a pattern for what it is bound to. -/
def bindingPattern (g : Readers) (ts : Tokens) : Option (Form × Tokens) := do
  let ts := skipWord "mut" (skipWord "ref" ts)
  let (_, ts) ← if peekWord "self" ts then eatAnyWord ts else eatIdentifier ts
  if peekPunct "@" ts then g .pattern (ts.drop 1) else return (.pattern, ts)

/-- A literal, a constant block, or a range that starts with one. -/
def literalPattern (g : Readers) (ts : Tokens) : Option (Form × Tokens) := do
  let (bounded, ts) ← rangeBound g ts
  if !bounded then none
  else if peekPunct ".." ts then return (.pattern, (← rangeEnd g ts).2)
  else return (.pattern, ts)

/-- One pattern. -/
def patternRule (g : Readers) (ts : Tokens) : Option (Form × Tokens) :=
  let behindName := next ts
  if (peekIdentifier ts && (peekPunct "::" behindName || peekPunct "!" behindName ||
        peekOpening .brace behindName || peekOpening .parenthesis behindName ||
        peekPunct ".." behindName)) ||
      (peekWord "self" ts && peekPunct "::" behindName) || peekPunct "::" ts || peekPunct "<" ts ||
      peekWord "Self" ts || peekWord "super" ts || peekWord "crate" ts then pathPattern g ts
  else if peekWord "_" ts then some (.pattern, ts.drop 1)
  else if peekWord "box" ts then g .pattern (ts.drop 1)
  else if peekPunct "-" ts || peekLiteral ts || peekWord "const" ts then literalPattern g ts
  else if peekWord "ref" ts || peekWord "mut" ts || peekWord "self" ts || peekIdentifier ts then
    bindingPattern g ts
  else if peekPunct "&" ts then g .pattern (skipWord "mut" (ts.drop 1))
  else if peekOpening .parenthesis ts then
    (between .parenthesis (patternList g) ts).map fun (_, ts) => (.pattern, ts)
  else if peekOpening .bracket ts then
    (between .bracket (patternList g) ts).map fun (_, ts) => (.pattern, ts)
  else if peekPunct ".." ts && !peekPunct "..." ts then
    (rangeEnd g ts).map fun (bounded, ts) => (if bounded then .pattern else .rest, ts)
  else none

/-- Whether a bar that divides patterns stands here. -/
def peekBar (ts : Tokens) : Bool := peekPunct "|" ts && !peekPunct "||" ts && !peekPunct "|=" ts

/-- Patterns with bars between them, and possibly in front of the first. -/
def patternsRule (g : Readers) (ts : Tokens) : Option (Form × Tokens) := do
  let (first, ts) ← g .pattern (skipPunct "|" ts)
  let (others, ts) ← many peekBar (fun ts => g .pattern (ts.drop 1)) ts
  return (if others.isEmpty then first else .pattern, ts)

end Companion.Source
