import Companion.Source.Grammar.Basic

/-! Attributes, paths, types and generic parameters. -/
namespace Companion.Source

/-! ### Attributes -/

/-- What stands between the brackets of an attribute; the text of `doc = "..."` is kept. -/
def attributeBody (g : Readers) (ts : Tokens) : Option (Option String × Tokens) := do
  let isDoc := peekWord "doc" ts
  let path ← if peekWord "unsafe" ts then some (ts.drop 1) else modulePath ts
  match path with
  | .opening _ :: _ => return (none, ← eatGroup path)
  | _ =>
    if peekPunct "=" path then
      match path.drop 1 with
      | .literal (.string value) _ :: rest =>
        if atEnd rest then
          return (if isDoc && path.length + 1 = ts.length then some value else none, rest)
        else return (none, ← g.skip (.expression true) (path.drop 1))
      | ts =>
        if peekPunct "#" ts && peekOpening .bracket (next ts) then none
        else return (none, ← g.skip (.expression true) ts)
    else return (none, path)

/-- Whether an attribute or doc comment starts here. -/
def peekAttribute : Tokens → Bool
  | .punct '#' _ :: _ => true
  | .doc .. :: _ => true
  | _ => false

/-- An attribute in front of what it belongs to. -/
def outerAttribute (g : Readers) : Tokens → Option (Option String × Tokens)
  | .doc false text :: rest => some (some text, rest)
  | .punct '#' _ :: rest => between .bracket (attributeBody g) rest
  | _ => none

/-- Attributes in front of what they belong to, with their doc texts. -/
def outerAttributes (g : Readers) (ts : Tokens) : Option (List String × Tokens) :=
  (many peekAttribute (outerAttribute g) ts).map fun (texts, ts) => (texts.filterMap id, ts)

def skipAttributes (g : Readers) (ts : Tokens) : Option Tokens :=
  (outerAttributes g ts).map Prod.snd

/-- Whether an attribute of the enclosing part starts here. -/
def peekInnerAttribute : Tokens → Bool
  | .punct '#' _ :: .punct '!' _ :: _ => true
  | .doc true _ :: _ => true
  | _ => false

def innerAttribute (g : Readers) : Tokens → Option (Option String × Tokens)
  | .doc true _ :: rest => some (none, rest)
  | .punct '#' _ :: .punct '!' _ :: rest => between .bracket (attributeBody g) rest
  | _ => none

/-- Attributes of the enclosing part. -/
def skipInnerAttributes (g : Readers) (ts : Tokens) : Option Tokens :=
  (many peekInnerAttribute (innerAttribute g) ts).map Prod.snd

/-! ### Paths -/

/-- A path that has been read. -/
structure PathShape where
  /-- It starts with a type between angle brackets, or with a double colon. -/
  rooted : Bool
  qualified : Bool
  /-- Its names. -/
  names : List String
  /-- Some name has arguments. -/
  applied : Bool
  /-- The last name has arguments. -/
  lastApplied : Bool

def PathShape.form (p : PathShape) : Form :=
  if p.rooted || p.qualified then if p.applied || p.qualified then .path else .module
  else
    match p.names with
    | [name] => if p.applied then .applied else .name name
    | _ => if p.applied then .path else .module

/-- A name with its arguments. In an expression arguments need a double colon in front. -/
def pathSegment (g : Readers) (inExpression : Bool) (ts : Tokens) :
    Option ((String × Bool) × Tokens) :=
  if peekWord "super" ts || peekWord "self" ts || peekWord "crate" ts || peekWord "try" ts then
    (eatAnyWord ts).map fun (w, ts) => ((w, false), ts)
  else do
    let (w, ts) ← if peekWord "Self" ts then eatAnyWord ts else eatIdentifier ts
    if !inExpression && peekPunct "<" ts && !peekPunct "<=" ts then
      return ((w, true), ← g.skip .arguments ts)
    else if peekPunct "::" ts && peekPunct "<" (next (next ts)) then
      return ((w, true), ← g.skip .arguments (ts.drop 2))
    else return ((w, false), ts)

/-- Names behind a first one. A double colon before a parenthesis is left alone. -/
def pathRest (g : Readers) (inExpression : Bool) (ts : Tokens) :
    Option (List (String × Bool) × Tokens) :=
  many (fun ts => peekPunct "::" ts && !peekOpening .parenthesis (next (next ts)))
    (fun ts => do pathSegment g inExpression (← eatPunct "::" ts)) ts

/-- A path, possibly inside a type. -/
def path (g : Readers) (inExpression : Bool) (ts : Tokens) : Option (PathShape × Tokens) :=
  if peekPunct "<" ts then do
    let ts ← g.skip (.type true) (ts.drop 1)
    let ts ← optionally (peekWord "as" ts)
      (fun ts => do
        let ts := skipPunct "::" (ts.drop 1)
        let (_, ts) ← pathSegment g false ts
        let (_, ts) ← pathRest g false ts
        return ts) ts
    let ts ← eatPunct ">" ts
    let ts ← eatPunct "::" ts
    let (first, ts) ← pathSegment g inExpression ts
    let (others, ts) ← many (peekPunct "::")
      (fun ts => do pathSegment g inExpression (← eatPunct "::" ts)) ts
    let segments := first :: others
    return (⟨true, true, segments.map Prod.fst, segments.any Prod.snd,
      (segments.getLast?.map Prod.snd).getD false⟩, ts)
  else do
    let rooted := peekPunct "::" ts
    let (first, ts) ← pathSegment g inExpression (skipPunct "::" ts)
    let (others, ts) ← pathRest g inExpression ts
    let segments := first :: others
    return (⟨rooted, false, segments.map Prod.fst, segments.any Prod.snd,
      (segments.getLast?.map Prod.snd).getD false⟩, ts)

/-- The type behind an arrow, if there is one. -/
def returnType (g : Readers) (plus : Bool) (ts : Tokens) : Option (Form × Tokens) :=
  if peekPunct "->" ts then g (.type plus) (ts.drop 2) else some (.parenthesized, ts)

/-- Types between parentheses behind a name, with the type they give. More names may follow unless
that type would take them. -/
def parenthesizedArguments (g : Readers) (ts : Tokens) : Option (Bool × Tokens) := do
  let ts := skipPunct "::" ts
  let (_, ts) ← between .parenthesis (commaList (g (.type true))) ts
  let (form, ts) ← returnType g false ts
  return (form = .parenthesized, ts)

/-- A path as a type, where arguments may also stand between parentheses. -/
def typePath (g : Readers) (ts : Tokens) : Option (PathShape × Tokens) := do
  let peekArguments := fun ts =>
    peekOpening .parenthesis ts || (peekPunct "::" ts && peekOpening .parenthesis (next (next ts)))
  let (shape, ts) ← path g false ts
  if shape.lastApplied || !peekArguments ts then return (shape, ts)
  else
    let (more, ts) ← parenthesizedArguments g ts
    let shape := { shape with applied := true, lastApplied := true, rooted := true }
    if more then
      let (_, ts) ← pathRest g false ts
      return (shape, ts)
    else return (shape, ts)

/-! ### Arguments and parameters -/

/-- A constant where a type argument may stand. -/
def constantArgument (g : Readers) (ts : Tokens) : Option Tokens :=
  if peekLiteral ts then eatLiteral ts else g.skip .block ts

/-- Bounds with plus signs between them, up to a token that ends them. -/
def bounds (g : Readers) (ended : Tokens → Bool) (ts : Tokens) : Option Tokens :=
  (many (fun ts => !ended ts)
    (fun ts => do
      let ts ← g.skip .bound ts
      if peekPunct "+" ts then return ((), ts.drop 1)
      else if ended ts then return ((), ts) else none) ts).map Prod.snd

/-- Lifetimes with plus signs between them. -/
def lifetimeBounds (ended : Tokens → Bool) (ts : Tokens) : Option Tokens :=
  (many (fun ts => !ended ts)
    (fun ts => do
      let ts ← eatLifetime ts
      if peekPunct "+" ts then return ((), ts.drop 1)
      else if ended ts then return ((), ts) else none) ts).map Prod.snd

/-- One argument between angle brackets. -/
def genericArgument (g : Readers) (ts : Tokens) : Option Tokens :=
  if peekLifetime ts && !peekPunct "+" (next ts) then eatLifetime ts
  else if peekLiteral ts || peekOpening .brace ts then constantArgument g ts
  else
    match g (.type true) ts with
    | none => none
    | some (form, ts) =>
      let simple := match form with
        | .name _ | .applied => true
        | _ => false
      if simple && peekPunct "=" ts then
        let ts := ts.drop 1
        if peekLiteral ts || peekOpening .brace ts then constantArgument g ts
        else g.skip (.type true) ts
      else if simple && peekPunct ":" ts then
        bounds g (fun ts => peekPunct "," ts || peekPunct ">" ts) (ts.drop 1)
      else some ts

/-- Parts with commas between them up to a closing angle bracket, which is taken too. -/
def angleList (read : Tokens → Option Tokens) (ts : Tokens) : Option Tokens := do
  let (_, ts) ← many (fun ts => !peekPunct ">" ts)
    (fun ts => do
      let ts ← read ts
      if peekPunct ">" ts then return ((), ts) else return ((), ← eatPunct "," ts)) ts
  eatPunct ">" ts

def genericArguments (g : Readers) (ts : Tokens) : Option (Form × Tokens) := do
  let ts ← eatPunct "<" ts
  return (.other, ← angleList (genericArgument g) ts)

/-- A lifetime parameter with its bounds. -/
def lifetimeParameter (ts : Tokens) : Option Tokens := do
  let ts ← eatLifetime ts
  optionally (peekPunct ":" ts)
    (fun ts => lifetimeBounds (fun ts => peekPunct "," ts || peekPunct ">" ts) (ts.drop 1)) ts

/-- One parameter between angle brackets. -/
def genericParameter (g : Readers) (ts : Tokens) : Option Tokens := do
  let ts ← skipAttributes g ts
  if peekLifetime ts then lifetimeParameter ts
  else if peekIdentifier ts then
    let ts := ts.drop 1
    let ts ← optionally (peekPunct ":" ts)
      (fun ts => bounds g (fun ts => peekPunct "," ts || peekPunct ">" ts || peekPunct "=" ts)
        (ts.drop 1)) ts
    optionally (peekPunct "=" ts) (fun ts => g.skip (.type true) (ts.drop 1)) ts
  else if peekWord "const" ts then
    let (_, ts) ← eatIdentifier (ts.drop 1)
    let ts ← eatPunct ":" ts
    let ts ← g.skip (.type true) ts
    optionally (peekPunct "=" ts) (fun ts => constantArgument g (ts.drop 1)) ts
  else eatWord "_" ts

/-- Parameters between angle brackets, if there are any. The form tells an empty list by `other`. -/
def generics (g : Readers) (ts : Tokens) : Option (Form × Tokens) :=
  if peekPunct "<" ts then do
    let form := if peekPunct ">" (ts.drop 1) then Form.other else .applied
    return (form, ← angleList (genericParameter g) (ts.drop 1))
  else some (.other, ts)

/-- Lifetimes that a type or bound is about, behind `for`. -/
def boundLifetimes (g : Readers) (ts : Tokens) : Option Tokens := do
  let ts ← eatWord "for" ts
  let ts ← eatPunct "<" ts
  angleList (fun ts => do lifetimeParameter (← skipAttributes g ts)) ts

/-- What ends the bounds and conditions behind `where`. -/
def endsCondition (ts : Tokens) : Bool :=
  atEnd ts || peekOpening .brace ts || peekPunct "," ts || peekPunct ";" ts ||
    (peekPunct ":" ts && !peekPunct "::" ts) || peekPunct "=" ts

/-- One condition behind `where`. -/
def whereCondition (g : Readers) (ts : Tokens) : Option Tokens :=
  if peekLifetime ts && peekPunct ":" (next ts) then lifetimeBounds endsCondition (ts.drop 2)
  else do
    let ts ← optionally (peekWord "for" ts) (boundLifetimes g) ts
    let ts ← g.skip (.type true) ts
    let ts ← eatPunct ":" ts
    bounds g endsCondition ts

/-- Conditions on the parameters, if there are any. -/
def whereClause (g : Readers) (ts : Tokens) : Option Tokens :=
  optionally (peekWord "where" ts)
    (fun ts =>
      (many (fun ts => !endsCondition ts)
        (fun ts => do
          let ts ← whereCondition g ts
          if peekPunct "," ts then return ((), ts.drop 1)
          else if endsCondition ts then return ((), ts) else none) (ts.drop 1)).map Prod.snd) ts

/-! ### Bounds -/

/-- A trait as a bound. -/
def traitBound (g : Readers) (ts : Tokens) : Option Tokens := do
  let ts ← optionally (peekWord "for" ts) (boundLifetimes g) ts
  let ts ← optionally (peekPunct "~" ts) (fun ts => eatWord "const" (ts.drop 1)) ts
  let ts := skipWord "const" ts
  let maybe := peekPunct "?" ts
  let ts := skipPunct "?" ts
  let ts ← optionally (maybe && peekWord "for" ts) (boundLifetimes g) ts
  if peekPunct "<" ts then none
  else return (← typePath g ts).2

/-- A lifetime, a trait, or a trait between parentheses. -/
def bound (g : Readers) (ts : Tokens) : Option (Form × Tokens) :=
  if peekLifetime ts then (eatLifetime ts).map fun ts => (.other, ts)
  else if peekWord "use" ts && peekPunct "<" (next ts) then
    (angleList (fun ts => if peekLifetime ts then eatLifetime ts else (eatAnyWord ts).map Prod.snd)
      (ts.drop 2)).map fun ts => (.other, ts)
  else if peekOpening .parenthesis ts then
    between .parenthesis (fun ts => (traitBound g ts).map fun ts => (Form.type, ts)) ts
  else (traitBound g ts).map fun ts => (.type, ts)

/-- Whether a further bound can start here. -/
def startsBound (ts : Tokens) : Bool :=
  peekAnyWord ts || peekPunct "::" ts || peekPunct "?" ts || peekLifetime ts ||
    peekOpening .parenthesis ts || peekPunct "~" ts

/-- The bounds of a type made of traits: plus signs between them, if allowed, and possibly behind
the last. One of them has to be a trait. -/
def traitBounds (g : Readers) (plus : Bool) (ts : Tokens) : Option Tokens := do
  let (first, ts) ← g .bound ts
  let (others, ts) ← many (fun ts => plus && peekPunct "+" ts)
    (fun ts => if startsBound (ts.drop 1) then g .bound (ts.drop 1) else some (.other, ts.drop 1))
      ts
  if (first :: others).contains .type then return ts else none

/-! ### Types -/

/-- A parameter of a function type. -/
def functionTypeParameter (g : Readers) (ts : Tokens) : Option (Form × Tokens) := do
  let ts ← skipAttributes g ts
  if peekPunct "..." ts then
    let ts := ts.drop 3
    if atEnd ts then return (.other, ts) else none
  else if peekWord "mut" ts && peekWord "self" (next ts) then
    let ts := ts.drop 2
    if peekPunct ":" ts && !peekPunct "::" ts then g (.type true) (ts.drop 1)
    else return (.other, ts)
  else
    let named := (peekIdentifier ts || peekWord "_" ts || peekWord "self" ts) &&
      peekPunct ":" (next ts) && !peekPunct "::" (next ts)
    let ts := if named then ts.drop 2 else ts
    if named && peekPunct "..." ts && atEnd (ts.drop 3) then return (.other, ts.drop 3)
    else g (.type true) ts

/-- A function type. -/
def functionType (g : Readers) (ts : Tokens) : Option (Form × Tokens) := do
  let ts := skipWord "unsafe" ts
  let ts ← optionally (peekWord "extern" ts)
    (fun ts => some (if peekString (ts.drop 1) then ts.drop 2 else ts.drop 1)) ts
  let ts ← eatWord "fn" ts
  let (_, ts) ← between .parenthesis (commaList (functionTypeParameter g)) ts
  let (_, ts) ← returnType g false ts
  return (.type, ts)

/-- Bounds that continue a type which may itself be one. -/
def continuedBounds (g : Readers) (ts : Tokens) : Option Tokens :=
  (many (peekPunct "+")
    (fun ts =>
      if startsBound (ts.drop 1) then g .bound (ts.drop 1) else some (.other, ts.drop 1)) ts).map
    Prod.snd

/-- A type that starts with a parenthesis. -/
def parenthesizedType (g : Readers) (plus : Bool) (ts : Tokens) : Option (Form × Tokens) := do
  let inner := ts.drop 1
  if atEnd inner then return (.type, ← eatClosing .parenthesis inner)
  else if peekLifetime inner then
    let inner ← traitBounds g true inner
    return (.parenthesized, ← eatClosing .parenthesis inner)
  else if peekPunct "?" inner then
    let inner ← traitBound g inner
    let ts ← eatClosing .parenthesis inner
    return (.type, ← continuedBounds g ts)
  else
    let (first, inner) ← g (.type true) inner
    if peekPunct "," inner then
      let (_, inner) ← commaList (g (.type true)) (inner.drop 1)
      return (.type, ← eatClosing .parenthesis inner)
    else
      let ts ← eatClosing .parenthesis inner
      let isBound := match first with
        | .name _ | .applied | .module | .path => true
        | _ => false
      if plus && peekPunct "+" ts && isBound then return (.type, ← continuedBounds g ts)
      else return (.parenthesized, ts)

/-- A path as a type, a macro call, or the first of several bounds. -/
def namedType (g : Readers) (plus forall_ : Bool) (ts : Tokens) : Option (Form × Tokens) := do
  let (shape, ts) ← typePath g ts
  if shape.qualified then return (.type, ts)
  else if peekPunct "!" ts && !peekPunct "!=" ts && !shape.applied then
    return (.type, ← eatGroup (ts.drop 1))
  else if plus && peekPunct "+" ts then return (.type, ← continuedBounds g ts)
  else if forall_ then return (.type, ts)
  else return (shape.form, ts)

/-- A type without its leading lifetimes. -/
def typeBody (g : Readers) (plus forall_ : Bool) (ts : Tokens) : Option (Form × Tokens) :=
  if peekOpening .parenthesis ts then parenthesizedType g plus ts
  else if peekWord "fn" ts || peekWord "unsafe" ts || peekWord "extern" ts then functionType g ts
  else if peekIdentifier ts || peekPathKeyword ts || peekPunct "::" ts || peekPunct "<" ts then
    namedType g plus forall_ ts
  else if peekWord "dyn" ts then
    (traitBounds g plus (skipPunct "*" (ts.drop 1))).map fun ts => (.type, ts)
  else if peekOpening .bracket ts then
    between .bracket
      (fun ts => do
        let ts ← g.skip (.type true) ts
        if peekPunct ";" ts then return (.type, ← g.skip (.expression true) (ts.drop 1))
        else return (.type, ts)) ts
  else if peekPunct "*" ts then
    let ts := ts.drop 1
    if peekWord "const" ts || peekWord "mut" ts then
      (g.skip (.type false) (ts.drop 1)).map fun ts => (.type, ts)
    else none
  else if peekPunct "&" ts then
    let ts := skipWord "mut" (skipLifetime (ts.drop 1))
    (g.skip (.type false) ts).map fun ts => (.type, ts)
  else if peekPunct "!" ts && !peekPunct "!=" ts then some (.type, ts.drop 1)
  else if peekWord "impl" ts then
    (traitBounds g plus (ts.drop 1)).map fun ts => (.type, ts)
  else if peekWord "_" ts then some (.type, ts.drop 1)
  else if peekLifetime ts then (traitBounds g true ts).map fun ts => (.type, ts)
  else none

/-- A type. Leading lifetimes need a function or a trait behind them. -/
def typeRule (g : Readers) (plus : Bool) (ts : Tokens) : Option (Form × Tokens) :=
  if peekWord "for" ts then do
    let ts ← boundLifetimes g ts
    if peekIdentifier ts || peekWord "fn" ts || peekWord "unsafe" ts || peekWord "extern" ts ||
        peekPathKeyword ts then
      typeBody g plus true ts
    else none
  else typeBody g plus false ts

end Companion.Source
