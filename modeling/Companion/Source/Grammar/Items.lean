import Companion.Source.Grammar.Expressions

/-! Items: what a file, a module, a trait or an `impl` block is made of. An item gives the type that
it declares, if it declares one. -/
namespace Companion.Source

def eatPathKeyword (ts : Tokens) : Option Tokens :=
  if peekWord "crate" ts || peekWord "self" ts || peekWord "super" ts then some (ts.drop 1)
  else none

/-- A visibility, if there is one. Parentheses that hold more than a module belong to what
follows. -/
def visibility (ts : Tokens) : Option Tokens :=
  if peekWord "pub" ts then
    let behindPub := ts.drop 1
    if peekOpening .parenthesis behindPub then
      let inner := behindPub.drop 1
      match eatPathKeyword inner with
      | some rest =>
        match eatClosing .parenthesis rest with
        | some rest => some rest
        | none => some behindPub
      | none =>
        if peekWord "in" inner then do eatClosing .parenthesis (← modulePath (inner.drop 1))
        else some behindPub
    else some behindPub
  else some ts

/-- The calling convention in front of a function, if there is one. -/
def skipConvention (ts : Tokens) : Tokens :=
  if peekWord "extern" ts then if peekString (ts.drop 1) then ts.drop 2 else ts.drop 1 else ts

/-- Whether a function starts here. -/
def peekSignature (safe : Bool) (ts : Tokens) : Bool :=
  let ts := skipWord "async" (skipWord "const" ts)
  let ts := if safe then skipWord "safe" ts else ts
  peekWord "fn" (skipConvention (skipWord "unsafe" ts))

/-- The receiver of a method. -/
def receiver (g : Readers) (ts : Tokens) : Option Tokens :=
  if peekPunct "&" ts then eatWord "self" (skipWord "mut" (skipLifetime (ts.drop 1)))
  else do
    let ts ← eatWord "self" (skipWord "mut" ts)
    optionally (peekPunct ":" ts) (fun ts => g.skip (.type true) (ts.drop 1)) ts

/-- What a parameter of a function is. -/
inductive Parameter where
  | receiver | typed | variadic
  deriving DecidableEq, Repr

def parameter (g : Readers) (ts : Tokens) : Option (Parameter × Tokens) := do
  let ts ← skipAttributes g ts
  if peekPunct "..." ts then return (.variadic, ts.drop 3)
  else
    match receiver g ts with
    | some ts => return (.receiver, ts)
    | none =>
      if peekIdentifier ts && peekPunct "<" (next ts) then return (.typed, ← g.skip (.type true) ts)
      else
        let ts ← g.skip .pattern ts
        let ts ← eatPunct ":" ts
        if peekPunct "..." ts then return (.variadic, ts.drop 3)
        else return (.typed, ← g.skip (.type true) ts)

/-- A receiver stands first only, and nothing stands behind the mark of a variable number. -/
def orderly (ps : List Parameter) : Bool :=
  !(ps.tail.contains .receiver) && !(ps.dropLast.contains .variadic)

/-- The head of a function. -/
def signature (g : Readers) (safe : Bool) (ts : Tokens) : Option Tokens := do
  let ts := skipWord "async" (skipWord "const" ts)
  let ts := if safe then skipWord "safe" ts else ts
  let ts := skipConvention (skipWord "unsafe" ts)
  let ts ← eatWord "fn" ts
  let (_, ts) ← eatIdentifier ts
  let ts ← g.skip .generics ts
  let (parameters, ts) ← between .parenthesis (commaList (parameter g)) ts
  if orderly parameters then
    let (_, ts) ← returnType g true ts
    whereClause g ts
  else none

/-- The body of a function, or the semicolon in its place. -/
def functionBody (g : Readers) (ts : Tokens) : Option Tokens :=
  if peekPunct ";" ts then some (ts.drop 1) else attributedBlock g ts

/-! ### Declared types -/

/-- A named field. -/
def namedField (g : Readers) (ts : Tokens) : Option (Unit × Tokens) := do
  let ts ← skipAttributes g ts
  let ts ← visibility ts
  let unnamed := peekWord "_" ts
  let ts ← if unnamed then some (ts.drop 1) else (eatIdentifier ts).map Prod.snd
  let ts ← eatPunct ":" ts
  return ((), ← g.skip (.type true) ts)

def namedFields (g : Readers) (ts : Tokens) : Option Tokens :=
  (between .brace (commaList (namedField g)) ts).map Prod.snd

/-- A field without a name, with the form of its type. -/
def tupleField (g : Readers) (ts : Tokens) : Option (Form × Tokens) := do
  let ts ← skipAttributes g ts
  let ts ← visibility ts
  g (.type true) ts

def tupleFields (g : Readers) (ts : Tokens) : Option (List Form × Tokens) :=
  between .parenthesis (commaList (tupleField g)) ts

/-- The shape of a structure with the given unnamed fields. -/
def tupleShape : List Form → Declaration.Shape
  | [.name inner] => .newtype inner
  | _ => .other

/-- What follows the parameters of a structure. -/
def structureBody (g : Readers) (ts : Tokens) : Option (Declaration.Shape × Tokens) :=
  if peekOpening .parenthesis ts then do
    let (fields, ts) ← tupleFields g ts
    let ts ← whereClause g ts
    return (tupleShape fields, ← eatPunct ";" ts)
  else do
    let ts ← whereClause g ts
    if peekOpening .brace ts then return (.named, ← namedFields g ts)
    else return (.unit, ← eatPunct ";" ts)

/-- A structure. One with parameters has no shape that code is generated for. -/
def structureItem (g : Readers) (doc : Option String) (ts : Tokens) :
    Option (Declaration × Tokens) := do
  let (name, ts) ← eatIdentifier (← eatWord "struct" ts)
  let (parameters, ts) ← g .generics ts
  let (shape, ts) ← structureBody g ts
  return (⟨name, if parameters = .applied then .other else shape, doc⟩, ts)

/-- A variant of an enumeration. -/
def variant (g : Readers) (ts : Tokens) : Option (Unit × Tokens) := do
  let ts ← skipAttributes g ts
  let ts ← visibility ts
  let (_, ts) ← eatIdentifier ts
  let ts ←
    if peekOpening .brace ts then namedFields g ts
    else if peekOpening .parenthesis ts then (tupleFields g ts).map Prod.snd
    else some ts
  return ((), ← optionally (peekPunct "=" ts) (fun ts => g.skip (.expression true) (ts.drop 1)) ts)

def enumerationItem (g : Readers) (doc : Option String) (ts : Tokens) :
    Option (Declaration × Tokens) := do
  let (name, ts) ← eatIdentifier (← eatWord "enum" ts)
  let ts ← g.skip .generics ts
  let ts ← whereClause g ts
  let (_, ts) ← between .brace (commaList (variant g)) ts
  return (⟨name, .other, doc⟩, ts)

def unionItem (g : Readers) (doc : Option String) (ts : Tokens) :
    Option (Declaration × Tokens) := do
  let (name, ts) ← eatIdentifier (← eatWord "union" ts)
  let ts ← g.skip .generics ts
  let ts ← whereClause g ts
  return (⟨name, .other, doc⟩, ← namedFields g ts)

/-! ### Type aliases -/

/-- Bounds in front of the definition of an associated type. -/
def endsAliasBounds (ts : Tokens) : Bool :=
  peekWord "where" ts || peekPunct "=" ts || peekPunct ";" ts

/-- A type alias or an associated type. Conditions stand before the equals sign, or, if `late`,
behind the type. Only an alias with a definition and without bounds declares a type. -/
def aliasItem (g : Readers) (late : Bool) (ts : Tokens) : Option (Option String × Tokens) := do
  let (name, ts) ← eatIdentifier (← eatWord "type" ts)
  let ts ← g.skip .generics ts
  let bounded := peekPunct ":" ts
  let ts ← optionally bounded (fun ts => bounds g endsAliasBounds (ts.drop 1)) ts
  let ts ← if late then some ts else whereClause g ts
  let defined := peekPunct "=" ts
  let ts ← optionally defined (fun ts => g.skip (.type true) (ts.drop 1)) ts
  let ts ← if late then whereClause g ts else some ts
  return (if defined && !bounded then some name else none, ← eatPunct ";" ts)

/-! ### Constants -/

/-- A constant, from its keyword on. -/
def constantItem (g : Readers) (ts : Tokens) : Option Tokens := do
  let ts ← eatWord "const" ts
  let ts ← if peekIdentifier ts || peekWord "_" ts then some (ts.drop 1) else none
  let ts ← g.skip .generics ts
  let ts ← eatPunct ":" ts
  let ts ← g.skip (.type true) ts
  let ts ← optionally (peekPunct "=" ts) (fun ts => g.skip (.expression true) (ts.drop 1)) ts
  let ts ← whereClause g ts
  eatPunct ";" ts

/-- A static variable, from its keyword on. Its type or its value may be missing. -/
def staticItem (g : Readers) (ts : Tokens) : Option Tokens := do
  let ts := skipWord "mut" (← eatWord "static" ts)
  let (_, ts) ← eatIdentifier ts
  let ts ←
    if peekPunct "=" ts then some ts
    else do g.skip (.type true) (← eatPunct ":" ts)
  let ts ← optionally (peekPunct "=" ts) (fun ts => g.skip (.expression true) (ts.drop 1)) ts
  eatPunct ";" ts

/-! ### Macro calls -/

/-- A call behind its exclamation mark; without braces a semicolon has to follow. -/
def callBody (ts : Tokens) : Option Tokens := do
  let braced := peekOpening .brace ts
  let ts ← eatGroup ts
  if braced then return ts else eatPunct ";" ts

/-- A macro call among items. -/
def callItem (named : Bool) (ts : Tokens) : Option Tokens := do
  let ts ← eatPunct "!" (← modulePath ts)
  let ts :=
    if named && (peekIdentifier ts || peekWord "try" ts) then ts.drop 1 else ts
  callBody ts

/-- Whether a macro call starts here. -/
def startsCall (ts : Tokens) : Bool :=
  peekIdentifier ts || peekWord "self" ts || peekWord "super" ts || peekWord "crate" ts ||
    peekPunct "::" ts

/-! ### Parts of traits and `impl` blocks -/

/-- A function, constant, type or macro call of a trait or an `impl` block. `bare` says that neither
a visibility nor `default` stands in front, and only then it may be a macro call. -/
def associatedItem (g : Readers) (bare : Bool) (ts : Tokens) : Option (Unit × Tokens) := do
  if peekSignature false ts then
    let ts ← signature g false ts
    return ((), ← functionBody g ts)
  else if peekWord "const" ts then return ((), ← constantItem g ts)
  else if peekWord "type" ts then return ((), (← aliasItem g true ts).2)
  else if bare && startsCall ts then return ((), ← callItem false ts)
  else none

/-- A part of a trait. -/
def traitPart (g : Readers) (ts : Tokens) : Option (Unit × Tokens) := do
  let ts ← skipAttributes g ts
  let rest := skipWord "default" (← visibility ts)
  associatedItem g (rest.length = ts.length) rest

/-- A part of an `impl` block. The word `default` may also name a macro. -/
def implPart (g : Readers) (ts : Tokens) : Option (Unit × Tokens) := do
  let ts ← skipAttributes g ts
  let rest ← visibility ts
  let rest := if peekPunct "!" (next rest) then rest else skipWord "default" rest
  associatedItem g (rest.length = ts.length) rest

/-- A part of a block of foreign items. -/
def foreignPart (g : Readers) (ts : Tokens) : Option (Unit × Tokens) := do
  let ts ← skipAttributes g ts
  let behind ← visibility ts
  let inherited := behind.length = ts.length
  if peekSignature true behind then
    let ts ← signature g true behind
    return ((), ← functionBody g ts)
  else if peekWord "static" behind ||
      ((peekWord "unsafe" behind || peekWord "safe" behind) && peekWord "static" (next behind)) then
    return ((), ← staticItem g (skipWord "safe" (skipWord "unsafe" behind)))
  else if peekWord "type" behind then return ((), (← aliasItem g false behind).2)
  else if inherited && startsCall behind then return ((), ← callItem false behind)
  else none

/-- Parts between braces, behind attributes of the whole. -/
def partsBlock (g : Readers) (part : Tokens → Option (Unit × Tokens)) (ts : Tokens) :
    Option Tokens :=
  (between .brace
    (fun ts => do many (fun ts => !atEnd ts) part (← skipInnerAttributes g ts)) ts).map Prod.snd

/-! ### Traits and `impl` blocks -/

/-- Bounds up to one of the tokens that may follow them. -/
def superBounds (g : Readers) (ended : Tokens → Bool) (ts : Tokens) : Option Tokens :=
  (many (fun ts => !ended ts)
    (fun ts => do
      let ts ← g.skip .bound ts
      if ended ts then return ((), ts) else return ((), ← eatPunct "+" ts)) ts).map Prod.snd

/-- A trait, from its keyword on; an alias of bounds declares nothing. -/
def traitItem (g : Readers) (withAlias : Bool) (doc : Option String) (ts : Tokens) :
    Option (Option Declaration × Tokens) := do
  let (name, ts) ← eatIdentifier (← eatWord "trait" ts)
  let ts ← g.skip .generics ts
  if withAlias && peekPunct "=" ts then
    let ts ← superBounds g (fun ts => peekWord "where" ts || peekPunct ";" ts) (ts.drop 1)
    let ts ← whereClause g ts
    return (none, ← eatPunct ";" ts)
  else
    let ts ← optionally (peekPunct ":" ts)
      (fun ts => superBounds g (fun ts => peekWord "where" ts || peekOpening .brace ts) (ts.drop 1))
        ts
    let ts ← whereClause g ts
    return (some ⟨name, .other, doc⟩, ← partsBlock g (traitPart g) ts)

/-- Whether the angle bracket here opens parameters, and not a path inside a type. -/
def opensParameters (ts : Tokens) : Bool :=
  let second := next ts
  let third := next second
  peekPunct "<" ts &&
    (peekPunct ">" second || peekAttribute second ||
      ((peekLifetime second || peekIdentifier second) &&
        (peekPunct ">" third || peekPunct "," third ||
          (peekPunct ":" third && !peekPunct "::" third) || peekPunct "=" third)) ||
      peekWord "const" second)

/-- An `impl` block, from the words in front of its keyword on. -/
def implItem (g : Readers) (ts : Tokens) : Option Tokens := do
  let ts ← eatWord "impl" (skipWord "unsafe" (skipWord "default" ts))
  let ts ← optionally (opensParameters ts) (g.skip .generics) ts
  let ts :=
    if peekWord "const" ts then ts.drop 1
    else if peekPunct "?" ts && peekWord "const" (next ts) then ts.drop 2
    else ts
  let ts := if peekPunct "!" ts && !peekOpening .brace (next ts) then ts.drop 1 else ts
  let ts ← g.skip (.type true) ts
  let ts ← optionally (peekWord "for" ts) (fun ts => g.skip (.type true) (ts.drop 1)) ts
  let ts ← whereClause g ts
  partsBlock g (implPart g) ts

/-! ### Modules and imports -/

/-- Items up to the end of the text or of the enclosing braces. -/
def items (g : Readers) (ts : Tokens) : Option (List Form × Tokens) :=
  many (fun ts => !atEnd ts) (g .item) ts

def moduleItem (g : Readers) (ts : Tokens) : Option Tokens := do
  let ts ← eatWord "mod" (skipWord "unsafe" ts)
  let ts ← if peekWord "try" ts then some (ts.drop 1) else (eatIdentifier ts).map Prod.snd
  if peekPunct ";" ts then return ts.drop 1
  else
    let (_, ts) ← between .brace (fun ts => do items g (← skipInnerAttributes g ts)) ts
    return ts

/-- A name in an import, possibly renamed. -/
def renamed (ts : Tokens) : Option Tokens :=
  if peekWord "as" ts then
    let ts := ts.drop 1
    if peekIdentifier ts || peekWord "_" ts then some (ts.drop 1) else none
  else some ts

/-- What an import names. `rooted` admits a double colon in front of the branches. -/
def importTree : Nat → Bool → Tokens → Option Tokens
  | 0, _, _ => none
  | fuel + 1, rooted, ts =>
    if peekIdentifier ts || peekWord "self" ts || peekWord "super" ts || peekWord "crate" ts ||
        peekWord "try" ts then
      let ts := ts.drop 1
      if peekPunct "::" ts then importTree fuel false (ts.drop 2) else renamed ts
    else if peekPunct "*" ts then some (ts.drop 1)
    else
      (between .brace
        (commaList fun ts =>
          let here := rooted && peekPunct "::" ts
          (importTree fuel (rooted && !here) (if here then ts.drop 2 else ts)).map
            fun ts => ((), ts))
        ts).map Prod.snd

def importItem (ts : Tokens) : Option Tokens := do
  let ts ← eatWord "use" ts
  let rooted := peekPunct "::" ts
  let ts ← importTree (ts.length + 1) (!rooted) (skipPunct "::" ts)
  eatPunct ";" ts

/-- An external crate. -/
def crateItem (ts : Tokens) : Option Tokens := do
  let ts ← eatWord "crate" (← eatWord "extern" ts)
  let ts ← if peekWord "self" ts then some (ts.drop 1) else (eatIdentifier ts).map Prod.snd
  let ts ← renamed ts
  eatPunct ";" ts

/-- A block of foreign items. -/
def foreignItem (g : Readers) (ts : Tokens) : Option Tokens := do
  let ts := skipWord "unsafe" ts
  if peekWord "extern" ts then partsBlock g (foreignPart g) (skipConvention ts) else none

/-- A macro defined by the keyword `macro`. -/
def macroItem (ts : Tokens) : Option Tokens := do
  let (_, ts) ← eatIdentifier (← eatWord "macro" ts)
  let ts ← optionally (peekOpening .parenthesis ts) eatGroup ts
  if peekOpening .brace ts then eatGroup ts else none

/-! ### Items -/

/-- The doc texts of an item, a line each. -/
def docText : List String → Option String
  | [] => none
  | texts => some (String.intercalate "\n" texts)

/-- Items that declare no type. -/
def plainItem (r : Option Tokens) : Option (Form × Tokens) := r.map fun ts => (.item none, ts)

def declaringItem (r : Option (Declaration × Tokens)) : Option (Form × Tokens) :=
  r.map fun (d, ts) => (.item (some d), ts)

/-- The item behind its attributes and visibility. `inherited` says that there is no visibility. -/
def itemBody (g : Readers) (doc : Option String) (inherited : Bool) (ts : Tokens) :
    Option (Form × Tokens) :=
  let second := next ts
  if peekSignature false ts then plainItem do functionBody g (← signature g false ts)
  else if peekWord "extern" ts then
    if peekWord "crate" second then plainItem (crateItem ts)
    else if inherited then plainItem (foreignItem g ts)
    else none
  else if peekWord "use" ts then plainItem (importItem ts)
  else if peekWord "static" ts then plainItem (staticItem g ts)
  else if peekWord "const" ts then plainItem (constantItem g ts)
  else if peekWord "unsafe" ts then
    if peekWord "trait" second then
      (traitItem g false doc (ts.drop 1)).map fun (d, ts) => (.item d, ts)
    else if peekWord "auto" second && peekWord "trait" (next second) then
      (traitItem g false doc (ts.drop 2)).map fun (d, ts) => (.item d, ts)
    else if peekWord "impl" second then plainItem (implItem g ts)
    else if inherited && peekWord "extern" second then plainItem (foreignItem g ts)
    else if peekWord "mod" second then plainItem (moduleItem g ts)
    else none
  else if peekWord "mod" ts then plainItem (moduleItem g ts)
  else if peekWord "type" ts then
    (aliasItem g false ts).map fun (name, ts) =>
      (.item (name.map fun name => ⟨name, .other, doc⟩), ts)
  else if peekWord "struct" ts then declaringItem (structureItem g doc ts)
  else if peekWord "enum" ts then declaringItem (enumerationItem g doc ts)
  else if peekWord "union" ts && peekIdentifier second then declaringItem (unionItem g doc ts)
  else if peekWord "trait" ts then (traitItem g true doc ts).map fun (d, ts) => (.item d, ts)
  else if peekWord "auto" ts && peekWord "trait" second then
    (traitItem g false doc (ts.drop 1)).map fun (d, ts) => (.item d, ts)
  else if peekWord "impl" ts || (peekWord "default" ts && !peekPunct "!" second) then
    plainItem (implItem g ts)
  else if peekWord "macro" ts then plainItem (macroItem ts)
  else if inherited && startsCall ts then plainItem (callItem true ts)
  else none

/-- An item with its attributes. -/
def itemRule (g : Readers) (ts : Tokens) : Option (Form × Tokens) := do
  let (docs, ts) ← outerAttributes g ts
  let behind ← visibility ts
  itemBody g (docText docs) (behind.length = ts.length) behind

end Companion.Source
