import Companion.Source.Grammar.Types
import Companion.Proofs.Source.Grammar.Basic

/-! Attributes, paths, types and generic parameters are read forward, if the rules in them are. -/
namespace Companion.Source

variable {whole : Tokens} {g : Readers}

/-! ### Attributes -/

theorem forward_attributeBody (hg : g.Forward whole) : Forward whole (attributeBody g) := by
  intro ts hts
  refine .ite (.bind (.some (suffix_drop hts 1)) ?body) (.bind (forward_modulePath ts hts) ?body)
  intro path hpath
  dsimp only
  split
  · exact .bind (forward_eatGroup _ hpath) fun _ hts => .pure hts
  · refine .ite ?_ (.pure hpath)
    split
    · next heq =>
      have hvalue := suffix_drop hpath 1
      rw [heq] at hvalue
      refine .ite (.pure (suffix_of_cons hvalue)) ?_
      exact .bind (hg.skip _ _ (suffix_drop hpath 1)) fun _ hts => .pure hts
    · exact .ite .none (.bind (hg.skip _ _ (suffix_drop hpath 1)) fun _ hts => .pure hts)

theorem forward_outerAttribute (hg : g.Forward whole) : Forward whole (outerAttribute g) := by
  intro ts hts
  unfold outerAttribute
  split
  · exact .some (suffix_of_cons hts)
  · exact forward_between .bracket (forward_attributeBody hg) _ (suffix_of_cons hts)
  · exact .none

theorem forward_outerAttributes (hg : g.Forward whole) : Forward whole (outerAttributes g) :=
  fun ts hts => (forward_many _ (forward_outerAttribute hg) ts hts).map fun _ => rfl

theorem forward_skipAttributes (hg : g.Forward whole) : Forward whole (skipAttributes g) :=
  fun ts hts => (forward_outerAttributes hg ts hts).snd

theorem forward_innerAttribute (hg : g.Forward whole) : Forward whole (innerAttribute g) := by
  intro ts hts
  unfold innerAttribute
  split
  · exact .some (suffix_of_cons hts)
  · exact forward_between .bracket (forward_attributeBody hg) _
      (suffix_of_cons (suffix_of_cons hts))
  · exact .none

theorem forward_skipInnerAttributes (hg : g.Forward whole) :
    Forward whole (skipInnerAttributes g) :=
  fun ts hts => (forward_many _ (forward_innerAttribute hg) ts hts).snd

/-! ### Paths -/

theorem forward_pathSegment (hg : g.Forward whole) (inExpression : Bool) :
    Forward whole (pathSegment g inExpression) := by
  intro ts hts
  refine .ite ((forward_eatAnyWord ts hts).map fun _ => rfl) ?_
  refine .ite (.bindPair (forward_eatAnyWord ts hts) ?arguments)
    (.bindPair (forward_eatIdentifier ts hts) ?arguments)
  intro w ts hts
  refine .ite ?_ (.ite ?_ (.pure hts))
  · exact .bind (hg.skip _ ts hts) fun _ hts => .pure hts
  · exact .bind (hg.skip _ _ (suffix_drop hts 2)) fun _ hts => .pure hts

/-- Further names, each behind a double colon. -/
theorem forward_pathSegments (hg : g.Forward whole) (inExpression : Bool) :
    Forward whole (fun ts => do pathSegment g inExpression (← eatPunct "::" ts)) :=
  fun ts hts => .bind (forward_eatPunct "::" ts hts) fun ts hts =>
    forward_pathSegment hg inExpression ts hts

theorem forward_pathRest (hg : g.Forward whole) (inExpression : Bool) :
    Forward whole (pathRest g inExpression) :=
  forward_many _ (forward_pathSegments hg inExpression)

theorem forward_path (hg : g.Forward whole) (inExpression : Bool) :
    Forward whole (path g inExpression) := by
  intro ts hts
  refine .ite ?_ ?_
  · refine .bind (hg.skip _ _ (suffix_drop hts 1)) fun ts hts => ?_
    refine .bind (forward_optionally _ (fun ts hts => ?trait) ts hts) fun ts hts => ?_
    case trait =>
      have hname := suffix_skipPunct "::" (suffix_drop hts 1)
      refine .bindPair (forward_pathSegment hg false _ hname) fun _ ts hts => ?_
      exact .bindPair (forward_pathRest hg false ts hts) fun _ _ hts => .pure hts
    refine .bind (forward_eatPunct ">" ts hts) fun ts hts => ?_
    refine .bind (forward_eatPunct "::" ts hts) fun ts hts => ?_
    refine .bindPair (forward_pathSegment hg inExpression ts hts) fun first ts hts => ?_
    exact .bindPair (forward_many _ (forward_pathSegments hg inExpression) ts hts)
      fun _ ts hts => .pure hts
  · refine .bindPair (forward_pathSegment hg inExpression _ (suffix_skipPunct "::" hts))
      fun first ts hts => ?_
    exact .bindPair (forward_pathRest hg inExpression ts hts) fun _ ts hts => .pure hts

theorem forward_returnType (hg : g.Forward whole) (plus : Bool) :
    Forward whole (returnType g plus) :=
  fun _ hts => .ite (hg _ _ (suffix_drop hts 2)) (.some hts)

theorem forward_parenthesizedArguments (hg : g.Forward whole) :
    Forward whole (parenthesizedArguments g) := by
  intro ts hts
  refine .bindPair
    (forward_between .parenthesis (forward_commaList (hg _)) _ (suffix_skipPunct "::" hts)) ?_
  intro _ ts hts
  exact .bindPair (forward_returnType hg false ts hts) fun _ ts hts => .pure hts

theorem forward_typePath (hg : g.Forward whole) : Forward whole (typePath g) := by
  intro ts hts
  refine .bindPair (forward_path hg false ts hts) fun shape ts hts => .ite (.pure hts) ?_
  refine .bindPair (forward_parenthesizedArguments hg ts hts) fun more ts hts => .ite ?_ (.pure hts)
  exact .bindPair (forward_pathRest hg false ts hts) fun _ ts hts => .pure hts

/-! ### Arguments and parameters -/

theorem forward_constantArgument (hg : g.Forward whole) : Forward whole (constantArgument g) :=
  fun ts hts => .ite (forward_eatLiteral ts hts) (hg.skip _ ts hts)

/-- Parts with plus signs between them, up to a token that ends them. -/
theorem forward_plusList (ended : Tokens → Bool) {read : Tokens → Option Tokens}
    (hread : Forward whole read) :
    Forward whole fun ts => (many (fun ts => !ended ts)
      (fun ts => do
        let ts ← read ts
        if peekPunct "+" ts then return ((), ts.drop 1)
        else if ended ts then return ((), ts) else none) ts).map Prod.snd := by
  intro ts hts
  refine (forward_many _ (fun ts hts => ?_) ts hts).snd
  exact .bind (hread ts hts) fun ts hts => .ite (.pure (suffix_drop hts 1)) (.ite (.pure hts) .none)

theorem forward_bounds (hg : g.Forward whole) (ended : Tokens → Bool) :
    Forward whole (bounds g ended) :=
  forward_plusList ended (hg.skip _)

theorem forward_lifetimeBounds (ended : Tokens → Bool) : Forward whole (lifetimeBounds ended) :=
  forward_plusList ended forward_eatLifetime

theorem forward_genericArgument (hg : g.Forward whole) : Forward whole (genericArgument g) := by
  intro ts hts
  refine .ite (forward_eatLifetime ts hts) (.ite (forward_constantArgument hg ts hts) ?_)
  split
  · exact .none
  · next form us hread =>
    have hus : us <:+ whole := hg _ ts hts _ hread
    have hvalue := suffix_drop hus 1
    refine .ite (.ite (forward_constantArgument hg _ hvalue) (hg.skip _ _ hvalue)) ?_
    exact .ite (forward_bounds hg _ _ hvalue) (.some hus)

theorem forward_angleList {read : Tokens → Option Tokens} (hread : Forward whole read) :
    Forward whole (angleList read) := by
  intro ts hts
  refine .bindPair (forward_many _ (fun ts hts => ?_) ts hts) fun _ ts hts =>
    forward_eatPunct ">" ts hts
  refine .bind (hread ts hts) fun ts hts => .ite (.pure hts) ?_
  exact .bind (forward_eatPunct "," ts hts) fun _ hts => .pure hts

theorem forward_genericArguments (hg : g.Forward whole) : Forward whole (genericArguments g) := by
  intro ts hts
  refine .bind (forward_eatPunct "<" ts hts) fun ts hts => ?_
  exact .bind (forward_angleList (forward_genericArgument hg) ts hts) fun _ hts => .pure hts

theorem forward_lifetimeParameter : Forward whole lifetimeParameter := by
  intro ts hts
  refine .bind (forward_eatLifetime ts hts) fun ts hts => ?_
  exact forward_optionally _ (fun ts hts => forward_lifetimeBounds _ _ (suffix_drop hts 1)) ts hts

/-- A rule behind one token. -/
theorem Readers.Forward.skipBehind (hg : g.Forward whole) (rule : Rule) :
    Source.Forward whole fun ts => g.skip rule (ts.drop 1) :=
  fun _ hts => hg.skip rule _ (suffix_drop hts 1)

theorem forward_genericParameter (hg : g.Forward whole) : Forward whole (genericParameter g) := by
  intro ts hts
  refine .bind (forward_skipAttributes hg ts hts) fun ts hts => ?_
  refine .ite (forward_lifetimeParameter ts hts) (.ite ?_ (.ite ?_ (forward_eatWord "_" ts hts)))
  · have hbounds : Forward whole fun ts =>
        bounds g (fun ts => peekPunct "," ts || peekPunct ">" ts || peekPunct "=" ts) (ts.drop 1) :=
      fun ts hts => forward_bounds hg _ _ (suffix_drop hts 1)
    refine .bind (forward_optionally _ hbounds _ (suffix_drop hts 1)) fun ts hts => ?_
    exact forward_optionally _ (hg.skipBehind _) ts hts
  · refine .bindPair (forward_eatIdentifier _ (suffix_drop hts 1)) fun _ ts hts => ?_
    refine .bind (forward_eatPunct ":" ts hts) fun ts hts => ?_
    refine .bind (hg.skip _ ts hts) fun ts hts => ?_
    exact forward_optionally _ (fun ts hts => forward_constantArgument hg _ (suffix_drop hts 1)) ts
      hts

theorem forward_generics (hg : g.Forward whole) : Forward whole (generics g) := by
  intro ts hts
  refine .ite ?_ (.some hts)
  exact .bind (forward_angleList (forward_genericParameter hg) _ (suffix_drop hts 1))
    fun _ hts => .pure hts

theorem forward_boundLifetimes (hg : g.Forward whole) : Forward whole (boundLifetimes g) := by
  intro ts hts
  refine .bind (forward_eatWord "for" ts hts) fun ts hts => ?_
  refine .bind (forward_eatPunct "<" ts hts) fun ts hts => ?_
  refine forward_angleList (fun ts hts => ?_) ts hts
  exact .bind (forward_skipAttributes hg ts hts) fun ts hts => forward_lifetimeParameter ts hts

theorem forward_whereCondition (hg : g.Forward whole) : Forward whole (whereCondition g) := by
  intro ts hts
  refine .ite (forward_lifetimeBounds _ _ (suffix_drop hts 2)) ?_
  refine .bind (forward_optionally _ (forward_boundLifetimes hg) ts hts) fun ts hts => ?_
  refine .bind (hg.skip _ ts hts) fun ts hts => ?_
  exact .bind (forward_eatPunct ":" ts hts) fun ts hts => forward_bounds hg _ ts hts

theorem forward_whereClause (hg : g.Forward whole) : Forward whole (whereClause g) := by
  intro ts hts
  refine forward_optionally _ (fun ts hts => ?_) ts hts
  refine (forward_many _ (fun ts hts => ?_) _ (suffix_drop hts 1)).snd
  refine .bind (forward_whereCondition hg ts hts) fun ts hts => ?_
  exact .ite (.pure (suffix_drop hts 1)) (.ite (.pure hts) .none)

/-! ### Bounds -/

theorem forward_traitBound (hg : g.Forward whole) : Forward whole (traitBound g) := by
  intro ts hts
  refine .bind (forward_optionally _ (forward_boundLifetimes hg) ts hts) fun ts hts => ?_
  have hconst : Forward whole fun ts => eatWord "const" (ts.drop 1) :=
    fun ts hts => forward_eatWord "const" _ (suffix_drop hts 1)
  refine .bind (forward_optionally _ hconst ts hts) fun ts hts => ?_
  have hts := suffix_skipPunct "?" (suffix_skipWord "const" hts)
  refine .bind (forward_optionally _ (forward_boundLifetimes hg) _ hts) fun ts hts => .ite .none ?_
  exact .bindPair (forward_typePath hg ts hts) fun _ _ hts => .pure hts

theorem forward_bound (hg : g.Forward whole) : Forward whole (bound g) := by
  intro ts hts
  refine .ite ((forward_eatLifetime ts hts).map fun _ => rfl) (.ite ?_ (.ite ?_ ?_))
  · refine (forward_angleList (fun ts hts => ?_) _ (suffix_drop hts 2)).map fun _ => rfl
    exact .ite (forward_eatLifetime ts hts) (forward_eatAnyWord ts hts).snd
  · exact forward_between .parenthesis
      (fun ts hts => (forward_traitBound hg ts hts).map fun _ => rfl) ts hts
  · exact (forward_traitBound hg ts hts).map fun _ => rfl

/-- A bound behind a plus sign, if one starts there. -/
theorem forward_furtherBound (hg : g.Forward whole) : Forward whole fun ts =>
    if startsBound (ts.drop 1) then g .bound (ts.drop 1) else some (.other, ts.drop 1) :=
  fun _ hts => .ite (hg _ _ (suffix_drop hts 1)) (.some (suffix_drop hts 1))

theorem forward_traitBounds (hg : g.Forward whole) (plus : Bool) :
    Forward whole (traitBounds g plus) := by
  intro ts hts
  refine .bindPair (hg _ ts hts) fun first ts hts => ?_
  exact .bindPair (forward_many _ (forward_furtherBound hg) ts hts) fun _ ts hts =>
    .ite (.pure hts) .none

/-! ### Types -/

theorem forward_functionTypeParameter (hg : g.Forward whole) :
    Forward whole (functionTypeParameter g) := by
  intro ts hts
  refine .bind (forward_skipAttributes hg ts hts) fun ts hts => ?_
  refine .ite (.ite (.pure (suffix_drop hts 3)) .none)
    (.ite (.ite ?_ (.pure (suffix_drop hts 2))) ?_)
  · exact hg _ _ (suffix_drop (suffix_drop hts 2) 1)
  · have hnamed : ∀ named : Bool, (if named then ts.drop 2 else ts) <:+ whole :=
      fun named => suffix_ite (suffix_drop hts 2) hts
    exact .ite (.pure (suffix_drop (hnamed _) 3)) (hg _ _ (hnamed _))

theorem forward_functionType (hg : g.Forward whole) : Forward whole (functionType g) := by
  intro ts hts
  have hconvention : Forward whole fun ts =>
      some (if peekString (ts.drop 1) then ts.drop 2 else ts.drop 1) :=
    fun ts hts => .some (suffix_ite (suffix_drop hts 2) (suffix_drop hts 1))
  refine .bind (forward_optionally _ hconvention _ (suffix_skipWord "unsafe" hts)) fun ts hts => ?_
  refine .bind (forward_eatWord "fn" ts hts) fun ts hts => ?_
  refine .bindPair
    (forward_between _ (forward_commaList (forward_functionTypeParameter hg)) ts hts) ?_
  intro _ ts hts
  exact .bindPair (forward_returnType hg false ts hts) fun _ ts hts => .pure hts

theorem forward_continuedBounds (hg : g.Forward whole) : Forward whole (continuedBounds g) :=
  fun ts hts => (forward_many _ (forward_furtherBound hg) ts hts).snd

theorem forward_parenthesizedType (hg : g.Forward whole) (plus : Bool) :
    Forward whole (parenthesizedType g plus) := by
  intro ts hts
  have hinner := suffix_drop hts 1
  have hclose : Forward whole (eatClosing .parenthesis) := forward_eatClosing .parenthesis
  refine .ite (.bind (hclose _ hinner) fun _ hts => .pure hts) (.ite ?_ (.ite ?_ ?_))
  · refine .bind (forward_traitBounds hg true _ hinner) fun ts hts => ?_
    exact .bind (hclose ts hts) fun _ hts => .pure hts
  · refine .bind (forward_traitBound hg _ hinner) fun ts hts => ?_
    refine .bind (hclose ts hts) fun ts hts => ?_
    exact .bind (forward_continuedBounds hg ts hts) fun _ hts => .pure hts
  · refine .bindPair (hg _ _ hinner) fun first ts hts => .ite ?_ ?_
    · refine .bindPair (forward_commaList (hg _) _ (suffix_drop hts 1)) fun _ ts hts => ?_
      exact .bind (hclose ts hts) fun _ hts => .pure hts
    · refine .bind (hclose ts hts) fun ts hts => .ite ?_ (.pure hts)
      exact .bind (forward_continuedBounds hg ts hts) fun _ hts => .pure hts

theorem forward_namedType (hg : g.Forward whole) (plus forall_ : Bool) :
    Forward whole (namedType g plus forall_) := by
  intro ts hts
  refine .bindPair (forward_typePath hg ts hts) fun shape ts hts => ?_
  refine .ite (.pure hts) (.ite ?_ (.ite ?_ (.ite (.pure hts) (.pure hts))))
  · exact .bind (forward_eatGroup _ (suffix_drop hts 1)) fun _ hts => .pure hts
  · exact .bind (forward_continuedBounds hg ts hts) fun _ hts => .pure hts

theorem forward_typeBody (hg : g.Forward whole) (plus forall_ : Bool) :
    Forward whole (typeBody g plus forall_) := by
  intro ts hts
  have hbounds : ∀ plus ts, ts <:+ whole →
      Within whole ((traitBounds g plus ts).map fun ts => (Form.type, ts)) :=
    fun plus ts hts => (forward_traitBounds hg plus ts hts).map fun _ => rfl
  have htype : ∀ ts, ts <:+ whole →
      Within whole ((g.skip (.type false) ts).map fun ts => (Form.type, ts)) :=
    fun ts hts => (hg.skip _ ts hts).map fun _ => rfl
  refine .ite (forward_parenthesizedType hg plus ts hts) (.ite (forward_functionType hg ts hts) ?_)
  refine .ite (forward_namedType hg plus forall_ ts hts) (.ite ?_ (.ite ?_ (.ite ?_ (.ite ?_ ?_))))
  · exact hbounds plus _ (suffix_skipPunct "*" (suffix_drop hts 1))
  · refine forward_between .bracket (fun ts hts => ?_) ts hts
    refine .bind (hg.skip _ ts hts) fun ts hts => .ite ?_ (.pure hts)
    exact .bind (hg.skip _ _ (suffix_drop hts 1)) fun _ hts => .pure hts
  · exact .ite (htype _ (suffix_drop (suffix_drop hts 1) 1)) .none
  · exact htype _ (suffix_skipWord "mut" (suffix_skipLifetime (suffix_drop hts 1)))
  · refine .ite (.some (suffix_drop hts 1)) (.ite (hbounds plus _ (suffix_drop hts 1)) ?_)
    exact .ite (.some (suffix_drop hts 1)) (.ite (hbounds true ts hts) .none)

theorem forward_typeRule (hg : g.Forward whole) (plus : Bool) :
    Forward whole (typeRule g plus) := by
  intro ts hts
  refine .ite (.bind (forward_boundLifetimes hg ts hts) fun ts hts => ?_)
    (forward_typeBody hg plus false ts hts)
  exact .ite (forward_typeBody hg plus true ts hts) .none

end Companion.Source
