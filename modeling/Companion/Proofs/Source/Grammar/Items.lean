import Companion.Source.Grammar.Items
import Companion.Proofs.Source.Grammar.Expressions

/-! Items are read forward, if the rules in them are, and the types that they declare have names
that stand among the tokens (`declares_itemRule`). -/
namespace Companion.Source

variable {whole : Tokens} {g : Readers}

theorem forward_eatPathKeyword : Forward whole eatPathKeyword :=
  fun _ hts => .ite (.some (suffix_drop hts 1)) .none

theorem forward_visibility : Forward whole visibility := by
  intro ts hts
  have hbehind := suffix_drop hts 1
  have hinner := suffix_drop hbehind 1
  refine .ite (.ite ?_ (.some hbehind)) (.some hts)
  dsimp only
  split
  · next rest hrest =>
    have hrest : rest <:+ whole := forward_eatPathKeyword _ hinner rest hrest
    split
    · next rest' hclosing => exact .some (forward_eatClosing .parenthesis rest hrest rest' hclosing)
    · exact .some hbehind
  · refine .ite (.bind (forward_modulePath _ (suffix_drop hinner 1)) ?_) (.some hbehind)
    exact fun ts hts => forward_eatClosing .parenthesis ts hts

theorem suffix_skipConvention {ts : Tokens} (hts : ts <:+ whole) : skipConvention ts <:+ whole :=
  suffix_ite (suffix_ite (suffix_drop hts 2) (suffix_drop hts 1)) hts

/-! ### Functions -/

theorem forward_receiver (hg : g.Forward whole) : Forward whole (receiver g) := by
  intro ts hts
  refine .ite ?_ ?_
  · exact forward_eatWord "self" _ (suffix_skipWord "mut" (suffix_skipLifetime (suffix_drop hts 1)))
  · refine .bind (forward_eatWord "self" _ (suffix_skipWord "mut" hts)) fun ts hts => ?_
    exact forward_optionally _ (hg.skipBehind _) ts hts

theorem forward_parameter (hg : g.Forward whole) : Forward whole (parameter g) := by
  intro ts hts
  refine .bind (forward_skipAttributes hg ts hts) fun ts hts => .ite (.pure (suffix_drop hts 3)) ?_
  split
  · next rest hrest => exact .pure (forward_receiver hg ts hts rest hrest)
  · refine .ite (.bind (hg.skip _ ts hts) fun _ hts => .pure hts) ?_
    refine .bind (hg.skip _ ts hts) fun ts hts => ?_
    refine .bind (forward_eatPunct ":" ts hts) fun ts hts => .ite (.pure (suffix_drop hts 3)) ?_
    exact .bind (hg.skip _ ts hts) fun _ hts => .pure hts

theorem forward_signature (hg : g.Forward whole) (safe : Bool) :
    Forward whole (signature g safe) := by
  intro ts hts
  have hmarked := suffix_skipWord "async" (suffix_skipWord "const" hts)
  have hsafe : (if safe then skipWord "safe" (skipWord "async" (skipWord "const" ts))
      else skipWord "async" (skipWord "const" ts)) <:+ whole :=
    suffix_ite (suffix_skipWord "safe" hmarked) hmarked
  refine .bind (forward_eatWord "fn" _ (suffix_skipConvention (suffix_skipWord "unsafe" hsafe))) ?_
  intro ts hts
  refine .bindPair (forward_eatIdentifier ts hts) fun _ ts hts => ?_
  refine .bind (hg.skip _ ts hts) fun ts hts => ?_
  refine .bindPair
    (forward_between .parenthesis (forward_commaList (forward_parameter hg)) ts hts) ?_
  intro parameters ts hts
  refine .ite (.bindPair (forward_returnType hg true ts hts) ?_) .none
  exact fun _ ts hts => forward_whereClause hg ts hts

theorem forward_functionBody (hg : g.Forward whole) : Forward whole (functionBody g) :=
  fun ts hts => .ite (.some (suffix_drop hts 1)) (forward_attributedBlock hg ts hts)

/-! ### Declared types -/

theorem forward_namedField (hg : g.Forward whole) : Forward whole (namedField g) := by
  intro ts hts
  refine .bind (forward_skipAttributes hg ts hts) fun ts hts => ?_
  refine .bind (forward_visibility ts hts) fun ts hts => ?_
  refine .ite (.bind (.some (suffix_drop hts 1)) ?type)
    (.bind (forward_eatIdentifier ts hts).snd ?type)
  intro ts hts
  refine .bind (forward_eatPunct ":" ts hts) fun ts hts => ?_
  exact .bind (hg.skip _ ts hts) fun _ hts => .pure hts

theorem forward_namedFields (hg : g.Forward whole) : Forward whole (namedFields g) :=
  fun ts hts => (forward_between .brace (forward_commaList (forward_namedField hg)) ts hts).snd

theorem forward_tupleField (hg : g.Forward whole) : Forward whole (tupleField g) := by
  intro ts hts
  refine .bind (forward_skipAttributes hg ts hts) fun ts hts => ?_
  exact .bind (forward_visibility ts hts) fun ts hts => hg _ ts hts

theorem forward_tupleFields (hg : g.Forward whole) : Forward whole (tupleFields g) :=
  forward_between .parenthesis (forward_commaList (forward_tupleField hg))

theorem forward_structureBody (hg : g.Forward whole) : Forward whole (structureBody g) := by
  intro ts hts
  refine .ite (.bindPair (forward_tupleFields hg ts hts) fun fields ts hts => ?_) ?_
  · refine .bind (forward_whereClause hg ts hts) fun ts hts => ?_
    exact .bind (forward_eatPunct ";" ts hts) fun _ hts => .pure hts
  · refine .bind (forward_whereClause hg ts hts) fun ts hts => .ite ?_ ?_
    · exact .bind (forward_namedFields hg ts hts) fun _ hts => .pure hts
    · exact .bind (forward_eatPunct ";" ts hts) fun _ hts => .pure hts

theorem forward_structureItem (hg : g.Forward whole) (doc : Option String) :
    Forward whole (structureItem g doc) := by
  intro ts hts
  refine .bind (forward_eatWord "struct" ts hts) fun ts hts => ?_
  refine .bindPair (forward_eatIdentifier ts hts) fun name ts hts => ?_
  refine .bindPair (hg _ ts hts) fun parameters ts hts => ?_
  exact .bindPair (forward_structureBody hg ts hts) fun _ _ hts => .pure hts

theorem forward_variant (hg : g.Forward whole) : Forward whole (variant g) := by
  intro ts hts
  refine .bind (forward_skipAttributes hg ts hts) fun ts hts => ?_
  refine .bind (forward_visibility ts hts) fun ts hts => ?_
  refine .bindPair (forward_eatIdentifier ts hts) fun _ ts hts => ?_
  refine .ite (.bind (forward_namedFields hg ts hts) ?value)
    (.ite (.bind (forward_tupleFields hg ts hts).snd ?value) (.bind (.some hts) ?value))
  exact fun ts hts => .bind (forward_optionally _ (hg.skipBehind _) ts hts) fun _ hts => .pure hts

theorem forward_enumerationItem (hg : g.Forward whole) (doc : Option String) :
    Forward whole (enumerationItem g doc) := by
  intro ts hts
  refine .bind (forward_eatWord "enum" ts hts) fun ts hts => ?_
  refine .bindPair (forward_eatIdentifier ts hts) fun name ts hts => ?_
  refine .bind (hg.skip _ ts hts) fun ts hts => ?_
  refine .bind (forward_whereClause hg ts hts) fun ts hts => ?_
  refine .bindPair (forward_between .brace (forward_commaList (forward_variant hg)) ts hts) ?_
  exact fun _ _ hts => .pure hts

theorem forward_unionItem (hg : g.Forward whole) (doc : Option String) :
    Forward whole (unionItem g doc) := by
  intro ts hts
  refine .bind (forward_eatWord "union" ts hts) fun ts hts => ?_
  refine .bindPair (forward_eatIdentifier ts hts) fun name ts hts => ?_
  refine .bind (hg.skip _ ts hts) fun ts hts => ?_
  refine .bind (forward_whereClause hg ts hts) fun ts hts => ?_
  exact .bind (forward_namedFields hg ts hts) fun _ hts => .pure hts

theorem forward_aliasItem (hg : g.Forward whole) (late : Bool) :
    Forward whole (aliasItem g late) := by
  intro ts hts
  have hbounds : Forward whole fun ts => bounds g endsAliasBounds (ts.drop 1) :=
    fun ts hts => forward_bounds hg _ _ (suffix_drop hts 1)
  refine .bind (forward_eatWord "type" ts hts) fun ts hts => ?_
  refine .bindPair (forward_eatIdentifier ts hts) fun name ts hts => ?_
  refine .bind (hg.skip _ ts hts) fun ts hts => ?_
  refine .bind (forward_optionally _ hbounds ts hts) fun ts hts => ?_
  refine .ite (.bind (.some hts) ?definition) (.bind (forward_whereClause hg ts hts) ?definition)
  intro ts hts
  refine .bind (forward_optionally _ (hg.skipBehind _) ts hts) fun ts hts => ?_
  refine .ite (.bind (forward_whereClause hg ts hts) ?semicolon) (.bind (.some hts) ?semicolon)
  exact fun ts hts => .bind (forward_eatPunct ";" ts hts) fun _ hts => .pure hts

/-! ### Constants and calls -/

theorem forward_constantItem (hg : g.Forward whole) : Forward whole (constantItem g) := by
  intro ts hts
  refine .bind (forward_eatWord "const" ts hts) fun ts hts => ?_
  refine .ite (.bind (.some (suffix_drop hts 1)) ?type) (.bind .none ?type)
  intro ts hts
  refine .bind (hg.skip _ ts hts) fun ts hts => ?_
  refine .bind (forward_eatPunct ":" ts hts) fun ts hts => ?_
  refine .bind (hg.skip _ ts hts) fun ts hts => ?_
  refine .bind (forward_optionally _ (hg.skipBehind _) ts hts) fun ts hts => ?_
  exact .bind (forward_whereClause hg ts hts) fun ts hts => forward_eatPunct ";" ts hts

theorem forward_staticItem (hg : g.Forward whole) : Forward whole (staticItem g) := by
  intro ts hts
  refine .bind (forward_eatWord "static" ts hts) fun ts hts => ?_
  refine .bindPair (forward_eatIdentifier _ (suffix_skipWord "mut" hts)) fun _ ts hts => ?_
  have hvalue : Forward whole (fun ts => do
      let ts ← optionally (peekPunct "=" ts) (fun ts => g.skip (.expression true) (ts.drop 1)) ts
      eatPunct ";" ts) := by
    intro ts hts
    refine .bind (forward_optionally _ (hg.skipBehind _) ts hts) fun ts hts => ?_
    exact forward_eatPunct ";" ts hts
  refine .ite (.bind (.some hts) hvalue) (.bind (forward_eatPunct ":" ts hts) fun ts hts => ?_)
  exact .bind (hg.skip _ ts hts) hvalue

theorem forward_callBody : Forward whole callBody := by
  intro ts hts
  refine .bind (forward_eatGroup ts hts) fun ts hts => ?_
  exact .ite (.pure hts) (forward_eatPunct ";" ts hts)

theorem forward_callItem (named : Bool) : Forward whole (callItem named) := by
  intro ts hts
  refine .bind (forward_modulePath ts hts) fun ts hts => ?_
  refine .bind (forward_eatPunct "!" ts hts) fun ts hts => ?_
  exact forward_callBody _ (suffix_ite (suffix_drop hts 1) hts)

/-! ### Traits and `impl` blocks -/

theorem forward_associatedItem (hg : g.Forward whole) (bare : Bool) :
    Forward whole (associatedItem g bare) := by
  intro ts hts
  refine .ite (.bind (forward_signature hg false ts hts) fun ts hts => ?_)
    (.ite ?_ (.ite ?_ (.ite ?_ .none)))
  · exact .bind (forward_functionBody hg ts hts) fun _ hts => .pure hts
  · exact .bind (forward_constantItem hg ts hts) fun _ hts => .pure hts
  · exact .bindPair (forward_aliasItem hg true ts hts) fun _ _ hts => .pure hts
  · exact .bind (forward_callItem false ts hts) fun _ hts => .pure hts

theorem forward_traitPart (hg : g.Forward whole) : Forward whole (traitPart g) := by
  intro ts hts
  refine .bind (forward_skipAttributes hg ts hts) fun ts hts => ?_
  refine .bind (forward_visibility ts hts) fun rest hrest => ?_
  exact forward_associatedItem hg _ _ (suffix_skipWord "default" hrest)

theorem forward_implPart (hg : g.Forward whole) : Forward whole (implPart g) := by
  intro ts hts
  refine .bind (forward_skipAttributes hg ts hts) fun ts hts => ?_
  refine .bind (forward_visibility ts hts) fun rest hrest => ?_
  exact forward_associatedItem hg _ _ (suffix_ite hrest (suffix_skipWord "default" hrest))

theorem forward_foreignPart (hg : g.Forward whole) : Forward whole (foreignPart g) := by
  intro ts hts
  refine .bind (forward_skipAttributes hg ts hts) fun ts hts => ?_
  refine .bind (forward_visibility ts hts) fun ts hts => ?_
  refine .ite (.bind (forward_signature hg true ts hts) fun ts hts => ?_)
    (.ite ?_ (.ite ?_ (.ite ?_ .none)))
  · exact .bind (forward_functionBody hg ts hts) fun _ hts => .pure hts
  · have hstatic := suffix_skipWord "safe" (suffix_skipWord "unsafe" hts)
    exact .bind (forward_staticItem hg _ hstatic) fun _ hts => .pure hts
  · exact .bindPair (forward_aliasItem hg false ts hts) fun _ _ hts => .pure hts
  · exact .bind (forward_callItem false ts hts) fun _ hts => .pure hts

theorem forward_partsBlock (hg : g.Forward whole) {part : Tokens → Option (Unit × Tokens)}
    (hpart : Forward whole part) : Forward whole (partsBlock g part) := by
  intro ts hts
  refine (forward_between .brace (fun ts hts => ?_) ts hts).snd
  exact .bind (forward_skipInnerAttributes hg ts hts) fun ts hts => forward_many _ hpart ts hts

theorem forward_superBounds (hg : g.Forward whole) (ended : Tokens → Bool) :
    Forward whole (superBounds g ended) := by
  intro ts hts
  refine (forward_many _ (fun ts hts => ?_) ts hts).snd
  refine .bind (hg.skip _ ts hts) fun ts hts => .ite (.pure hts) ?_
  exact .bind (forward_eatPunct "+" ts hts) fun _ hts => .pure hts

theorem forward_traitItem (hg : g.Forward whole) (withAlias : Bool) (doc : Option String) :
    Forward whole (traitItem g withAlias doc) := by
  intro ts hts
  have hbounds : Forward whole fun ts =>
      superBounds g (fun ts => peekWord "where" ts || peekOpening .brace ts) (ts.drop 1) :=
    fun ts hts => forward_superBounds hg _ _ (suffix_drop hts 1)
  refine .bind (forward_eatWord "trait" ts hts) fun ts hts => ?_
  refine .bindPair (forward_eatIdentifier ts hts) fun name ts hts => ?_
  refine .bind (hg.skip _ ts hts) fun ts hts => .ite ?_ ?_
  · refine .bind (forward_superBounds hg _ _ (suffix_drop hts 1)) fun ts hts => ?_
    refine .bind (forward_whereClause hg ts hts) fun ts hts => ?_
    exact .bind (forward_eatPunct ";" ts hts) fun _ hts => .pure hts
  · refine .bind (forward_optionally _ hbounds ts hts) fun ts hts => ?_
    refine .bind (forward_whereClause hg ts hts) fun ts hts => ?_
    exact .bind (forward_partsBlock hg (forward_traitPart hg) ts hts) fun _ hts => .pure hts

theorem forward_implItem (hg : g.Forward whole) : Forward whole (implItem g) := by
  intro ts hts
  refine .bind
    (forward_eatWord "impl" _ (suffix_skipWord "unsafe" (suffix_skipWord "default" hts))) ?_
  intro ts hts
  refine .bind (forward_optionally _ (hg.skip _) ts hts) fun ts hts => ?_
  have hconst : (if peekWord "const" ts then ts.drop 1
      else if peekPunct "?" ts && peekWord "const" (next ts) then ts.drop 2 else ts) <:+ whole :=
    suffix_ite (suffix_drop hts 1) (suffix_ite (suffix_drop hts 2) hts)
  refine .bind (hg.skip _ _ (suffix_ite (suffix_drop hconst 1) hconst)) fun ts hts => ?_
  refine .bind (forward_optionally _ (hg.skipBehind _) ts hts) fun ts hts => ?_
  refine .bind (forward_whereClause hg ts hts) fun ts hts => ?_
  exact forward_partsBlock hg (forward_implPart hg) ts hts

/-! ### Modules and imports -/

theorem forward_items (hg : g.Forward whole) : Forward whole (items g) := forward_many _ (hg _)

theorem forward_moduleItem (hg : g.Forward whole) : Forward whole (moduleItem g) := by
  intro ts hts
  have hitems : Forward whole (fun ts => do items g (← skipInnerAttributes g ts)) :=
    fun ts hts => .bind (forward_skipInnerAttributes hg ts hts) fun ts hts =>
      forward_items hg ts hts
  refine .bind (forward_eatWord "mod" _ (suffix_skipWord "unsafe" hts)) fun ts hts => ?_
  refine .ite (.bind (.some (suffix_drop hts 1)) ?body)
    (.bind (forward_eatIdentifier ts hts).snd ?body)
  intro ts hts
  refine .ite (.pure (suffix_drop hts 1)) ?_
  exact .bindPair (forward_between .brace hitems ts hts) fun _ _ hts => .pure hts

theorem forward_renamed : Forward whole renamed :=
  fun _ hts => .ite (.ite (.some (suffix_drop (suffix_drop hts 1) 1)) .none) (.some hts)

theorem forward_importTree (fuel : Nat) (rooted : Bool) :
    Forward whole (importTree fuel rooted) := by
  induction fuel generalizing rooted with
  | zero => exact fun _ _ => .none
  | succ fuel ih =>
    intro ts hts
    have hname := suffix_drop hts 1
    refine .ite (.ite (ih _ _ (suffix_drop hname 2)) (forward_renamed _ hname)) ?_
    refine .ite (.some (suffix_drop hts 1)) ?_
    refine (forward_between .brace (forward_commaList fun ts hts => ?_) ts hts).snd
    exact (ih _ _ (suffix_ite (suffix_drop hts 2) hts)).map fun _ => rfl

theorem forward_importItem : Forward whole importItem := by
  intro ts hts
  refine .bind (forward_eatWord "use" ts hts) fun ts hts => ?_
  refine .bind (forward_importTree _ _ _ (suffix_skipPunct "::" hts)) fun ts hts => ?_
  exact forward_eatPunct ";" ts hts

theorem forward_crateItem : Forward whole crateItem := by
  intro ts hts
  refine .bind (forward_eatWord "extern" ts hts) fun ts hts => ?_
  refine .bind (forward_eatWord "crate" ts hts) fun ts hts => ?_
  refine .ite (.bind (.some (suffix_drop hts 1)) ?name)
    (.bind (forward_eatIdentifier ts hts).snd ?name)
  exact fun ts hts => .bind (forward_renamed ts hts) fun ts hts => forward_eatPunct ";" ts hts

theorem forward_foreignItem (hg : g.Forward whole) : Forward whole (foreignItem g) := by
  intro ts hts
  have hextern := suffix_skipWord "unsafe" hts
  exact .ite (forward_partsBlock hg (forward_foreignPart hg) _ (suffix_skipConvention hextern))
    .none

theorem forward_macroItem : Forward whole macroItem := by
  intro ts hts
  refine .bind (forward_eatWord "macro" ts hts) fun ts hts => ?_
  refine .bindPair (forward_eatIdentifier ts hts) fun _ ts hts => ?_
  refine .bind (forward_optionally _ forward_eatGroup ts hts) fun ts hts => ?_
  exact .ite (forward_eatGroup ts hts) .none

/-! ### Names of declared types -/

/-- An identifier that stands among the tokens. -/
def Taken (whole : Tokens) (name : String) : Prop :=
  Token.word name ∈ whole ∧ isIdentifier name = true

/-- What has been read, if anything, has the property. -/
def Yields {α : Type} (P : α → Prop) (r : Option (α × Tokens)) : Prop :=
  ∀ a ts, r = some (a, ts) → P a

namespace Yields

variable {α β : Type} {P : α → Prop}

theorem none : Yields P none := by
  intro a ts h
  cases h

theorem pure {a : α} {ts : Tokens} (h : P a) : Yields P (Pure.pure (a, ts)) := by
  intro a' ts' heq
  obtain ⟨rfl, -⟩ := Prod.mk.inj (Option.some.inj heq)
  exact h

theorem bind {r : Option β} {f : β → Option (α × Tokens)} (hf : ∀ b, Yields P (f b)) :
    Yields P (r >>= f) := by
  cases r with
  | none => exact none
  | some b => exact hf b

theorem ite {c : Prop} {_ : Decidable c} {r r' : Option (α × Tokens)} (h : Yields P r)
    (h' : Yields P r') :
    Yields P (if c then r else r') := by
  split
  · exact h
  · exact h'

theorem map {Q : β → Prop} {r : Option (α × Tokens)} (f : α → β) (h : Yields P r)
    (hf : ∀ a, P a → Q (f a)) : Yields Q (r.map fun (a, ts) => (f a, ts)) := by
  intro b ts heq
  obtain ⟨⟨a, us⟩, hr, heq⟩ := Option.map_eq_some_iff.1 heq
  obtain ⟨rfl, rfl⟩ := Prod.mk.inj heq
  exact hf a (h a _ hr)

/-- Declarations start with a keyword and the name. -/
theorem head {keyword : String} {ts : Tokens} (hts : ts <:+ whole)
    {f : String × Tokens → Option (α × Tokens)}
    (hf : ∀ name ts, Taken whole name → Yields P (f (name, ts))) :
    Yields P (eatWord keyword ts >>= fun ts => eatIdentifier ts >>= f) := by
  intro a us h
  obtain ⟨behind, hbehind, h⟩ := Option.bind_eq_some_iff.1 h
  obtain ⟨⟨name, rest⟩, hname, h⟩ := Option.bind_eq_some_iff.1 h
  have hsuffix : behind <:+ whole := forward_eatWord keyword ts hts behind hbehind
  unfold eatIdentifier at hname
  split at hname
  · next word words =>
    split at hname
    · next hword =>
      obtain ⟨rfl, rfl⟩ := Prod.mk.inj (Option.some.inj hname)
      exact hf _ _ ⟨hsuffix.subset List.mem_cons_self, hword⟩ a us h
    · cases hname
  · cases hname

end Yields

theorem named_structureItem (doc : Option String) {ts : Tokens} (hts : ts <:+ whole) :
    Yields (fun d => Taken whole d.name) (structureItem g doc ts) :=
  .head hts fun _ _ hname => .bind fun _ => .bind fun _ => .pure hname

theorem named_enumerationItem (doc : Option String) {ts : Tokens} (hts : ts <:+ whole) :
    Yields (fun d => Taken whole d.name) (enumerationItem g doc ts) :=
  .head hts fun _ _ hname => .bind fun _ => .bind fun _ => .bind fun _ => .pure hname

theorem named_unionItem (doc : Option String) {ts : Tokens} (hts : ts <:+ whole) :
    Yields (fun d => Taken whole d.name) (unionItem g doc ts) :=
  .head hts fun _ _ hname => .bind fun _ => .bind fun _ => .bind fun _ => .pure hname

theorem named_aliasItem (late : Bool) {ts : Tokens} (hts : ts <:+ whole) :
    Yields (fun declared => ∀ name, declared = some name → Taken whole name)
      (aliasItem g late ts) := by
  refine .head hts fun name _ hname => .bind fun _ => .bind fun _ => ?_
  refine .ite (.bind ?definition) (.bind ?definition)
  refine fun _ => .bind fun _ => .ite (.bind ?semicolon) (.bind ?semicolon)
  refine fun _ => .bind fun _ => .pure ?_
  intro declared h
  split at h
  · exact Option.some.inj h ▸ hname
  · cases h

theorem named_traitItem (withAlias : Bool) (doc : Option String) {ts : Tokens}
    (hts : ts <:+ whole) :
    Yields (fun declared => ∀ d, declared = some d → Taken whole d.name)
      (traitItem g withAlias doc ts) := by
  refine .head hts fun name _ hname => .bind fun _ => .ite ?_ ?_
  · refine .bind fun _ => .bind fun _ => .bind fun _ => .pure ?_
    intro d h
    cases h
  · refine .bind fun _ => .bind fun _ => .bind fun _ => .pure ?_
    intro d h
    exact Option.some.inj h ▸ hname

/-! ### Items -/

/-- The type that an item declares, if it declares one, has its name from the tokens. -/
def Form.Named (whole : Tokens) (form : Form) : Prop :=
  ∀ d, form = .item (some d) → Taken whole d.name

/-- An item that has been read leaves an end of the whole and takes its name from the whole. -/
structure Declares (whole : Tokens) (r : Option (Form × Tokens)) : Prop where
  within : Within whole r
  named : Yields (Form.Named whole) r

namespace Declares

theorem none : Declares whole none := ⟨.none, .none⟩

theorem ite {c : Prop} {_ : Decidable c} {r r' : Option (Form × Tokens)} (h : Declares whole r)
    (h' : Declares whole r') : Declares whole (if c then r else r') :=
  ⟨.ite h.within h'.within, .ite h.named h'.named⟩

theorem plain {r : Option Tokens} (h : Within whole r) : Declares whole (plainItem r) := by
  refine ⟨h.map fun _ => rfl, ?_⟩
  intro form ts heq d hd
  obtain ⟨us, -, heq⟩ := Option.map_eq_some_iff.1 heq
  rw [← (Prod.mk.inj heq).1] at hd
  cases hd

theorem optional {r : Option (Option Declaration × Tokens)} (h : Within whole r)
    (hnamed : Yields (fun declared => ∀ d, declared = some d → Taken whole d.name) r) :
    Declares whole (r.map fun (declared, ts) => (Form.item declared, ts)) :=
  ⟨h.map fun _ => rfl, hnamed.map Form.item fun _ ha d hd => ha d (Form.item.inj hd)⟩

theorem declaring {r : Option (Declaration × Tokens)} (h : Within whole r)
    (hnamed : Yields (fun d => Taken whole d.name) r) : Declares whole (declaringItem r) := by
  refine ⟨h.map fun _ => rfl, hnamed.map (fun d => Form.item (some d)) ?_⟩
  intro d hname d' hd
  exact Option.some.inj (Form.item.inj hd) ▸ hname

end Declares

theorem declares_itemBody (hg : g.Forward whole) (doc : Option String) (inherited : Bool)
    {ts : Tokens} (hts : ts <:+ whole) : Declares whole (itemBody g doc inherited ts) := by
  have htrait : ∀ withAlias ts, ts <:+ whole → Declares whole
      ((traitItem g withAlias doc ts).map fun (declared, ts) => (Form.item declared, ts)) :=
    fun withAlias ts hts => .optional (forward_traitItem hg withAlias doc ts hts)
      (named_traitItem withAlias doc hts)
  have hforeign := Declares.plain (forward_foreignItem hg ts hts)
  have himpl := Declares.plain (forward_implItem hg ts hts)
  have hmodule := Declares.plain (forward_moduleItem hg ts hts)
  refine .ite (.plain (.bind (forward_signature hg false ts hts) (forward_functionBody hg))) ?_
  refine .ite (.ite (.plain (forward_crateItem ts hts)) (.ite hforeign .none)) ?_
  refine .ite (.plain (forward_importItem ts hts)) (.ite (.plain (forward_staticItem hg ts hts)) ?_)
  refine .ite (.plain (forward_constantItem hg ts hts)) (.ite ?_ (.ite hmodule (.ite ?_ ?_)))
  · refine .ite (htrait false _ (suffix_drop hts 1)) (.ite (htrait false _ (suffix_drop hts 2)) ?_)
    exact .ite himpl (.ite hforeign (.ite hmodule .none))
  · refine ⟨(forward_aliasItem hg false ts hts).map fun _ => rfl, (named_aliasItem false hts).map
      (fun declared => Form.item (declared.map fun name => ⟨name, .other, doc⟩)) ?_⟩
    intro declared hdeclared d hd
    obtain ⟨name, rfl, rfl⟩ := Option.map_eq_some_iff.1 (Form.item.inj hd)
    exact hdeclared name rfl
  refine .ite (.declaring (forward_structureItem hg doc ts hts) (named_structureItem doc hts)) ?_
  refine .ite
    (.declaring (forward_enumerationItem hg doc ts hts) (named_enumerationItem doc hts)) ?_
  refine .ite (.declaring (forward_unionItem hg doc ts hts) (named_unionItem doc hts)) ?_
  refine .ite (htrait true ts hts) (.ite (htrait false _ (suffix_drop hts 1)) (.ite himpl ?_))
  exact .ite (.plain (forward_macroItem ts hts))
    (.ite (.plain (forward_callItem true ts hts)) .none)

/-- **An item is read forward, and the type that it declares has its name from the tokens.** -/
theorem declares_itemRule (hg : g.Forward whole) {ts : Tokens} (hts : ts <:+ whole) :
    Declares whole (itemRule g ts) := by
  constructor
  · refine .bindPair (forward_outerAttributes hg ts hts) fun docs ts hts => ?_
    refine .bind (forward_visibility ts hts) fun behind hbehind => ?_
    exact (declares_itemBody hg _ _ hbehind).within
  · intro form us h
    obtain ⟨⟨docs, rest⟩, hdocs, h⟩ := Option.bind_eq_some_iff.1 h
    obtain ⟨behind, hbehind, h⟩ := Option.bind_eq_some_iff.1 h
    have hrest : rest <:+ whole := forward_outerAttributes hg ts hts (docs, rest) hdocs
    have hsuffix : behind <:+ whole := forward_visibility rest hrest behind hbehind
    exact (declares_itemBody hg _ _ hsuffix).named form us h

end Companion.Source
