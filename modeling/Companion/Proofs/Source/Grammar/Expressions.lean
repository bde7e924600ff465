import Companion.Source.Grammar.Expressions
import Companion.Proofs.Source.Grammar.Types

/-! Patterns, expressions and blocks are read forward, if the rules in them are. -/
namespace Companion.Source

variable {whole : Tokens} {g : Readers}

/-! ### Patterns -/

theorem forward_rangeBound (hg : g.Forward whole) : Forward whole (rangeBound g) := by
  intro ts hts
  refine .ite (.some hts)
    (.ite ((forward_eatLiteral ts hts).map fun _ => rfl) (.ite ?_ (.ite ?_ .none)))
  · exact (forward_path hg true ts hts).map fun _ => rfl
  · exact (hg.skip _ _ (suffix_drop hts 1)).map fun _ => rfl

theorem forward_rangeEnd (hg : g.Forward whole) : Forward whole (rangeEnd g) := by
  intro ts hts
  exact .bindPair (forward_rangeBound hg _ (suffix_drop hts _)) fun _ ts hts =>
    .ite .none (.pure hts)

theorem forward_patternList (hg : g.Forward whole) : Forward whole (patternList g) :=
  forward_commaList (hg _)

theorem forward_fieldPattern (hg : g.Forward whole) : Forward whole (fieldPattern g) := by
  intro ts hts
  refine .bind (forward_skipAttributes hg ts hts) fun ts hts => ?_
  refine .ite (.ite (.pure (suffix_drop hts 2)) .none) ?_
  have hname := suffix_skipWord "mut" (suffix_skipWord "ref" (suffix_skipWord "box" hts))
  dsimp only
  split
  · next heq =>
    rw [heq] at hname
    refine .ite .none
      (.bind (forward_eatPunct ":" _ (suffix_of_cons hname)) fun ts hts => hg _ ts hts)
  · refine .bindPair (forward_eatIdentifier _ hname) fun _ ts hts => ?_
    exact .ite (hg _ _ (suffix_drop hts 1)) (.pure hts)

theorem forward_pathPattern (hg : g.Forward whole) : Forward whole (pathPattern g) := by
  intro ts hts
  refine .bindPair (forward_path hg true ts hts) fun shape ts hts => ?_
  refine .ite ?_ (.ite ?_ (.ite ?_ (.ite ?_ (.pure hts))))
  · exact .bind (forward_eatGroup _ (suffix_drop hts 1)) fun _ hts => .pure hts
  · refine .bindPair
      (forward_between .brace (forward_commaList (forward_fieldPattern hg)) ts hts) ?_
    exact fun _ _ hts => .pure hts
  · refine .bindPair (forward_between .parenthesis (forward_patternList hg) ts hts) ?_
    exact fun _ _ hts => .pure hts
  · exact .bindPair (forward_rangeEnd hg ts hts) fun _ _ hts => .pure hts

theorem forward_bindingPattern (hg : g.Forward whole) : Forward whole (bindingPattern g) := by
  intro ts hts
  have hname := suffix_skipWord "mut" (suffix_skipWord "ref" hts)
  refine .ite (.bindPair (forward_eatAnyWord _ hname) ?pattern)
    (.bindPair (forward_eatIdentifier _ hname) ?pattern)
  exact fun _ ts hts => .ite (hg _ _ (suffix_drop hts 1)) (.pure hts)

theorem forward_literalPattern (hg : g.Forward whole) : Forward whole (literalPattern g) := by
  intro ts hts
  refine .bindPair (forward_rangeBound hg ts hts) fun _ ts hts => .ite .none (.ite ?_ (.pure hts))
  exact .bindPair (forward_rangeEnd hg ts hts) fun _ _ hts => .pure hts

theorem forward_patternRule (hg : g.Forward whole) : Forward whole (patternRule g) := by
  intro ts hts
  have hlist : ∀ d, Within whole (between d (patternList g) ts) :=
    fun d => forward_between d (forward_patternList hg) ts hts
  refine .ite (forward_pathPattern hg ts hts) (.ite (.some (suffix_drop hts 1)) ?_)
  refine .ite (hg _ _ (suffix_drop hts 1)) (.ite (forward_literalPattern hg ts hts) ?_)
  refine .ite (forward_bindingPattern hg ts hts) (.ite ?_ (.ite ?_ (.ite ?_ ?_)))
  · exact hg _ _ (suffix_skipWord "mut" (suffix_drop hts 1))
  · exact (hlist _).map fun _ => rfl
  · exact (hlist _).map fun _ => rfl
  · exact .ite ((forward_rangeEnd hg ts hts).map fun _ => rfl) .none

theorem forward_patternsRule (hg : g.Forward whole) : Forward whole (patternsRule g) := by
  intro ts hts
  refine .bindPair (hg _ _ (suffix_skipPunct "|" hts)) fun first ts hts => ?_
  refine .bindPair (forward_many _ (fun ts hts => hg _ _ (suffix_drop hts 1)) ts hts) ?_
  exact fun _ _ hts => .pure hts

/-! ### Operators -/

theorem forward_tighterOperators (hg : g.Forward whole) (braces : Bool) (level fuel : Nat)
    (form : Form) :
    Forward whole (tighterOperators g braces level fuel form) := by
  intro ts hts
  fun_induction tighterOperators g braces level fuel form ts with
  | case1 => exact .some hts
  | case2 fuel form ts _ _ form' rest hread _ ih => exact ih (hg _ ts hts (form', rest) hread)
  | case3 fuel form ts _ _ form' rest hread _ => exact .some (hg _ ts hts (form', rest) hread)
  | case4 => exact .none
  | case5 => exact .some hts

theorem forward_rightOperand (hg : g.Forward whole) (braces : Bool) (level : Nat) :
    Forward whole (rightOperand g braces level) := by
  intro ts hts
  exact .bindPair (hg _ ts hts) fun form ts hts => forward_tighterOperators hg braces level _
    form ts hts

theorem forward_rangeOperator (hg : g.Forward whole) (braces : Bool) :
    Forward whole (rangeOperator g braces) := by
  intro ts hts
  have hbehind := suffix_drop hts (if peekPunct "..=" ts || peekPunct "..." ts then 3 else 2)
  refine .ite (.pure hbehind) ?_
  exact .bindPair (forward_rightOperand hg braces 2 _ hbehind) fun _ _ hts => .pure hts

theorem forward_operatorsRule (hg : g.Forward whole) (braces : Bool) (level : Nat) (left : Form) :
    Forward whole (operatorsRule g braces level left) := by
  intro ts hts
  refine .ite (.some hts) ?_
  split
  · refine .ite (.some hts) (.ite .none ?_)
    exact .bindPair (forward_rightOperand hg braces _ _ (suffix_drop hts _))
      fun _ ts hts => hg _ ts hts
  · refine .ite ?_ (.ite ?_ (.ite ?_ (.some hts)))
    · exact .bindPair (forward_rightOperand hg braces 1 _ (suffix_drop hts 1))
        fun _ ts hts => hg _ ts hts
    · exact .bindPair (forward_rangeOperator hg braces ts hts) fun _ ts hts => hg _ ts hts
    · exact .bind (hg.skip _ _ (suffix_drop hts 1)) fun ts hts => .ite .none (hg _ ts hts)

theorem forward_expressionRule (hg : g.Forward whole) (braces : Bool) :
    Forward whole (expressionRule g braces) :=
  fun ts hts => .bindPair (hg _ ts hts) fun _ ts hts => hg _ ts hts

/-! ### Atoms -/

theorem forward_expressionList (hg : g.Forward whole) (d : Delimiter) :
    Forward whole (expressionList g d) :=
  fun ts hts => (forward_between d (forward_commaList (hg _)) ts hts).snd

theorem forward_skipLabel : Forward whole skipLabel := by
  intro ts hts
  exact forward_optionally _ (fun ts hts => forward_eatPunct ":" _ (suffix_drop hts 1)) ts hts

theorem forward_attributedBlock (hg : g.Forward whole) : Forward whole (attributedBlock g) := by
  intro ts hts
  refine (forward_between .brace (fun ts hts => ?_) ts hts).snd
  exact .bind (forward_skipInnerAttributes hg ts hts) fun ts hts => hg _ ts hts

theorem forward_conditional (hg : g.Forward whole) : Forward whole (conditional g) := by
  intro ts hts
  have hbranch : Forward whole (fun ts => do
      let ts ← g.skip (.expression false) (← eatWord "if" ts)
      g.skip .block ts) := by
    intro ts hts
    refine .bind (forward_eatWord "if" ts hts) fun ts hts => ?_
    exact .bind (hg.skip _ ts hts) fun ts hts => hg.skip _ ts hts
  refine .bind (hbranch ts hts) fun ts hts => ?_
  refine .bindPair (forward_many _ (fun ts hts => ?_) ts hts) fun _ ts hts => ?_
  · exact (hbranch _ (suffix_drop hts 1)).map fun _ => rfl
  · exact forward_optionally _ (hg.skipBehind _) ts hts

theorem forward_arm (hg : g.Forward whole) : Forward whole (arm g) := by
  intro ts hts
  refine .bind (forward_skipAttributes hg ts hts) fun ts hts => ?_
  refine .bind (hg.skip _ ts hts) fun ts hts => ?_
  refine .bind (forward_optionally _ (hg.skipBehind _) ts hts) fun ts hts => ?_
  refine .bind (forward_eatPunct "=>" ts hts) fun ts hts => ?_
  refine .bindPair (hg _ ts hts) fun form ts hts => .ite (.pure (suffix_skipPunct "," hts)) ?_
  exact .bind (forward_eatPunct "," ts hts) fun _ hts => .pure hts

theorem forward_matchExpression (hg : g.Forward whole) : Forward whole (matchExpression g) := by
  intro ts hts
  refine .bind (forward_eatWord "match" ts hts) fun ts hts => ?_
  refine .bind (hg.skip _ ts hts) fun ts hts => ?_
  refine .bindPair (forward_between .brace (fun ts hts => ?_) ts hts) fun _ _ hts => .pure hts
  exact .bind (forward_skipInnerAttributes hg ts hts) fun ts hts =>
    forward_many _ (forward_arm hg) ts hts

theorem forward_forLoop (hg : g.Forward whole) : Forward whole (forLoop g) := by
  intro ts hts
  refine .bind (forward_eatWord "for" ts hts) fun ts hts => ?_
  refine .bind (hg.skip _ ts hts) fun ts hts => ?_
  refine .bind (forward_eatWord "in" ts hts) fun ts hts => ?_
  exact .bind (hg.skip _ ts hts) fun ts hts => forward_attributedBlock hg ts hts

theorem forward_whileLoop (hg : g.Forward whole) : Forward whole (whileLoop g) := by
  intro ts hts
  refine .bind (forward_eatWord "while" ts hts) fun ts hts => ?_
  exact .bind (hg.skip _ ts hts) fun ts hts => forward_attributedBlock hg ts hts

theorem forward_closureParameter (hg : g.Forward whole) : Forward whole (closureParameter g) := by
  intro ts hts
  refine .bind (forward_skipAttributes hg ts hts) fun ts hts => ?_
  exact .bind (hg.skip _ ts hts) fun ts hts => forward_optionally _ (hg.skipBehind _) ts hts

theorem forward_closure (hg : g.Forward whole) (braces : Bool) :
    Forward whole (closure g braces) := by
  intro ts hts
  refine .bind (forward_optionally _ (forward_boundLifetimes hg) ts hts) fun ts hts => ?_
  have hbar := suffix_skipWord "move"
    (suffix_skipWord "async" (suffix_skipWord "static" (suffix_skipWord "const" hts)))
  refine .bind (forward_eatPunct "|" _ hbar) fun ts hts => ?_
  refine .bindPair (forward_many _ (fun ts hts => ?_) ts hts) fun _ ts hts => ?_
  · refine .bind (forward_closureParameter hg ts hts) fun ts hts => .ite (.pure hts) ?_
    exact .bind (forward_eatPunct "," ts hts) fun _ hts => .pure hts
  · refine .bind (forward_eatPunct "|" ts hts) fun ts hts => .ite ?_ (hg.skip _ ts hts)
    exact .bindPair (forward_returnType hg true ts hts) fun _ ts hts => hg.skip _ ts hts

theorem forward_fieldValue (hg : g.Forward whole) : Forward whole (fieldValue g) := by
  intro ts hts
  refine .ite (.ite (.pure (suffix_drop hts 2)) ?_) ?_
  · exact .bind (hg.skip _ _ (suffix_drop hts 2)) fun ts hts => .ite (.pure hts) .none
  · refine .bind (forward_skipAttributes hg ts hts) fun ts hts => ?_
    split
    · refine .bind (forward_eatPunct ":" _ (suffix_of_cons hts)) fun ts hts => ?_
      exact .bind (hg.skip _ ts hts) fun _ hts => .pure hts
    · refine .bindPair (forward_eatIdentifier _ hts) fun _ ts hts => .ite ?_ (.pure hts)
      exact .bind (hg.skip _ _ (suffix_drop hts 1)) fun _ hts => .pure hts

theorem forward_pathExpression (hg : g.Forward whole) (braces : Bool) :
    Forward whole (pathExpression g braces) := by
  intro ts hts
  refine .bindPair (forward_path hg true ts hts) fun shape ts hts => .ite ?_ (.ite ?_ (.pure hts))
  · exact .bind (forward_eatGroup _ (suffix_drop hts 1)) fun _ hts => .pure hts
  · refine .bindPair (forward_between .brace (forward_commaList (forward_fieldValue hg)) ts hts) ?_
    exact fun _ _ hts => .pure hts

theorem forward_arrayExpression (hg : g.Forward whole) : Forward whole (arrayExpression g) := by
  intro ts hts
  refine (forward_between .bracket (fun ts hts => .ite (.some hts) ?_) ts hts).snd
  refine .bind (hg.skip _ ts hts) fun ts hts => .ite ?_ (.ite (.pure hts) ?_)
  · exact .bind (hg.skip _ _ (suffix_drop hts 1)) fun _ hts => .pure hts
  · refine .bind (forward_eatPunct "," ts hts) fun ts hts => ?_
    exact .bindPair (forward_commaList (hg _) ts hts) fun _ _ hts => .pure hts

theorem forward_jumpValue (hg : g.Forward whole) (braces : Bool) :
    Forward whole (jumpValue g braces) :=
  fun ts hts => forward_optionally _ (hg.skip _) ts hts

theorem forward_letCondition (hg : g.Forward whole) (braces : Bool) :
    Forward whole (letCondition g braces) := by
  intro ts hts
  refine .bind (hg.skip _ _ (suffix_drop hts 1)) fun ts hts => ?_
  refine .bind (forward_eatPunct "=" ts hts) fun ts hts => ?_
  exact .bindPair (hg _ ts hts) fun _ ts hts => hg.skip _ ts hts

theorem forward_labelled (hg : g.Forward whole) : Forward whole (labelled g) := by
  intro ts hts
  refine .bind (forward_skipLabel ts hts) fun ts hts => ?_
  refine .ite (forward_whileLoop hg ts hts) (.ite (forward_forLoop hg ts hts) ?_)
  exact .ite (forward_attributedBlock hg _ (suffix_drop hts 1)) (forward_attributedBlock hg ts hts)

theorem forward_atom (hg : g.Forward whole) (braces : Bool) : Forward whole (atom g braces) := by
  intro ts hts
  -- whatever form an atom is given, what it leaves is left by its reader
  have hform : ∀ (form : Form) {r : Option Tokens}, Within whole r →
      Within whole (r.map fun ts => (form, ts)) := fun _ _ h => h.map fun _ => rfl
  have hbehind := suffix_drop hts 1
  have hblock := forward_attributedBlock hg _ hbehind
  refine .ite (hform _ (forward_eatLiteral ts hts))
    (.ite ?_ (.ite ?_ (.ite ?_ (.ite ?_ (.ite ?_ ?_)))))
  · exact hform _ (hg.skip _ _ (suffix_skipWord "move" hbehind))
  · exact hform _ (forward_closure hg braces ts hts)
  · exact forward_pathExpression hg braces ts hts
  · exact hform _ (forward_expressionList hg .parenthesis ts hts)
  · exact .ite .none (hform _ (forward_jumpValue hg braces _ (suffix_skipLifetime hbehind)))
  refine .ite (.some (suffix_skipLifetime hbehind))
    (.ite (hform _ (forward_jumpValue hg braces _ hbehind)) ?_)
  refine .ite (hform _ (hg.skip _ _ hbehind))
    (.ite (hform _ (forward_arrayExpression hg ts hts)) ?_)
  refine .ite (hform _ (forward_letCondition hg braces ts hts))
    (.ite (hform _ (forward_conditional hg ts hts)) ?_)
  refine .ite (hform _ (forward_whileLoop hg ts hts))
    (.ite (hform _ (forward_forLoop hg ts hts)) ?_)
  refine .ite (hform _ hblock)
    (.ite (hform _ (forward_matchExpression hg ts hts)) (.ite (hform _ hblock) ?_))
  refine .ite (hform _ (hg.skip _ _ hbehind))
    (.ite (hform _ (forward_attributedBlock hg ts hts)) ?_)
  refine .ite (forward_rangeOperator hg braces ts hts) (.ite (.some hbehind) ?_)
  exact .ite (hform _ (forward_labelled hg ts hts)) .none

/-! ### Trailers -/

theorem forward_memberTrailer (hg : g.Forward whole) : Forward whole (memberTrailer g) := by
  intro ts hts
  unfold memberTrailer
  split
  · exact .some (suffix_of_cons hts)
  · exact .some (suffix_of_cons hts)
  · refine .ite (.some (suffix_drop hts 1)) ?_
    refine .bindPair (forward_eatIdentifier ts hts) fun _ ts hts => .ite ?_ ?_
    · refine .bind (hg.skip _ _ (suffix_drop hts 2)) fun ts hts => ?_
      exact forward_expressionList hg .parenthesis ts hts
    · exact forward_optionally _ (forward_expressionList hg .parenthesis) ts hts

theorem forward_trailersRule (hg : g.Forward whole) (left : Form) :
    Forward whole (trailersRule g left) := by
  intro ts hts
  refine .ite ?_ (.ite ?_ (.ite ?_ (.ite (hg _ _ (suffix_drop hts 1)) (.some hts))))
  · exact .bind (forward_expressionList hg .parenthesis ts hts) fun ts hts => hg _ ts hts
  · exact .bind (forward_memberTrailer hg _ (suffix_drop hts 1)) fun ts hts => hg _ ts hts
  · exact .bindPair (forward_between .bracket (hg _) ts hts) fun _ ts hts => hg _ ts hts

theorem forward_operandRule (hg : g.Forward whole) (braces : Bool) :
    Forward whole (operandRule g braces) := by
  intro ts hts
  refine .bind (forward_skipAttributes hg ts hts) fun ts hts => .ite ?_ (.ite ?_ ?_)
  · have hoperand := suffix_drop hts 1
    refine .bind
      (hg.skip _ _ (suffix_ite (suffix_drop hoperand 2) (suffix_skipWord "mut" hoperand))) ?_
    exact fun _ hts => .pure hts
  · exact .bind (hg.skip _ _ (suffix_drop hts 1)) fun _ hts => .pure hts
  · exact .bindPair (forward_atom hg braces ts hts) fun _ ts hts => hg _ ts hts

/-! ### Statements -/

theorem forward_statementRule (hg : g.Forward whole) : Forward whole (statementRule g) := by
  intro ts hts
  refine .bind (forward_skipAttributes hg ts hts) fun ts hts => .ite ?_ ?_
  · refine .bindPair (forward_atom hg true ts hts) fun _ ts hts => .ite ?_ (.pure hts)
    exact .bindPair (hg _ ts hts) fun _ ts hts => hg _ ts hts
  · exact .bindPair (hg _ ts hts) fun _ ts hts => hg _ ts hts

theorem forward_letStatement (hg : g.Forward whole) : Forward whole (letStatement g) := by
  intro ts hts
  have hvalue : Forward whole (fun ts => do
      let ts ← g.skip (.expression true) (ts.drop 1)
      optionally (peekWord "else" ts) (fun ts => g.skip .block (ts.drop 1)) ts) := by
    intro ts hts
    refine .bind (hg.skip _ _ (suffix_drop hts 1)) fun ts hts => ?_
    exact forward_optionally _ (hg.skipBehind _) ts hts
  refine .bind (hg.skip _ _ (suffix_drop hts 1)) fun ts hts => ?_
  refine .bind (forward_optionally _ (hg.skipBehind _) ts hts) fun ts hts => ?_
  exact .bind (forward_optionally _ hvalue ts hts) fun ts hts => forward_eatPunct ";" ts hts

theorem suffix_of_callStart {ts group : Tokens} (hts : ts <:+ whole)
    (h : callStart ts = .braced group) :
    group <:+ whole := by
  unfold callStart at h
  split at h
  · next rest hrest =>
    have hgroup : next rest <:+ whole := suffix_next (forward_modulePath ts hts rest hrest)
    split at h
    · dsimp only at h
      split at h
      · cases h
      · split at h
        · exact CallStart.braced.inj h ▸ hgroup
        · cases h
    · cases h
  · cases h

theorem forward_statementItem (hg : g.Forward whole) : Forward whole (statementItem g) := by
  intro ts hts
  refine .bind (forward_skipAttributes hg ts hts) fun behind hbehind => ?_
  split
  · next group hgroup =>
    refine .bind (forward_eatGroup _ (suffix_of_callStart hbehind hgroup)) fun _ hts => ?_
    exact .pure (suffix_skipPunct ";" hts)
  · refine .ite (.bind (forward_letStatement hg _ hbehind) fun _ hts => .pure hts) (.ite ?_ ?_)
    · exact .bind (hg.skip _ ts hts) fun _ hts => .pure hts
    · refine .bindPair (hg _ _ hbehind) fun form ts hts => .ite (.pure (suffix_drop hts 1)) ?_
      exact .ite (.pure hts) .none

theorem forward_statementsRule (hg : g.Forward whole) : Forward whole (statementsRule g) := by
  intro ts hts
  refine (forward_many _ (fun ts hts => ?_) ts hts).map fun _ => rfl
  exact .ite (.some (suffix_drop hts 1)) (forward_statementItem hg ts hts)

theorem forward_blockRule (hg : g.Forward whole) : Forward whole (blockRule g) :=
  forward_between .brace (hg _)

end Companion.Source
