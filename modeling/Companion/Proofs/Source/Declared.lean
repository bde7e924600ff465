import Companion.Source.File
import Companion.Proofs.Source.Grammar.Items
import Companion.Proofs.Source.Words

/-! Names of declared types. All rules of the grammar are read forward, however deep they are nested
(`forward_readers`), so the name of a type that a file declares is a word of the file and no
keyword. The lexer gives words only as they are spelled: every type that a text declares has an
identifier for a name (`isIdentifier_of_declarations?`). -/
namespace Companion.Source

variable {whole : Tokens} {g : Readers}

/-- **A rule is read forward if the rules in it are.** -/
theorem forward_grammar (hg : g.Forward whole) : (grammar g).Forward whole := by
  intro rule
  cases rule with
  | type plus => exact forward_typeRule hg plus
  | bound => exact forward_bound hg
  | generics => exact forward_generics hg
  | arguments => exact forward_genericArguments hg
  | pattern => exact forward_patternRule hg
  | patterns => exact forward_patternsRule hg
  | expression braces => exact forward_expressionRule hg braces
  | operand braces => exact forward_operandRule hg braces
  | operators braces level left => exact forward_operatorsRule hg braces level left
  | trailers left => exact forward_trailersRule hg left
  | statement => exact forward_statementRule hg
  | block => exact forward_blockRule hg
  | statements => exact forward_statementsRule hg
  | item => exact fun ts hts => (declares_itemRule hg hts).within

theorem forward_readers (whole : Tokens) (depth : Nat) : (readers depth).Forward whole := by
  induction depth with
  | zero => exact fun _ _ _ => .none
  | succ depth ih => exact forward_grammar ih

theorem named_readers (depth : Nat) {ts : Tokens} (hts : ts <:+ whole) :
    Yields (Form.Named whole) (readers depth .item ts) := by
  cases depth with
  | zero => exact .none
  | succ depth => exact (declares_itemRule (forward_readers whole depth) hts).named

/-- The types that the items of a file declare have their names from the tokens. -/
theorem named_fileItems {ts : Tokens} {forms : List Form} (h : fileItems ts = some forms) :
    ∀ form ∈ forms, form.Named ts := by
  obtain ⟨behind, hbehind, h⟩ := Option.bind_eq_some_iff.1 h
  obtain ⟨⟨items, rest⟩, hitems, h⟩ := Option.bind_eq_some_iff.1 h
  have hforward := forward_readers ts (rulesPerToken * (ts.length + 1))
  have hsuffix : behind <:+ ts := forward_skipInnerAttributes hforward ts (List.suffix_refl ts)
    behind hbehind
  have hnamed := forall_mem_of_many (hforward .item) (fun us hus => named_readers _ hus)
    hsuffix hitems
  dsimp only at h
  split at h
  · exact Option.some.inj h ▸ hnamed
  · cases h

/-- **The types that a text declares have identifiers for names.** -/
theorem isIdentifier_of_declarations? {text : String} {ds : List Declaration}
    (h : declarations? text = some ds) : ∀ d ∈ ds, IsIdentifier d.name := by
  obtain ⟨tokens, htokens, h⟩ := Option.bind_eq_some_iff.1 h
  obtain ⟨forms, hforms, h⟩ := Option.bind_eq_some_iff.1 h
  obtain rfl := Option.some.inj h
  intro d hd
  obtain ⟨form, hform, hdeclared⟩ := List.mem_filterMap.1 hd
  split at hdeclared
  · obtain ⟨hmem, hname⟩ := named_fileItems hforms _ hform d (by rw [hdeclared])
    exact ⟨hname, words_lex? htokens d.name hmem⟩
  · cases hdeclared

end Companion.Source
