import Mathlib
import Companion.Proofs.MessageTable
import Companion.Proofs.MessageTable.Representation

/-! What a directive asks for, as a function of its arguments as they are written. Every name counts
with the last value given for it. The locales are the distinct names other than `code` and
`default`, in the order in which they first occur. The table that is made through the index of the
arguments is the one that is asked for so, and it does not depend on where among the locales, and
how often, `code` and `default` are given (`ofDirective_eq_requested`). -/
namespace Companion

namespace Directive

/-! ### The arguments as they are written -/

/-- The locales with their messages. -/
def messages (d : Directive) : List Message := d.localeNames.filterMap d.message?

/-- The arguments that name locales. -/
def localeArguments (d : Directive) : List Argument :=
  d.arguments.filter fun a => a.name ≠ "code" && a.name ≠ "default"

/-! ### What moving `code` and `default` leaves -/

theorem filter_eraseDups (p : String → Bool) (names : List String) :
    names.eraseDups.filter p = (names.filter p).eraseDups := by
  induction names using List.reverseRecOn with
  | nil => rfl
  | append_singleton names name ih =>
    rw [eraseDups_concat, List.filter_append]
    by_cases hp : p name = true
    · have hmem : name ∈ names.filter p ↔ name ∈ names := by simp [hp]
      rw [List.filter_singleton, hp, cond_true, eraseDups_concat, ← ih]
      by_cases hold : name ∈ names <;> simp [hmem, hold, hp]
    · rw [List.filter_singleton, Bool.eq_false_iff.2 hp, cond_false, List.append_nil, ← ih]
      by_cases hold : name ∈ names <;> simp [hold, hp]

theorem localeNames_eq (d : Directive) :
    d.localeNames = (d.localeArguments.map Argument.name).eraseDups := by
  rw [localeNames, filter_eraseDups, localeArguments, List.filter_map]
  rfl

theorem last?_localeArguments (d : Directive) {name : String} (hcode : name ≠ "code")
    (hdefault : name ≠ "default") :
    d.last? name = (d.localeArguments.filter (·.name = name)).getLast?.map Argument.value := by
  rw [last?, localeArguments, List.filter_filter]
  congr 2
  refine List.filter_congr fun a _ => ?_
  by_cases ha : a.name = name <;> simp [ha, hcode, hdefault]

variable {d d' : Directive}

/-- A name other than `code` and `default` has the same message in directives with the same
locales. -/
theorem message?_congr (h : d'.localeArguments = d.localeArguments) {name : String}
    (hcode : name ≠ "code") (hdefault : name ≠ "default") : d'.message? name = d.message? name := by
  rw [message?, message?, last?_localeArguments d' hcode hdefault,
    last?_localeArguments d hcode hdefault, h]

theorem messages_congr (h : d'.localeArguments = d.localeArguments) : d'.messages = d.messages := by
  rw [messages, messages, localeNames_eq d', h, ← localeNames_eq]
  refine List.filterMap_congr fun name hname => ?_
  obtain ⟨-, hother⟩ := List.mem_filter.1 hname
  simp only [ne_eq, decide_not, Bool.and_eq_true, Bool.not_eq_true',
    decide_eq_false_iff_not] at hother
  exact message?_congr h hother.1 hother.2

theorem default?_congr (h : d'.localeArguments = d.localeArguments)
    (hcode : d'.last? "code" = d.last? "code") (hdefault : d'.last? "default" = d.last? "default") :
    d'.default? = d.default? := by
  rw [default?, default?, hdefault]
  refine Option.bind_congr fun v _ => ?_
  by_cases hself : v.plain = "default"
  · rw [if_pos hself, if_pos hself]
  · rw [if_neg hself, if_neg hself]
    by_cases htag : v.plain = "code"
    · rw [htag, message?, message?, hcode]
    · exact message?_congr h htag hself

end Directive

namespace MessageTable
open Directive

/-! ### The table that is asked for -/

/-- The table that a directive on a type asks for. -/
def requested (type : AnnotatedType) (d : Directive) :
    Except InvalidArgument (Option MessageTable) :=
  match d.messages with
  | [] => .ok none
  | first :: others =>
    match (d.last? "code").filter fun v => !type.underlying.represents v with
    | some v => .error ⟨type.name, d.name, "code", v, type.underlying.primitive⟩
    | none => .ok (some ⟨type.name, type.underlying,
        (d.last? "code").map (ErrorCode.mk type.underlying.primitive), d.default?.getD first,
        first :: others⟩)

theorem localesOf_index (d : Directive) : localesOf d.index = d.messages := by
  have hfound : ∀ ms : List Message, (∀ m ∈ ms, d.message? m.locale = some m) →
      (ms.map Message.locale).filterMap d.message? = ms := by
    intro ms hms
    induction ms with
    | nil => rfl
    | cons m ms ih =>
      obtain ⟨hm, hms⟩ := List.forall_mem_cons.1 hms
      rw [List.map_cons, List.filterMap_cons_some hm, ih hms]
  rw [messages, ← locale_localesOf, hfound]
  intro m hm
  rw [message?_eq, argument?_of_mem_localesOf hm]
  rfl

theorem code_index (type : AnnotatedType) (d : Directive) :
    ((lookup? d.index "code").map fun a => (⟨type.underlying.primitive, a.value⟩ : ErrorCode)) =
      (d.last? "code").map (ErrorCode.mk type.underlying.primitive) := by
  rw [lookup?_index, last?_eq, Option.map_map]
  rfl

/-- The code is refused that the type does not represent. -/
theorem refused_code (u : Underlying) (code : Option Scalar) :
    ((code.map (ErrorCode.mk u.primitive)).filter fun c => !c.acceptable) =
      (code.filter fun v => !u.represents v).map (ErrorCode.mk u.primitive) := by
  cases code with
  | none => rfl
  | some v =>
    by_cases hv : u.represents v = true <;> simp [Option.filter, ErrorCode.acceptable_eq, hv]

theorem result_ofDirective (type : AnnotatedType) (d : Directive) :
    (ofDirective type d).result = requested type d := by
  unfold ofDirective requested
  dsimp only
  rw [localesOf_index, code_index]
  cases d.messages with
  | nil => rfl
  | cons first others =>
    dsimp only
    rw [refused_code]
    cases (d.last? "code").filter fun v => !type.underlying.represents v with
    | some v => rfl
    | none =>
      dsimp only [Option.map_none]
      rw [Logged.result_bind, result_fallbackOf]
      rfl

/-- No locale is without a message. -/
theorem locale_messages (d : Directive) : d.messages.map Message.locale = d.localeNames := by
  rw [← localesOf_index, locale_localesOf]

/-- **The table of a directive is the one its arguments ask for.** -/
theorem ofDirective_eq_requested (type : AnnotatedType) (d : Directive) :
    (ofDirective type d).result = requested type d ∧ d.messages.map Message.locale = d.localeNames ∧
      ∀ d' : Directive, d'.name = d.name → d'.localeArguments = d.localeArguments →
        d'.last? "code" = d.last? "code" → d'.last? "default" = d.last? "default" →
        (ofDirective type d').result = (ofDirective type d).result := by
  refine ⟨result_ofDirective type d, locale_messages d, fun d' hname hlocales hcode hdefault => ?_⟩
  rw [result_ofDirective, result_ofDirective, requested, requested, messages_congr hlocales, hcode,
    default?_congr hlocales hcode hdefault, hname]

/-- A code that the type cannot have, given again; a default that names the code; one locale
twice. -/
def scattered : Directive :=
  ⟨"i18n",
    [⟨"code", .integer 300⟩, ⟨"en", .text "No"⟩, ⟨"default", .text "fr"⟩, ⟨"fr", .text "Non"⟩,
    ⟨"default", .text "code"⟩, ⟨"en", .text "None"⟩, ⟨"code", .integer 7⟩]⟩

/-- The same with code and default in front. -/
def gathered : Directive :=
  ⟨"i18n",
    [⟨"default", .text "code"⟩, ⟨"code", .integer 7⟩, ⟨"en", .text "No"⟩, ⟨"fr", .text "Non"⟩,
    ⟨"en", .text "None"⟩]⟩

theorem ofDirective_eq_requested_scattered :
    (ofDirective ⟨"Fault", .newtype "u8", []⟩ gathered).result =
        (ofDirective ⟨"Fault", .newtype "u8", []⟩ scattered).result ∧
      (ofDirective ⟨"Fault", .newtype "u8", []⟩ scattered).result =
        .ok (some ⟨"Fault", .newtype "u8", some ⟨"u8", .integer 7⟩, ⟨"code", .integer 7⟩,
          [⟨"en", .text "None"⟩, ⟨"fr", .text "Non"⟩]⟩) := by
  obtain ⟨hrequested, -, hmoved⟩ := ofDirective_eq_requested ⟨"Fault", .newtype "u8", []⟩ scattered
  refine ⟨hmoved gathered rfl (by decide) (by decide) (by decide), ?_⟩
  rw [hrequested]
  rfl

end MessageTable
end Companion
