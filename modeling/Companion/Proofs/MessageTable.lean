import Mathlib
import Companion.MessageTable
import Companion.Proofs.Directive.Index

/-! What a message table holds, said of the arguments of its directive. The locales are the distinct
names other than `code` and `default` in order of first occurrence, each with the last value given
for it. The fallback is the last value of the argument that `default` names, and the first locale's
if `default` names none (`asked_of_ofDirective`). -/
namespace Companion

/-! ### What a directive asks for -/

namespace Directive

/-- The locales that the directive gives messages for, in order of first occurrence. -/
def localeNames (d : Directive) : List String :=
  (d.arguments.map Argument.name).eraseDups.filter fun name => name ≠ "code" && name ≠ "default"

/-- The argument that the last `default` names; it cannot name itself. -/
def namedFallback? (d : Directive) : Option Argument :=
  ((d.argument? "default").bind fun a => d.argument? a.value.plain).filter fun a =>
    a.name ≠ "default"

/-- The argument that answers for every locale without a message. -/
def fallback? (d : Directive) : Option Argument :=
  d.namedFallback?.or (d.localeNames.head?.bind d.argument?)

/-- The value of the last argument of the given name. -/
def last? (d : Directive) (name : String) : Option Scalar :=
  (d.arguments.filter (·.name = name)).getLast?.map Argument.value

/-- A name with its last value. -/
def message? (d : Directive) (name : String) : Option Message :=
  (d.last? name).map (Message.mk name)

/-- What the last `default` names, unless it names itself or no argument. -/
def default? (d : Directive) : Option Message :=
  (d.last? "default").bind fun v => if v.plain = "default" then none else d.message? v.plain

theorem last?_eq (d : Directive) (name : String) :
    d.last? name = (d.argument? name).map Argument.value := by
  rw [last?, argument?, List.getLast?_eq_head?_reverse, ← List.filter_reverse, List.head?_filter]
  rfl

theorem message?_eq (d : Directive) (name : String) :
    d.message? name = (d.argument? name).map fun a => ⟨a.name, a.value⟩ := by
  rw [message?, last?_eq]
  cases ha : d.argument? name with
  | none => rfl
  | some a => simp [name_of_argument? ha]

/-- `default` names an argument by its text. -/
theorem default?_eq (d : Directive) :
    d.default? = d.namedFallback?.map fun a => ⟨a.name, a.value⟩ := by
  rw [default?, namedFallback?, last?_eq]
  cases d.argument? "default" with
  | none => rfl
  | some v =>
    simp only [Option.map_some, Option.bind_some, message?_eq]
    cases ha : d.argument? v.value.plain with
    | none => simp
    | some a =>
      rw [← name_of_argument? ha]
      by_cases hself : a.name = "default" <;> simp [hself]

theorem nodup_localeNames (d : Directive) : d.localeNames.Nodup := by
  rw [localeNames, ← names_index]
  exact (nodup_names_index d).filter _

theorem argument?_of_mem_index {d : Directive} {a : Argument} (h : a ∈ d.index) :
    d.argument? a.name = some a := by
  rw [← find?_index]
  cases hfind : d.index.find? (·.name = a.name) with
  | none =>
    have hno := List.find?_eq_none.1 hfind a h
    simp at hno
  | some b =>
    have hname : b.name = a.name := by simpa using List.find?_some hfind
    rw [List.inj_on_of_nodup_map (nodup_names_index d) (List.mem_of_find?_eq_some hfind) h hname]

theorem argument?_of_fallback? {d : Directive} {a : Argument} (h : d.fallback? = some a) :
    d.argument? a.name = some a := by
  rw [fallback?, Option.or_eq_some_iff] at h
  rcases h with h | ⟨-, h⟩
  · obtain ⟨h, -⟩ := Option.filter_eq_some_iff.1 h
    obtain ⟨b, -, h⟩ := Option.bind_eq_some_iff.1 h
    rw [name_of_argument? h]
    exact h
  · obtain ⟨l, -, h⟩ := Option.bind_eq_some_iff.1 h
    rw [name_of_argument? h]
    exact h

end Directive

namespace MessageTable
open Directive

/-- The message of a table as the argument that gave it. -/
def argumentOf (m : Message) : Argument := ⟨m.locale, m.value⟩

/-- The table is the one that a directive on a type asks for. -/
structure Asked (type : AnnotatedType) (d : Directive) (t : MessageTable) : Prop where
  type : t.type = type.name
  locales : t.locales.map Message.locale = d.localeNames
  messages : ∀ m ∈ t.locales, d.argument? m.locale = some (argumentOf m)
  fallback : d.fallback? = some (argumentOf t.fallback)
  code : ∀ c ∈ t.code, c.acceptable = true

/-! ### Locales and fallback -/

theorem lookup?_index (d : Directive) (name : String) : lookup? d.index name = d.argument? name :=
  find?_index d name

theorem locale_localesOf (d : Directive) :
    (localesOf d.index).map Message.locale = d.localeNames := by
  rw [localeNames, ← names_index, List.filter_map, localesOf, List.map_map]
  rfl

theorem argument?_of_mem_localesOf {d : Directive} {m : Message} (h : m ∈ localesOf d.index) :
    d.argument? m.locale = some (argumentOf m) := by
  obtain ⟨a, ha, rfl⟩ := List.mem_map.1 h
  exact argument?_of_mem_index (List.mem_of_mem_filter ha)

theorem namedDefault?_index (d : Directive) (tag : String) :
    namedDefault? d.index tag = if tag = "default" then none else d.message? tag := by
  rw [namedDefault?, lookup?_index, message?_eq]
  cases ha : d.argument? tag with
  | none => simp
  | some a =>
    obtain rfl := name_of_argument? ha
    by_cases htag : a.name = "default" <;> simp [htag]

theorem result_fallbackOf (type : String) (d : Directive) (first : Message) :
    (fallbackOf type d.index first).result = .ok (d.default?.getD first) := by
  rw [fallbackOf, lookup?_index, default?, last?_eq]
  cases d.argument? "default" with
  | none => rfl
  | some a =>
    simp only [namedDefault?_index, Option.map_some, Option.bind_some]
    split
    · next m hm =>
      rw [hm]
      rfl
    · next hm =>
      rw [hm]
      rfl

theorem fallback?_of_localesOf {d : Directive} {first : Message} {others : List Message}
    (hlocales : localesOf d.index = first :: others) :
    d.fallback? = some (argumentOf (d.default?.getD first)) := by
  rw [default?_eq, fallback?]
  cases d.namedFallback? with
  | some a => rfl
  | none =>
    have hhead : d.localeNames.head? = some first.locale := by
      rw [← locale_localesOf, hlocales]
      rfl
    have hfirst : first ∈ localesOf d.index := by
      rw [hlocales]
      exact List.mem_cons_self
    rw [hhead]
    exact argument?_of_mem_localesOf hfirst

/-- **The table of a directive is the one that its arguments ask for.** -/
theorem asked_of_ofDirective {type : AnnotatedType} {d : Directive} {t : MessageTable}
    (h : (ofDirective type d).result = .ok (some t)) : Asked type d t := by
  unfold ofDirective at h
  dsimp only at h
  split at h
  · cases h
  · next first others hlocales =>
    split at h
    · cases h
    · next hcode =>
      rw [Logged.result_bind, result_fallbackOf] at h
      obtain rfl := Option.some.inj (Except.ok.inj h)
      refine ⟨rfl, locale_localesOf d, fun m hm => argument?_of_mem_localesOf hm,
        fallback?_of_localesOf hlocales, ?_⟩
      intro c hc
      have hno := Option.filter_eq_none_iff.1 hcode c hc
      simpa using hno

end MessageTable
end Companion
