import Mathlib
import Companion.Directive

/-! The index of a directive has the names of its arguments in order of first occurrence
(`names_index`), and looking a name up in it gives the last argument of that name (`find?_index`).

The directive itself answers such a question by a search from its end. `index_answers` says that the
two agree, what they find, and that a directive made of the entries of an index has that index. -/
namespace Companion.Directive

/-! ### One argument -/

theorem names_put (a : Argument) (entries : List Argument) :
    (put a entries).map Argument.name =
      if a.name ∈ entries.map Argument.name then entries.map Argument.name
      else entries.map Argument.name ++ [a.name] := by
  induction entries with
  | nil => rfl
  | cons b entries ih =>
    unfold put
    by_cases hb : b.name = a.name
    · simp [hb]
    · have hne : ¬a.name = b.name := Ne.symm hb
      simp only [hb, if_false, List.map_cons, ih, List.mem_cons, hne, false_or]
      split <;> simp

theorem find?_put (a : Argument) (entries : List Argument) (name : String) :
    (put a entries).find? (·.name = name) =
      if a.name = name then some a else entries.find? (·.name = name) := by
  induction entries with
  | nil =>
    unfold put
    by_cases ha : a.name = name <;> simp [ha]
  | cons b entries ih =>
    unfold put
    by_cases hb : b.name = a.name
    · by_cases ha : a.name = name
      · simp [hb, ha]
      · simp [hb, ha]
    · by_cases hname : b.name = name
      · have ha : ¬a.name = name := fun h => hb (hname.trans h.symm)
        rw [if_neg hb, if_neg ha]
        simp [hname]
      · simp [hb, hname, ih]

theorem put_of_new {a : Argument} {entries : List Argument}
    (h : a.name ∉ entries.map Argument.name) :
    put a entries = entries ++ [a] := by
  induction entries with
  | nil => rfl
  | cons b entries ih =>
    rw [List.map_cons, List.mem_cons, not_or] at h
    rw [put, if_neg (Ne.symm h.1), ih h.2, List.cons_append]

/-! ### All arguments -/

theorem eraseDups_concat (names : List String) (name : String) :
    (names ++ [name]).eraseDups = if name ∈ names then names.eraseDups
      else names.eraseDups ++ [name] := by
  rw [List.eraseDups_append]
  by_cases h : name ∈ names
  · simp [h, List.removeAll]
  · simp [h, List.removeAll, List.eraseDups_cons]

theorem index_concat (name : String) (arguments : List Argument) (a : Argument) :
    index ⟨name, arguments ++ [a]⟩ = put a (index ⟨name, arguments⟩) := by
  simp [index]

theorem names_index (d : Directive) :
    d.index.map Argument.name = (d.arguments.map Argument.name).eraseDups := by
  obtain ⟨name, arguments⟩ := d
  induction arguments using List.reverseRecOn with
  | nil => rfl
  | append_singleton arguments a ih =>
    dsimp only at ih ⊢
    rw [index_concat, names_put, ih, List.map_append, List.map_singleton, eraseDups_concat]
    simp only [List.mem_eraseDups]

theorem mem_names_index {d : Directive} {name : String} :
    name ∈ d.index.map Argument.name ↔ name ∈ d.arguments.map Argument.name := by
  rw [names_index, List.mem_eraseDups]

theorem pairwise_names_index (d : Directive) : (d.index.map Argument.name).Pairwise fun m n =>
    (d.arguments.map Argument.name).idxOf m < (d.arguments.map Argument.name).idxOf n := by
  obtain ⟨directive, arguments⟩ := d
  induction arguments using List.reverseRecOn with
  | nil => exact List.Pairwise.nil
  | append_singleton arguments a ih =>
    dsimp only at ih ⊢
    have hmem {n : String} (h : n ∈ (index ⟨directive, arguments⟩).map Argument.name) :
        n ∈ arguments.map Argument.name := mem_names_index.1 h
    -- One more argument moves no first occurrence, and a new name occurs behind all others.
    have hkept : ((index ⟨directive, arguments⟩).map Argument.name).Pairwise fun m n =>
        (arguments.map Argument.name ++ [a.name]).idxOf m <
          (arguments.map Argument.name ++ [a.name]).idxOf n := by
      refine ih.imp_of_mem fun hm hn hlt => ?_
      rwa [List.idxOf_append_of_mem (hmem hm), List.idxOf_append_of_mem (hmem hn)]
    rw [index_concat, names_put, List.map_append, List.map_singleton]
    split
    · exact hkept
    · next hnew =>
      refine List.pairwise_append.2 ⟨hkept, List.pairwise_singleton _ _, ?_⟩
      intro m hm n hn
      obtain rfl := List.mem_singleton.1 hn
      have hout : a.name ∉ arguments.map Argument.name := fun h => hnew (mem_names_index.2 h)
      rw [List.idxOf_append_of_mem (hmem hm), List.idxOf_append_of_notMem hout]
      exact Nat.lt_add_right _ (List.idxOf_lt_length_of_mem (hmem hm))

theorem nodup_names_index (d : Directive) : (d.index.map Argument.name).Nodup := by
  refine (pairwise_names_index d).imp ?_
  rintro m _ hlt rfl
  exact Nat.lt_irrefl _ hlt

theorem index_eq_self {name : String} {arguments : List Argument}
    (h : (arguments.map Argument.name).Nodup) :
    index ⟨name, arguments⟩ = arguments := by
  induction arguments using List.reverseRecOn with
  | nil => rfl
  | append_singleton arguments a ih =>
    rw [List.map_append, List.map_singleton, List.nodup_append] at h
    obtain ⟨hfront, -, hnew⟩ := h
    rw [index_concat, ih hfront, put_of_new]
    exact fun hin => hnew _ hin _ (List.mem_singleton_self _) rfl

/-! ### Looking a name up -/

theorem find?_index (d : Directive) (name : String) :
    d.index.find? (·.name = name) = d.argument? name := by
  obtain ⟨directive, arguments⟩ := d
  induction arguments using List.reverseRecOn with
  | nil => rfl
  | append_singleton arguments a ih =>
    rw [index_concat, find?_put, ih]
    by_cases ha : a.name = name <;> simp [argument?, ha]

theorem name_of_argument? {d : Directive} {name : String} {a : Argument}
    (h : d.argument? name = some a) :
    a.name = name := by
  simpa using List.find?_some h

/-- The argument found is the last of its name in the text. -/
theorem argument?_eq_some_iff {d : Directive} {name : String} {a : Argument} :
    d.argument? name = some a ↔
    ∃ before behind, d.arguments = before ++ a :: behind ∧ a.name = name ∧
      ∀ b ∈ behind, b.name ≠ name := by
  rw [argument?, List.find?_eq_some_iff_append]
  constructor
  · rintro ⟨hname, behind, before, hcut, hother⟩
    refine ⟨before.reverse, behind.reverse, ?_, by simpa using hname, by simpa using hother⟩
    rw [← List.reverse_reverse d.arguments, hcut]
    simp
  · rintro ⟨before, behind, hcut, hname, hother⟩
    exact ⟨by simpa using hname, behind.reverse, before.reverse, by simp [hcut], by
      simpa using hother⟩

/-- **The index and the search from the end answer alike.** Both find the last argument of a name,
or nothing. The entries of the index have the names of the arguments, each once and in order of
first occurrence, and a directive with these entries as its arguments has the same index. -/
theorem index_answers (d : Directive) :
    (∀ name, d.index.find? (·.name = name) = d.argument? name ∧ ∀ a, d.argument? name = some a ↔
      ∃ before behind, d.arguments = before ++ a :: behind ∧ a.name = name ∧
      ∀ b ∈ behind, b.name ≠ name) ∧
    (∀ name, name ∈ d.index.map Argument.name ↔ name ∈ d.arguments.map Argument.name) ∧
    (d.index.map Argument.name).Nodup ∧
    ((d.index.map Argument.name).Pairwise fun m n =>
      (d.arguments.map Argument.name).idxOf m < (d.arguments.map Argument.name).idxOf n) ∧
    index ⟨d.name, d.index⟩ = d.index :=
  ⟨fun name => ⟨find?_index d name, fun _ => argument?_eq_some_iff⟩, fun _ => mem_names_index,
    nodup_names_index d, pairwise_names_index d, index_eq_self (nodup_names_index d)⟩

end Companion.Directive
