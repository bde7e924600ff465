import Companion.FileTree.Folder
import Companion.Path

/-! Names in folders. A name is one step of a path: a path can lead to every entry of a folder in
which all names are steps (`Named`). The operations on folders keep this. -/
namespace Companion

namespace Path

/-- A name that is one step of a path: neither idle nor `..`, and without a slash. -/
def IsStep (name : RawText) : Prop :=
  isIdle name.toList = false ∧ name.toList ≠ [dot, dot] ∧ slash ∉ name.toList

instance (name : RawText) : Decidable (IsStep name) := inferInstanceAs (Decidable (_ ∧ _))

theorem slash_not_mem_splitSlash (cs : List UInt8) : ∀ part ∈ splitSlash cs, slash ∉ part := by
  induction cs with
  | nil => simp [splitSlash]
  | cons c cs ih =>
    intro part hpart
    rw [splitSlash] at hpart
    split at hpart
    · rcases List.mem_cons.1 hpart with rfl | hpart
      · simp
      · exact ih part hpart
    · next hc =>
      split at hpart
      · obtain rfl := List.mem_singleton.1 hpart
        simpa using fun h : slash = c => hc h.symm
      · next p ps heq =>
        rw [heq] at ih
        rcases List.mem_cons.1 hpart with rfl | hpart
        · have hp := ih p List.mem_cons_self
          simpa using ⟨fun h : slash = c => hc h.symm, hp⟩
        · exact ih part (List.mem_cons_of_mem p hpart)

theorem isStep_ofList {part : List UInt8} (hidle : ¬ isIdle part = true)
    (hparent : part ≠ [dot, dot]) (hslash : slash ∉ part) : IsStep (RawText.ofList part) := by
  exact ⟨Bool.not_eq_true _ ▸ hidle, hparent, hslash⟩

end Path

namespace Folder

/-- Every name is a step of a path, here and in every folder inside. -/
def Named : Folder → Prop
  | .empty => True
  | .file name _ rest => Path.IsStep name ∧ rest.Named
  | .folder name inner rest => Path.IsStep name ∧ inner.Named ∧ rest.Named

end Folder

/-- The names inside a node. -/
def Node.Named : Node → Prop
  | .file _ => True
  | .folder f => f.Named

namespace Folder

theorem named_cons {name : RawText} {node : Node} {rest : Folder} :
    (cons name node rest).Named ↔ Path.IsStep name ∧ node.Named ∧ rest.Named := by
  cases node <;> simp [cons, Named, Node.Named]

theorem named_insert {name : RawText} {node : Node} {f : Folder} (hf : f.Named)
    (hname : Path.IsStep name) (hn : node.Named) : (f.insert name node).Named := by
  induction f with
  | empty => exact named_cons.2 ⟨hname, hn, trivial⟩
  | file n contents rest ih =>
    rw [insert]
    split
    · exact named_cons.2 ⟨hname, hn, hf⟩
    · split
      · exact ⟨hf.1, ih hf.2⟩
      · exact named_cons.2 ⟨hname, hn, hf.2⟩
  | folder n inner rest _ ih =>
    rw [insert]
    split
    · exact named_cons.2 ⟨hname, hn, hf⟩
    · split
      · exact ⟨hf.1, hf.2.1, ih hf.2.2⟩
      · exact named_cons.2 ⟨hname, hn, hf.2.2⟩

theorem named_erase {name : RawText} {f : Folder} (hf : f.Named) : (f.erase name).Named := by
  induction f with
  | empty => trivial
  | file n contents rest ih =>
    rw [erase]
    split
    · exact hf.2
    · exact ⟨hf.1, ih hf.2⟩
  | folder n inner rest _ ih =>
    rw [erase]
    split
    · exact hf.2.2
    · exact ⟨hf.1, hf.2.1, ih hf.2.2⟩

theorem named_of_node? {name : RawText} {node : Node} {f : Folder} (hf : f.Named)
    (h : f.node? name = some node) : Path.IsStep name ∧ node.Named := by
  induction f with
  | empty => simp [node?] at h
  | file n contents rest ih =>
    rw [node?] at h
    split at h
    · next hname =>
      obtain rfl := Option.some.inj h
      exact ⟨hname ▸ hf.1, trivial⟩
    · exact ih hf.2 h
  | folder n inner rest _ ih =>
    rw [node?] at h
    split at h
    · next hname =>
      obtain rfl := Option.some.inj h
      exact ⟨hname ▸ hf.1, hf.2.1⟩
    · exact ih hf.2.2 h

theorem named_modify {change : Folder → Folder} (hc : ∀ f, f.Named → (change f).Named) {f : Folder}
    (hf : f.Named) (place : List RawText) : (f.modify change place).Named := by
  induction place generalizing f with
  | nil => exact hc f hf
  | cons name names ih =>
    rw [modify]
    split
    · next inner h =>
      obtain ⟨hname, hinner⟩ := named_of_node? hf h
      exact named_insert hf hname (ih hinner)
    · exact hf

theorem named_put {f : Folder} (hf : f.Named) {place : List RawText}
    (hplace : ∀ name ∈ place, Path.IsStep name) {node : Node} (hn : node.Named) :
    (f.put place node).Named := by
  rw [put]
  split
  · next name hlast =>
    have hname := hplace name (List.mem_of_getLast? hlast)
    exact named_modify (fun _ h => named_insert h hname hn) hf _
  · exact hf

theorem named_remove {f : Folder} (hf : f.Named) (place : List RawText) :
    (f.remove place).Named := by
  rw [remove]
  split
  · exact named_modify (fun _ h => named_erase h) hf _
  · exact hf

end Folder
end Companion
