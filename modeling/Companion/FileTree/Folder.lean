import Companion.Text.Raw

/-! Folders: files and folders by name, in the order of their names. `at?` says what a list of names
leads to. The operations keep the order (`Ordered`), so a folder is determined by what it holds. -/
namespace Companion

inductive Folder where
  | empty
  | file (name : RawText) (contents : ByteArray) (rest : Folder)
  | folder (name : RawText) (inner rest : Folder)

/-- What a name stands for. -/
inductive Node where
  | file (contents : ByteArray)
  | folder (folder : Folder)

namespace Folder

/-- A folder with a further entry in front. -/
def cons (name : RawText) (node : Node) (rest : Folder) : Folder :=
  match node with
  | .file contents => .file name contents rest
  | .folder inner => .folder name inner rest

def names : Folder → List RawText
  | .empty => []
  | .file name _ rest => name :: rest.names
  | .folder name _ rest => name :: rest.names

/-- The entry with the given name. -/
def node? (name : RawText) : Folder → Option Node
  | .empty => none
  | .file n contents rest => if n = name then some (.file contents) else rest.node? name
  | .folder n inner rest => if n = name then some (.folder inner) else rest.node? name

/-- What a list of names leads to, each name being looked up in the folder before it. -/
def at? (f : Folder) : List RawText → Option Node
  | [] => some (.folder f)
  | name :: names =>
    match f.node? name with
    | some (.folder inner) => inner.at? names
    | some (.file contents) => if names.isEmpty then some (.file contents) else none
    | none => none

/-- The folder with an entry of that name, which replaces an earlier one. -/
def insert (name : RawText) (node : Node) : Folder → Folder
  | .empty => cons name node .empty
  | .file n contents rest =>
    if name < n then cons name node (.file n contents rest)
    else if n < name then .file n contents (rest.insert name node)
    else cons name node rest
  | .folder n inner rest =>
    if name < n then cons name node (.folder n inner rest)
    else if n < name then .folder n inner (rest.insert name node)
    else cons name node rest

/-- The folder without the entry of that name. -/
def erase (name : RawText) : Folder → Folder
  | .empty => .empty
  | .file n contents rest => if n = name then rest else .file n contents (rest.erase name)
  | .folder n inner rest => if n = name then rest else .folder n inner (rest.erase name)

/-- Changes the folder that a list of names leads to; without such a folder, nothing. -/
def modify (change : Folder → Folder) (f : Folder) : List RawText → Folder
  | [] => change f
  | name :: names =>
    match f.node? name with
    | some (.folder inner) => f.insert name (.folder (inner.modify change names))
    | _ => f

/-- The folder with an entry at the given place, if there is a folder to hold it. -/
def put (f : Folder) (place : List RawText) (node : Node) : Folder :=
  match place.getLast? with
  | some name => f.modify (insert name node) place.dropLast
  | none => f

/-- The folder without the entry at the given place. -/
def remove (f : Folder) (place : List RawText) : Folder :=
  match place.getLast? with
  | some name => f.modify (erase name) place.dropLast
  | none => f

/-- The places of all files, with what they hold; an entry comes before those behind it, with all
that it holds. -/
def files : Folder → List (List RawText × ByteArray)
  | .empty => []
  | .file name contents rest => ([name], contents) :: rest.files
  | .folder name inner rest => inner.files.map (fun f => (name :: f.1, f.2)) ++ rest.files

/-! ### Order -/

/-- Names increase, here and in every folder inside. -/
def Ordered : Folder → Prop
  | .empty => True
  | .file name _ rest => (∀ n ∈ rest.names, name < n) ∧ rest.Ordered
  | .folder name inner rest => (∀ n ∈ rest.names, name < n) ∧ inner.Ordered ∧ rest.Ordered

end Folder

/-- The order of names inside a node. -/
def Node.Ordered : Node → Prop
  | .file _ => True
  | .folder f => f.Ordered

namespace Folder

theorem names_cons (name : RawText) (node : Node) (rest : Folder) :
    (cons name node rest).names = name :: rest.names := by
  cases node <;> rfl

theorem ordered_cons {name : RawText} {node : Node} {rest : Folder} :
    (cons name node rest).Ordered ↔
      (∀ n ∈ rest.names, name < n) ∧ node.Ordered ∧ rest.Ordered := by
  cases node <;> simp [cons, Ordered, Node.Ordered]

theorem mem_names_insert {name n : RawText} {node : Node} {f : Folder}
    (h : n ∈ (f.insert name node).names) : n = name ∨ n ∈ f.names := by
  induction f with
  | empty => simpa [insert, names_cons] using h
  | file m contents rest ih =>
    rw [insert] at h
    split at h
    · simpa [names_cons] using h
    · split at h
      · rcases List.mem_cons.1 h with rfl | h
        · simp [names]
        · rcases ih h with rfl | h <;> simp [names, *]
      · rw [names_cons] at h
        rcases List.mem_cons.1 h with rfl | h <;> simp [names, *]
  | folder m inner rest _ ih =>
    rw [insert] at h
    split at h
    · simpa [names_cons] using h
    · split at h
      · rcases List.mem_cons.1 h with rfl | h
        · simp [names]
        · rcases ih h with rfl | h <;> simp [names, *]
      · rw [names_cons] at h
        rcases List.mem_cons.1 h with rfl | h <;> simp [names, *]

theorem lt_names_of_lt {name n : RawText} {names : List RawText} (h : name < n)
    (ordered : ∀ m ∈ names, n < m) : ∀ m ∈ n :: names, name < m := by
  intro m hm
  rcases List.mem_cons.1 hm with rfl | hm
  · exact h
  · exact RawText.lt_trans h (ordered m hm)

theorem ordered_insert {name : RawText} {node : Node} {f : Folder} (hf : f.Ordered)
    (hn : node.Ordered) : (f.insert name node).Ordered := by
  induction f with
  | empty => exact ordered_cons.2 ⟨by simp [names], hn, trivial⟩
  | file n contents rest ih =>
    obtain ⟨hlt, hrest⟩ := hf
    rw [insert]
    split
    · rename_i h
      exact ordered_cons.2 ⟨lt_names_of_lt h hlt, hn, hlt, hrest⟩
    · split
      · rename_i h
        refine ⟨fun m hm => ?_, ih hrest⟩
        rcases mem_names_insert hm with rfl | hm
        · exact h
        · exact hlt m hm
      · rename_i h₁ h₂
        obtain rfl := RawText.eq_of_not_lt h₁ h₂
        exact ordered_cons.2 ⟨hlt, hn, hrest⟩
  | folder n inner rest _ ih =>
    obtain ⟨hlt, hinner, hrest⟩ := hf
    rw [insert]
    split
    · rename_i h
      exact ordered_cons.2 ⟨lt_names_of_lt h hlt, hn, hlt, hinner, hrest⟩
    · split
      · rename_i h
        refine ⟨fun m hm => ?_, hinner, ih hrest⟩
        rcases mem_names_insert hm with rfl | hm
        · exact h
        · exact hlt m hm
      · rename_i h₁ h₂
        obtain rfl := RawText.eq_of_not_lt h₁ h₂
        exact ordered_cons.2 ⟨hlt, hn, hrest⟩

theorem mem_names_erase {name n : RawText} {f : Folder} (h : n ∈ (f.erase name).names) :
    n ∈ f.names := by
  induction f with
  | empty => exact h
  | file m contents rest ih => grind [erase, names]
  | folder m inner rest _ ih => grind [erase, names]

theorem ordered_erase {name : RawText} {f : Folder} (hf : f.Ordered) : (f.erase name).Ordered := by
  induction f with
  | empty => trivial
  | file n contents rest ih =>
    obtain ⟨hlt, hrest⟩ := hf
    rw [erase]
    split
    · exact hrest
    · exact ⟨fun m hm => hlt m (mem_names_erase hm), ih hrest⟩
  | folder n inner rest _ ih =>
    obtain ⟨hlt, hinner, hrest⟩ := hf
    rw [erase]
    split
    · exact hrest
    · exact ⟨fun m hm => hlt m (mem_names_erase hm), hinner, ih hrest⟩

theorem ordered_of_node? {name : RawText} {node : Node} {f : Folder} (hf : f.Ordered)
    (h : f.node? name = some node) : node.Ordered := by
  induction f with
  | empty => simp [node?] at h
  | file n contents rest ih =>
    rw [node?] at h
    split at h
    · obtain rfl := Option.some.inj h
      trivial
    · exact ih hf.2 h
  | folder n inner rest _ ih =>
    rw [node?] at h
    split at h
    · obtain rfl := Option.some.inj h
      exact hf.2.1
    · exact ih hf.2.2 h

theorem ordered_modify {change : Folder → Folder} (hc : ∀ f, f.Ordered → (change f).Ordered)
    {f : Folder} (hf : f.Ordered) (place : List RawText) : (f.modify change place).Ordered := by
  induction place generalizing f with
  | nil => exact hc f hf
  | cons name names ih =>
    rw [modify]
    split
    · rename_i inner h
      exact ordered_insert hf (ih (ordered_of_node? hf h))
    · exact hf

theorem ordered_put {f : Folder} (hf : f.Ordered) (place : List RawText) {node : Node}
    (hn : node.Ordered) : (f.put place node).Ordered := by
  rw [put]
  split
  · exact ordered_modify (fun _ h => ordered_insert h hn) hf _
  · exact hf

theorem ordered_remove {f : Folder} (hf : f.Ordered) (place : List RawText) :
    (f.remove place).Ordered := by
  rw [remove]
  split
  · exact ordered_modify (fun _ h => ordered_erase h) hf _
  · exact hf

end Folder
end Companion
