import Mathlib
import Companion.Run
import Companion.Proofs.FileTree.Paths

/-! Settling files. Checking and planning leave the tree as it is (`settleAll_check`,
`settleAll_dryRun`). Writing gives a file its contents and changes nothing else (`settle_write`), so
files with places of their own do not see each other's writes: each is settled as the tree before
all of them decides (`result_settleAll_write`). Afterwards all files in front of the first failure
hold their contents, and every other place is as before (`settleAll_write_done`). -/
namespace Companion

namespace FileTree

variable {t t' : FileTree} {p : Path} {dir : List RawText} {name : RawText} {contents : ByteArray}

theorem Leads.of_folders (h : t.Leads p dir name)
    (hfolders : ∀ q, t.root.kind? q = some none → t'.root.kind? q = some none) :
    t'.Leads p dir name where
  nonempty := h.nonempty
  opened := h.opened
  follow := Folder.follow_of_folders hfolders h.follow
  folder := hfolders dir h.folder

/-- A file is held by the path that leads to it. -/
theorem Leads.read_iff (h : t.Leads p dir name) :
    t.read p = .ok contents ↔ t.root.kind? (dir ++ [name]) = some (some contents) := by
  rw [read_eq_ok_iff, h.locate]
  simp

/-- What a path reads is decided by what stands at its place. -/
theorem read_congr {place : List RawText} (h : t.locate p = .ok place)
    (h' : t'.locate p = .ok place) (hkind : t'.root.kind? place = t.root.kind? place) :
    t'.read p = t.read p := by
  have hread : ∀ {t : FileTree}, t.locate p = .ok place → t.read p =
      match t.root.kind? place with
      | some (some contents) => .ok contents
      | some none => .error .isDirectory
      | none => .error .notFound := by
    intro t h
    rw [read, node, h, Folder.kind?]
    dsimp only
    rcases t.root.at? place with _ | ⟨_ | _⟩ <;> rfl
  rw [hread h, hread h', hkind]

theorem holds_congr (h : t'.read p = t.read p) (contents : ByteArray) :
    t'.holds p contents = t.holds p contents := by
  rw [holds, holds, h]

theorem holds_eq_true_iff : t.holds p contents = .ok true ↔ t.read p = .ok contents := by
  rw [holds]
  split
  · next found hfound =>
    rw [hfound]
    simp [ByteArray.ext_iff]
  · next hread => simp [hread]
  · next hread => simp [hread]

/-- Where it can be said whether a file holds contents, no folder stands. -/
theorem Leads.free_of_holds (h : t.Leads p dir name) {held : Bool}
    (hheld : t.holds p contents = .ok held) :
    t.root.kind? (dir ++ [name]) ≠ some none := by
  intro hfolder
  obtain ⟨inner, hinner⟩ := Folder.kind?_eq_folder_iff.1 hfolder
  have hread : t.read p = .error .isDirectory := by
    rw [read, node, h.locate]
    simp only [hinner]
  rw [holds, hread] at hheld
  cases hheld

/-- A failure to say whether a file holds contents is one to write it. -/
theorem holds_eq_error {e : RunError} (h : t.holds p contents = .error e) :
    ∃ cause, e = .write p cause := by
  rw [holds] at h
  split at h
  · cases h
  · cases h
  · next cause _ _ => exact ⟨cause, (Except.error.inj h).symm⟩

/-- A file can be written where no folder stands. -/
theorem Leads.exists_write (h : t.Leads p dir name)
    (hfree : t.root.kind? (dir ++ [name]) ≠ some none) (contents : ByteArray) :
    ∃ t', t.write p contents = .ok t' ∧
      ∀ q, t'.root.kind? q = if q = dir ++ [name] then some (some contents)
        else t.root.kind? q := by
  unfold write
  rw [if_neg (by simp [h.nonempty])]
  split
  · next hplace =>
    rw [h.opened, h.follow] at hplace
    cases hplace
  · next place hplace =>
    rw [h.opened, h.follow] at hplace
    obtain rfl := Except.ok.inj hplace
    split
    · next inner hinner => exact absurd (Folder.kind?_eq_folder_iff.2 ⟨inner, hinner⟩) hfree
    · have hopen : ¬ (openParts p).2 = true := by simp [h.opened]
      rw [if_neg hopen]
      exact ⟨_, rfl, fun q => Folder.kind?_put h.folder hfree q⟩

end FileTree

namespace OutputFile

/-! ### One file -/

theorem result_settle_write (t : FileTree) (o : OutputFile) :
    (o.settle .write t).result = (t.holds o.path o.bytes).bind fun held =>
      if held then .ok (.unchanged, t)
      else ((t.write o.path o.bytes).mapError (.write o.path)).map fun t' => (.written, t') := by
  simp only [settle, FileTree.writeOutput, Logged.result_bind, Logged.result_ofExcept]
  rcases t.holds o.path o.bytes with e | held
  · rfl
  · cases held with
    | true => rfl
    | false => rcases t.write o.path o.bytes with e | t' <;> rfl

theorem result_settle_check (t : FileTree) (o : OutputFile) :
    (o.settle .check t).result =
      (t.holds o.path o.bytes).map fun held => (if held then .unchanged else .stale, t) := by
  simp only [settle, FileTree.checkOutput, Logged.result_bind, Logged.result_ofExcept]
  rcases t.holds o.path o.bytes with e | held
  · rfl
  · cases held <;> rfl

theorem result_settle_dryRun (t : FileTree) (o : OutputFile) :
    (o.settle .dryRun t).result = .ok (.planned, t) := rfl

/-- **Settling a file in write mode gives its place the contents and keeps the kind of every other
place.** -/
theorem settle_write {t : FileTree} {o : OutputFile} {dir : List RawText} {name : RawText}
    (hleads : t.Leads o.path dir name) {held : Bool} (hheld : t.holds o.path o.bytes = .ok held) :
    ∃ t', (o.settle .write t).result = .ok (if held then .unchanged else .written, t') ∧
      ∀ q, t'.root.kind? q = if q = dir ++ [name] then some (some o.bytes) else t.root.kind? q := by
  rw [result_settle_write, hheld]
  cases held with
  | true =>
    have hkind := hleads.read_iff.1 (FileTree.holds_eq_true_iff.1 hheld)
    refine ⟨t, rfl, ?_⟩
    intro q
    split
    · next hq => rw [hq, hkind]
    · rfl
  | false =>
    obtain ⟨t', hwrite, hkind⟩ := hleads.exists_write (hleads.free_of_holds hheld) o.bytes
    refine ⟨t', ?_, hkind⟩
    rw [hwrite]
    rfl

/-! ### One file, and then the others -/

variable {mode : Mode} {t t₁ t' : FileTree} {o : OutputFile} {files : List OutputFile}

theorem settleAll_cons_ok {d : Disposition} (h : (o.settle mode t).result = .ok (d, t₁)) :
    (settleAll mode t (o :: files)).1 = (settleAll mode t₁ files).1 ∧
      (settleAll mode t (o :: files)).2.result =
        (settleAll mode t₁ files).2.result.map ((o.path, d) :: ·) := by
  rw [settleAll, h]
  refine ⟨rfl, ?_⟩
  simp only [Logged.result_bind, h]
  rcases (settleAll mode t₁ files).2.result with e | settled <;> rfl

theorem settleAll_cons_error {e : RunError} (h : (o.settle mode t).result = .error e) :
    (settleAll mode t (o :: files)).1 = t ∧
      (settleAll mode t (o :: files)).2.result = .error e := by
  rw [settleAll, h]
  exact ⟨rfl, rfl⟩

/-- What becomes of a file: nothing if it holds its contents, else `d`. -/
def verdict (d : Disposition) (t : FileTree) (o : OutputFile) :
    Except RunError (Path × Disposition) :=
  (t.holds o.path o.bytes).map fun held => (o.path, if held then .unchanged else d)

theorem mapM_verdict_cons (d : Disposition) (t : FileTree) (o : OutputFile)
    (files : List OutputFile) :
    (o :: files).mapM (verdict d t) = (t.holds o.path o.bytes).bind fun held =>
      (files.mapM (verdict d t)).map ((o.path, if held then .unchanged else d) :: ·) := by
  rw [List.mapM_cons, verdict]
  rcases t.holds o.path o.bytes with e | held
  · rfl
  · rcases files.mapM (verdict d t) with e | settled <;> rfl

/-! ### Checking and planning -/

/-- **Checking leaves the tree as it is and says of every file whether it holds its contents.** -/
theorem settleAll_check (t : FileTree) (files : List OutputFile) :
    (settleAll .check t files).1 = t ∧
      (settleAll .check t files).2.result = files.mapM (verdict .stale t) := by
  induction files with
  | nil => exact ⟨rfl, rfl⟩
  | cons o files ih =>
    have hfirst := result_settle_check t o
    rw [mapM_verdict_cons]
    cases hheld : t.holds o.path o.bytes with
    | error e =>
      rw [hheld] at hfirst
      exact settleAll_cons_error hfirst
    | ok held =>
      rw [hheld] at hfirst
      obtain ⟨htree, hresult⟩ := @settleAll_cons_ok _ _ _ _ files _ hfirst
      rw [htree, hresult, ih.2]
      exact ⟨ih.1, rfl⟩

/-- Planning leaves the tree as it is and names every file. -/
theorem settleAll_dryRun (t : FileTree) (files : List OutputFile) :
    (settleAll .dryRun t files).1 = t ∧
      (settleAll .dryRun t files).2.result = .ok (files.map fun o => (o.path, .planned)) := by
  induction files with
  | nil => exact ⟨rfl, rfl⟩
  | cons o files ih =>
    obtain ⟨htree, hresult⟩ := @settleAll_cons_ok _ _ _ _ files _ (result_settle_dryRun t o)
    rw [htree, hresult, ih.2]
    exact ⟨ih.1, rfl⟩

/-! ### Writing -/

/-- What writing files has made of a tree: they hold their contents, and all other places are as
before. -/
structure Written (t t' : FileTree) (files : List OutputFile) : Prop where
  read : ∀ o ∈ files, t'.read o.path = .ok o.bytes
  elsewhere : ∀ q, (∀ o ∈ files, t.locate o.path ≠ .ok q) → t'.root.kind? q = t.root.kind? q
  folders : ∀ q, t.root.kind? q = some none → t'.root.kind? q = some none

theorem Written.refl (t : FileTree) : Written t t [] :=
  ⟨by simp, fun _ _ => rfl, fun _ hq => hq⟩

/-- A file can be written at the path, and at no other of these paths' places. -/
structure Apart (t : FileTree) (files : List OutputFile) : Prop where
  leads : ∀ o ∈ files, ∃ dir name, t.Leads o.path dir name
  distinct : files.Pairwise fun o o' => t.locate o.path ≠ t.locate o'.path

/-- What settling one of several files in write mode leaves to the others: they can still be
settled, and as before, and what is then written adds to what was. -/
structure Leaves (t t₁ : FileTree) (o : OutputFile) (files : List OutputFile) : Prop where
  apart : Apart t₁ files
  holds : ∀ o' ∈ files, t₁.holds o'.path o'.bytes = t.holds o'.path o'.bytes
  written : ∀ {t' done}, done ⊆ files → Written t₁ t' done → Written t t' (o :: done)

/-- **Settling a file in write mode does not touch the others.** -/
theorem settle_write_leaves (hapart : Apart t (o :: files)) {held : Bool}
    (hheld : t.holds o.path o.bytes = .ok held) :
    ∃ t₁, (o.settle .write t).result = .ok (if held then .unchanged else .written, t₁) ∧
      Leaves t t₁ o files := by
  obtain ⟨hne, hdistinct⟩ := List.pairwise_cons.1 hapart.distinct
  obtain ⟨dir, name, hleads⟩ := hapart.leads o List.mem_cons_self
  obtain ⟨t₁, hsettle, hkind⟩ := settle_write hleads hheld
  have hfolders : ∀ q, t.root.kind? q = some none → t₁.root.kind? q = some none := by
    intro q hq
    rw [hkind, if_neg, hq]
    rintro rfl
    exact hleads.free_of_holds hheld hq
  have hothers : ∀ o' ∈ files, ∃ dir' name', t.Leads o'.path dir' name' ∧
      t₁.Leads o'.path dir' name' ∧ dir' ++ [name'] ≠ dir ++ [name] := by
    intro o' ho'
    obtain ⟨dir', name', hleads'⟩ := hapart.leads o' (List.mem_cons_of_mem o ho')
    refine ⟨dir', name', hleads', hleads'.of_folders hfolders, ?_⟩
    intro heq
    exact hne o' ho' (by rw [hleads.locate, hleads'.locate, heq])
  have hlocate : ∀ o' ∈ files, t₁.locate o'.path = t.locate o'.path := by
    intro o' ho'
    obtain ⟨dir', name', hleads', hleads₁, -⟩ := hothers o' ho'
    rw [hleads'.locate, hleads₁.locate]
  refine ⟨t₁, hsettle, ⟨?_, ?_⟩, ?_, ?_⟩
  · intro o' ho'
    obtain ⟨dir', name', -, hleads₁, -⟩ := hothers o' ho'
    exact ⟨dir', name', hleads₁⟩
  · refine hdistinct.imp_of_mem ?_
    intro o' o'' ho' ho'' hne'
    rw [hlocate o' ho', hlocate o'' ho'']
    exact hne'
  · intro o' ho'
    obtain ⟨dir', name', hleads', hleads₁, hplace⟩ := hothers o' ho'
    refine FileTree.holds_congr (FileTree.read_congr hleads'.locate hleads₁.locate ?_) _
    rw [hkind, if_neg hplace]
  · intro t' done hdone hwritten
    refine ⟨?_, ?_, fun q hq => hwritten.folders q (hfolders q hq)⟩
    · intro o' ho'
      rcases List.mem_cons.1 ho' with rfl | ho'
      · -- the later files have other places
        have hplace : t'.root.kind? (dir ++ [name]) = t₁.root.kind? (dir ++ [name]) := by
          refine hwritten.elsewhere _ fun o'' ho'' => ?_
          rw [hlocate o'' (hdone ho''), ← hleads.locate]
          exact (hne o'' (hdone ho'')).symm
        have hleads' := hleads.of_folders fun q hq => hwritten.folders q (hfolders q hq)
        rw [hleads'.read_iff, hplace, hkind, if_pos rfl]
      · exact hwritten.read o' ho'
    · intro q hq
      have hplace : q ≠ dir ++ [name] := by
        rintro rfl
        exact hq o List.mem_cons_self hleads.locate
      have hq₁ : ∀ o' ∈ done, t₁.locate o'.path ≠ .ok q := by
        intro o' ho'
        rw [hlocate o' (hdone ho')]
        exact hq o' (List.mem_cons_of_mem o ho')
      rw [hwritten.elsewhere q hq₁, hkind, if_neg hplace]

theorem mapM_verdict_congr {d : Disposition}
    (h : ∀ o ∈ files, t₁.holds o.path o.bytes = t.holds o.path o.bytes) :
    files.mapM (verdict d t₁) = files.mapM (verdict d t) := by
  induction files with
  | nil => rfl
  | cons o files ih =>
    obtain ⟨ho, hfiles⟩ := List.forall_mem_cons.1 h
    rw [mapM_verdict_cons, mapM_verdict_cons, ho, ih hfiles]

/-- **In write mode, too, the tree in front of all files decides what becomes of each.** -/
theorem result_settleAll_write (hapart : Apart t files) :
    (settleAll .write t files).2.result = files.mapM (verdict .written t) := by
  induction files generalizing t with
  | nil => rfl
  | cons o files ih =>
    rw [mapM_verdict_cons]
    cases hheld : t.holds o.path o.bytes with
    | error e =>
      have hfirst := result_settle_write t o
      rw [hheld] at hfirst
      exact (settleAll_cons_error hfirst).2
    | ok held =>
      obtain ⟨t₁, hfirst, hleaves⟩ := settle_write_leaves hapart hheld
      rw [(settleAll_cons_ok hfirst).2, ih hleaves.apart, mapM_verdict_congr hleaves.holds]
      rfl

/-- **Files with places of their own are written up to the first that cannot be**, each whole, and
nothing else changes. -/
theorem settleAll_write_done (hapart : Apart t files) :
    (∃ settled, (settleAll .write t files).2.result = .ok settled ∧
      Written t (settleAll .write t files).1 files) ∨
    ∃ before o after cause, files = before ++ o :: after ∧
      (settleAll .write t files).2.result = .error (.write o.path cause) ∧
      Written t (settleAll .write t files).1 before := by
  induction files generalizing t with
  | nil => exact Or.inl ⟨[], rfl, Written.refl t⟩
  | cons o files ih =>
    cases hheld : t.holds o.path o.bytes with
    | error e =>
      have hfirst := result_settle_write t o
      rw [hheld] at hfirst
      obtain ⟨htree, hresult⟩ := @settleAll_cons_error _ _ _ files _ hfirst
      obtain ⟨cause, rfl⟩ := FileTree.holds_eq_error hheld
      rw [htree, hresult]
      exact Or.inr ⟨[], o, files, cause, rfl, rfl, Written.refl t⟩
    | ok held =>
      obtain ⟨t₁, hfirst, hleaves⟩ := settle_write_leaves hapart hheld
      obtain ⟨htree, hresult⟩ := @settleAll_cons_ok _ _ _ _ files _ hfirst
      rw [htree, hresult]
      rcases ih hleaves.apart with
        ⟨settled, hok, hwritten⟩ | ⟨before, o', after, cause, rfl, herror, hwritten⟩
      · rw [hok]
        exact Or.inl ⟨_, rfl, hleaves.written (List.Subset.refl files) hwritten⟩
      · rw [herror]
        exact Or.inr ⟨o :: before, o', after, cause, rfl, rfl,
          hleaves.written (List.subset_append_left before _) hwritten⟩

/-- Files with places of their own that are all settled are all written. -/
theorem settleAll_write {log : Logged RunError (List (Path × Disposition))}
    {settled : List (Path × Disposition)} (hapart : Apart t files)
    (h : settleAll .write t files = (t', log)) (hs : log.result = .ok settled) :
    Written t t' files := by
  rcases settleAll_write_done hapart with ⟨_, -, hwritten⟩ | ⟨_, _, _, _, -, herror, -⟩
  · rwa [h] at hwritten
  · rw [h, hs] at herror
    cases herror

/-! ### Files that are up to date -/

theorem settle_of_read (hmode : mode = .write ∨ mode = .check) (h : t.read o.path = .ok o.bytes) :
    (o.settle mode t).result = .ok (.unchanged, t) := by
  have hheld := FileTree.holds_eq_true_iff.2 h
  rcases hmode with rfl | rfl
  · rw [result_settle_write, hheld]
    rfl
  · rw [result_settle_check, hheld]
    rfl

/-- Files that hold their contents are unchanged, and so is the tree. -/
theorem settleAll_of_read (hmode : mode = .write ∨ mode = .check)
    (h : ∀ o ∈ files, t.read o.path = .ok o.bytes) :
    ∃ log, settleAll mode t files = (t, log) ∧
      log.result = .ok (files.map fun o => (o.path, .unchanged)) := by
  induction files with
  | nil => exact ⟨_, rfl, rfl⟩
  | cons o files ih =>
    obtain ⟨log, hrest, hlog⟩ := ih fun o' ho' => h o' (List.mem_cons_of_mem o ho')
    obtain ⟨htree, hresult⟩ :=
      @settleAll_cons_ok _ _ _ _ files _ (settle_of_read hmode (h o List.mem_cons_self))
    rw [hrest] at htree hresult
    refine ⟨(settleAll mode t (o :: files)).2, Prod.ext htree rfl, ?_⟩
    rw [hresult, hlog]
    rfl

end OutputFile
end Companion
