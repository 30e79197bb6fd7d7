/-
# Files that are written again and again

Directories are only ever added to a tree of files, so a text that leads to a path goes on leading
there, and directories that were made are found made.  A file that can be written can be written
again, and what was written last is what it holds.
-/
import Mathlib.Tactic.Common
import PaymentPlans.Machine.Files

namespace PaymentPlans.FileTree

variable {tree tree' : FileTree} {path : Path}

/-! ## Growing trees -/

/-- The directories of a tree are also in another one. -/
def Grows (tree tree' : FileTree) : Prop := ∀ path, tree.hasDirectory path → tree'.hasDirectory path

lemma Grows.refl (tree : FileTree) : tree.Grows tree := fun _ h => h

lemma Grows.trans {tree'' : FileTree} (h : tree.Grows tree') (k : tree'.Grows tree'') :
    tree.Grows tree'' := fun path hpath => k path (h path hpath)

/-- From a path the names lead through directories. -/
def Leads (tree : FileTree) : Path → List String → Prop
  | _, [] => True
  | path, name :: names =>
    tree.hasDirectory (path.follow name) ∧ Leads tree (path.follow name) names

lemma Leads.mono {names : List String} (h : tree.Leads path names) (hgrows : tree.Grows tree') :
    tree'.Leads path names := by
  induction names generalizing path with
  | nil => trivial
  | cons name names ih => exact ⟨hgrows _ h.1, ih h.2⟩

/-! ## Making directories -/

/-- A directory that was made is there, and no file was touched. -/
lemma makeOne?_eq_some (h : tree.makeOne? path = some tree') :
    tree'.hasDirectory path ∧ tree.Grows tree' ∧ tree'.files = tree.files := by
  unfold makeOne? at h
  split at h
  · next hdirectory =>
    obtain rfl := Option.some.inj h
    exact ⟨hdirectory, Grows.refl tree, rfl⟩
  split at h
  · exact nomatch h
  · obtain rfl := Option.some.inj h
    refine ⟨?_, fun other hother => ?_, rfl⟩
    · simp [hasDirectory]
    · simp only [hasDirectory, Bool.or_eq_true, List.any_append] at hother ⊢
      exact hother.imp_right Or.inl

/-- One name after the other, a directory for each. -/
abbrev makeNext? (state : FileTree × Path) (name : String) : Option (FileTree × Path) := do
  let path := state.2.follow name
  return (← state.1.makeOne? path, path)

/-- Directories that were made lead on, and no file was touched. -/
lemma leads_of_foldlM_makeNext? {names : List String} {final : Path}
    (h : names.foldlM makeNext? (tree, path) = some (tree', final)) :
    tree'.Leads path names ∧ tree.Grows tree' ∧ tree'.files = tree.files := by
  induction names generalizing tree path with
  | nil =>
    obtain ⟨rfl, rfl⟩ := Prod.mk.inj (Option.some.inj h)
    exact ⟨trivial, Grows.refl tree, rfl⟩
  | cons name names ih =>
    rw [List.foldlM_cons] at h
    rcases hmade : tree.makeOne? (path.follow name) with _ | made
    · simp only [makeNext?, hmade] at h
      exact nomatch h
    · simp only [makeNext?, hmade, Option.bind_eq_bind, Option.bind_some, Option.pure_def] at h
      obtain ⟨hthere, hgrows, hfiles⟩ := makeOne?_eq_some hmade
      obtain ⟨hleads, hgrows', hfiles'⟩ := ih h
      exact ⟨⟨hgrows' _ hthere, hleads⟩, hgrows.trans hgrows', hfiles'.trans hfiles⟩

/-- Where directories lead on, none has to be made. -/
lemma foldlM_makeNext?_of_leads {names : List String} (h : tree.Leads path names) :
    names.foldlM makeNext? (tree, path) = some (tree, names.foldl Path.follow path) := by
  induction names generalizing path with
  | nil => rfl
  | cons name names ih =>
    have hone : tree.makeOne? (path.follow name) = some tree := if_pos h.1
    rw [List.foldlM_cons]
    simp only [makeNext?, hone, Option.bind_eq_bind, Option.bind_some, Option.pure_def]
    exact ih h.2

lemma makeDirectories?_eq (tree : FileTree) (directory : Path) (text : String) :
    tree.makeDirectories? directory text =
      ((Path.names text).foldlM makeNext? (tree, Path.start directory text)).map Prod.fst := by
  rw [makeDirectories?]
  cases (Path.names text).foldlM makeNext? (tree, Path.start directory text) <;> rfl

/-- Directories that were made are found made, in all trees that grew from there. -/
lemma makeDirectories?_eq_some {directory : Path} {text : String}
    (h : tree.makeDirectories? directory text = some tree') :
    (∀ tree'', tree'.Grows tree'' → tree''.makeDirectories? directory text = some tree'') ∧
      tree.Grows tree' ∧ tree'.files = tree.files := by
  rw [makeDirectories?_eq, Option.map_eq_some_iff] at h
  obtain ⟨⟨made, final⟩, hmade, rfl⟩ := h
  obtain ⟨hleads, hgrows, hfiles⟩ := leads_of_foldlM_makeNext? hmade
  refine ⟨fun tree'' hgrows' => ?_, hgrows, hfiles⟩
  rw [makeDirectories?_eq, foldlM_makeNext?_of_leads (hleads.mono hgrows')]
  rfl

/-! ## Following texts -/

/-- What can be followed in a tree leads to the same path in all trees that grew from it. -/
lemma Grows.foldlM_enter? (hgrows : tree.Grows tree') {names : List String} {final : Path}
    (h : names.foldlM tree.enter? path = some final) : names.foldlM tree'.enter? path = some final := by
  induction names generalizing path with
  | nil => exact h
  | cons name names ih =>
    rw [List.foldlM_cons] at h ⊢
    unfold enter? at h ⊢
    by_cases hthere : tree.hasDirectory (path.follow name)
    · rw [if_pos hthere] at h
      rw [if_pos (hgrows _ hthere)]
      exact ih h
    · rw [if_neg hthere] at h
      exact nomatch h

lemma Grows.resolve? (hgrows : tree.Grows tree') {directory : Path} {text : String}
    (h : tree.resolve? directory text = some path) : tree'.resolve? directory text = some path := by
  unfold FileTree.resolve? at h ⊢
  split at h
  · exact nomatch h
  · next htext =>
    rw [if_neg htext]
    simp only [Option.bind_eq_bind, Option.bind_eq_some_iff] at h ⊢
    obtain ⟨entered, hentered, hlast⟩ := h
    exact ⟨entered, hgrows.foldlM_enter? hentered, hlast⟩

/-! ## Changing a file -/

/-- The files are the same but for what one change makes of them, which leaves them where they
are. -/
def changeFiles (tree : FileTree) (f : File → File) : FileTree :=
  { tree with files := tree.files.map f }

variable {f : File → File}

lemma hasDirectory_changeFiles (hf : ∀ file, (f file).path = file.path) (other : Path) :
    (tree.changeFiles f).hasDirectory other = tree.hasDirectory other := by
  simp only [hasDirectory, changeFiles, List.any_map, Function.comp_def, hf]

lemma file?_changeFiles (hf : ∀ file, (f file).path = file.path) (path : Path) :
    (tree.changeFiles f).file? path = (tree.file? path).map f := by
  simp only [file?, changeFiles, List.find?_map, Function.comp_def, hf]

/-- A written file holds what was written, and no directory came or went at its path. -/
structure Written (tree tree' : FileTree) (path : Path) (text : String) : Prop where
  grows : tree.Grows tree'
  no_directory : tree'.hasDirectory path = false
  text_eq : (tree'.file? path).map File.text = some text

/-- A new file makes directories of the paths above it. -/
lemma hasDirectory_addFile (tree : FileTree) (file : File) (other : Path) :
    FileTree.hasDirectory { tree with files := tree.files ++ [file] } other =
      (tree.hasDirectory other || (other.isPrefixOf file.path && other != file.path)) := by
  simp only [hasDirectory, List.any_append, List.any_cons, List.any_nil, Bool.or_false]
  ac_rfl

lemma write?_eq_some {text : String} (h : tree.write? path text = some tree') :
    Written tree tree' path text := by
  unfold write? at h
  split at h
  · exact nomatch h
  next hplace =>
  rw [Bool.not_eq_true, Bool.or_eq_false_iff] at hplace
  split at h
  · next hnone =>
    obtain rfl := Option.some.inj h
    have hadd := hasDirectory_addFile tree { path, text }
    refine ⟨fun other hother => ?_, ?_, ?_⟩
    · rw [hadd, hother, Bool.true_or]
    · rw [hadd, hplace.1, bne_self_eq_false, Bool.and_false, Bool.or_false]
    · unfold file? at hnone ⊢
      rw [List.find?_append, hnone]
      simp
  · next file hfile =>
    obtain rfl := Option.some.inj h
    have hpath : ∀ file : File, (if file.path == path then { file with text } else file).path =
        file.path := by
      intro file
      split <;> rfl
    have hat : (file.path == path) = true := by
      have hfound : tree.files.find? (·.path == path) = some file := hfile
      exact List.find?_some (p := fun other : File => other.path == path) hfound
    refine ⟨fun other hother => (hasDirectory_changeFiles hpath other).trans hother, ?_, ?_⟩
    · exact (hasDirectory_changeFiles hpath path).trans hplace.1
    · refine (congrArg (Option.map File.text) (file?_changeFiles hpath path)).trans ?_
      rw [hfile]
      simp only [Option.map_some, hat, if_true]

/-- Who may read a file does not matter to what it holds. -/
lemma makePrivate?_eq_some (h : tree.makePrivate? path = some tree') :
    (∀ other, tree'.hasDirectory other = tree.hasDirectory other) ∧
      (tree'.file? path).map File.text = (tree.file? path).map File.text := by
  unfold makePrivate? at h
  split at h
  · obtain rfl := Option.some.inj h
    have hpath : ∀ file : File,
        (if file.path == path then { file with isPrivate := true } else file).path = file.path := by
      intro file
      split <;> rfl
    have htext : ∀ file : File,
        (if file.path == path then { file with isPrivate := true } else file).text = file.text := by
      intro file
      split <;> rfl
    refine ⟨hasDirectory_changeFiles hpath, ?_⟩
    refine (congrArg (Option.map File.text) (file?_changeFiles hpath path)).trans ?_
    rw [Option.map_map]
    exact congrArg (Option.map · _) (funext htext)
  · exact nomatch h

/-! ## Keeping a file -/

/-- A file can be kept at a path: the directories of a folder are there, a text leads from them to
the path, and it is no directory. -/
structure Keeps (tree : FileTree) (directory : Path) (folder file : String) (path : Path) : Prop where
  made : ∀ tree', tree.Grows tree' → tree'.makeDirectories? directory folder = some tree'
  leads : tree.resolve? directory file = some path
  no_directory : tree.hasDirectory path = false
  parent : tree.hasDirectory path.dropLast

variable {directory : Path} {folder file : String}

lemma Keeps.grow (h : tree.Keeps directory folder file path) (hgrows : tree.Grows tree')
    (hno : tree'.hasDirectory path = false) : tree'.Keeps directory folder file path where
  made tree'' hgrows' := h.made tree'' (hgrows.trans hgrows')
  leads := hgrows.resolve? h.leads
  no_directory := hno
  parent := hgrows _ h.parent

/-- A file that can be kept can be written, and kept on. -/
lemma Keeps.write (h : tree.Keeps directory folder file path) (text : String) :
    ∃ tree', tree.write? path text = some tree' ∧ tree'.Keeps directory folder file path ∧
      (tree'.file? path).map File.text = some text := by
  have hwrite : ∃ tree', tree.write? path text = some tree' := by
    unfold write?
    rw [h.no_directory, h.parent, if_neg (by decide)]
    cases tree.file? path <;> exact ⟨_, rfl⟩
  obtain ⟨tree', hwrite⟩ := hwrite
  have hwritten := write?_eq_some hwrite
  exact ⟨tree', hwrite, h.grow hwritten.grows hwritten.no_directory, hwritten.text_eq⟩

/-- A file that is there can be kept from other readers, and kept on. -/
lemma Keeps.makePrivate {text : String} (h : tree.Keeps directory folder file path)
    (htext : (tree.file? path).map File.text = some text) :
    ∃ tree', tree.makePrivate? path = some tree' ∧ tree'.Keeps directory folder file path ∧
      (tree'.file? path).map File.text = some text := by
  have hprivate : ∃ tree', tree.makePrivate? path = some tree' := by
    obtain ⟨file, hfile, -⟩ := Option.map_eq_some_iff.1 htext
    refine ⟨_, if_pos ?_⟩
    rw [has, hfile]
    rfl
  obtain ⟨tree', hprivate⟩ := hprivate
  obtain ⟨hsame, htext'⟩ := makePrivate?_eq_some hprivate
  have hgrows : tree.Grows tree' := fun other hother => (hsame other).trans hother
  exact ⟨tree', hprivate, h.grow hgrows ((hsame path).trans h.no_directory), htext'.trans htext⟩

/-- What can be made once and written once can be kept. -/
lemma keeps_of_write {made : FileTree} {text : String}
    (hmade : tree.makeDirectories? directory folder = some made)
    (hleads : made.resolve? directory file = some path)
    (hwrite : made.write? path text = some tree') : made.Keeps directory folder file path := by
  have hplace : ¬ (made.hasDirectory path || !made.hasDirectory path.dropLast) = true := by
    intro hplace
    rw [write?, if_pos hplace] at hwrite
    exact nomatch hwrite
  rw [Bool.not_eq_true, Bool.or_eq_false_iff, Bool.not_eq_false'] at hplace
  exact ⟨(makeDirectories?_eq_some hmade).1, hleads, hplace.1, hplace.2⟩

end PaymentPlans.FileTree
