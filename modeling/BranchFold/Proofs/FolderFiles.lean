import BranchFold.Files.Collect
import BranchFold.Proofs.Resolution
import Mathlib.Data.List.Nodup

/-!
# The files of a folder

What a folder contributes to a collection is put in order by sorting all that its entries add.  This
module gives the outcome in terms of names alone: first the entries that are no folders, by name,
and then what the folders inside contribute under their own paths, by name.  A folder that refuses
to list its entries contributes nothing.  The law is an equation between the files of a path and the
files of longer paths, so whatever holds of every entry of every folder that is listed holds of
every file below a path.

Main definitions:

- {lit}`FileSystem.isLeaf`: an entry that is no folder and leads to none.

Main results:

- Theorem {lit}`Text.eq_sort_of_perm`: a sorted list is determined by its members.
- Theorem {lit}`FileSystem.filesAt_recursive`: the files of a folder with those inside it.
- Theorem {lit}`FileSystem.filesAt_direct`: the files of a folder without those inside it.
- Theorem {lit}`FileSystem.filesAt_induction`: induction over the files below a path.
-/

namespace BranchFold

/-! ## Sorted names -/

namespace Text

theorem sort_perm (texts : List Text) : (sort texts).Perm texts :=
  List.mergeSort_perm texts le

theorem sort_pairwise (texts : List Text) : (sort texts).Pairwise fun a b => le a b = true :=
  @List.pairwise_mergeSort _ le (fun _ _ _ => le_trans) le_total texts

/-- A sorted list is determined by its members. -/
theorem eq_sort_of_perm {texts sorted : List Text} (hperm : sorted.Perm texts)
    (hsorted : sorted.Pairwise fun a b => le a b = true) : sorted = sort texts :=
  (hperm.trans (sort_perm texts).symm).eq_of_pairwise (fun _ _ _ _ => le_antisymm) hsorted
    (sort_pairwise texts)

/-- Sorting does not depend on the order in which the texts come. -/
theorem sort_eq_of_perm {texts texts' : List Text} (h : texts.Perm texts') :
    sort texts = sort texts' :=
  eq_sort_of_perm ((sort_perm texts).trans h) (sort_pairwise texts)

variable {α β : Type}

theorem sortByName_perm (entries : List (Text × α)) : (sortByName entries).Perm entries :=
  List.mergeSort_perm entries _

theorem sortByName_pairwise (entries : List (Text × α)) :
    (sortByName entries).Pairwise fun a b => le a.1 b.1 = true :=
  @List.pairwise_mergeSort _ (fun a b => le a.1 b.1) (fun _ _ _ => le_trans)
    (fun a b => le_total a.1 b.1) entries

/-- Sorting by name looks at names only. -/
theorem sortByName_map (value : Text × α → β) (entries : List (Text × α)) :
    sortByName (entries.map fun entry => (entry.1, value entry)) =
      (sortByName entries).map fun entry => (entry.1, value entry) := by
  unfold sortByName
  rw [List.map_mergeSort]
  intro a _ b _
  rfl

/-- The names of some of the entries, in order. -/
theorem names_filter_sortByName (keeps : Text × α → Bool) (entries : List (Text × α)) :
    ((sortByName entries).filter keeps).map (·.1) = sort ((entries.filter keeps).map (·.1)) := by
  refine eq_sort_of_perm (((sortByName_perm entries).filter keeps).map _) ?_
  rw [List.pairwise_map]
  exact (sortByName_pairwise entries).filter keeps

/-- Sorting by different names does not depend on the order in which the entries come. -/
theorem sortByName_eq_of_perm {entries entries' : List (Text × α)} (h : entries.Perm entries')
    (hnodup : (entries.map (·.1)).Nodup) : sortByName entries = sortByName entries' := by
  have hperm : (sortByName entries).Perm (sortByName entries') :=
    (sortByName_perm entries).trans (h.trans (sortByName_perm entries').symm)
  refine hperm.eq_of_pairwise ?_ (sortByName_pairwise entries) (sortByName_pairwise entries')
  intro a b ha hb hab hba
  have ha' : a ∈ entries := (sortByName_perm entries).mem_iff.1 ha
  have hb' : b ∈ entries := h.mem_iff.2 ((sortByName_perm entries').mem_iff.1 hb)
  exact List.inj_on_of_nodup_map hnodup ha' hb' (le_antisymm hab hba)

end Text

/-! ## What the entries of a folder add -/

/-- Items that are left out give nothing. -/
theorem flatMap_filter {α β : Type} (keeps : α → Bool) (values : α → List β) (items : List α) :
    (items.filter keeps).flatMap values =
      items.flatMap fun item => if keeps item then values item else [] := by
  induction items with
  | nil => rfl
  | cons item rest ih => cases hitem : keeps item <;> simp [hitem, ih]

namespace Node

/-- What each entry adds under its own path. -/
theorem contributions_eq_map (leadsToFolder : Text → Bool) (path : Text)
    (entries : List (Text × Node)) :
    contributions leadsToFolder path entries = entries.map fun entry =>
      (entry.1, contribution leadsToFolder (Path.inside path entry.1) entry.2) := by
  induction entries with
  | nil => simp [contributions]
  | cons entry rest ih =>
    rcases entry with ⟨name, node⟩
    rw [contributions, ih, List.map_cons]

/-- The files below a folder, entry by entry in the order of the names. -/
theorem filesBelow_folder (leadsToFolder : Text → Bool) (path : Text) {access : Access}
    (hlisted : access.unlisted = none) (entries : List (Text × Node)) :
    (folder access entries).filesBelow leadsToFolder path =
      (Text.sortByName entries).filterMap (fun entry =>
        (contribution leadsToFolder (Path.inside path entry.1) entry.2).ownPath?) ++
      (Text.sortByName entries).flatMap (fun entry =>
        (contribution leadsToFolder (Path.inside path entry.1) entry.2).pathsBelow) := by
  rw [filesBelow, if_neg (by simp [hlisted]), Contribution.arranged, contributions_eq_map,
    Text.sortByName_map, List.filterMap_map, List.flatMap_map]
  rfl

end Node

namespace FileSystem

variable {fs : FileSystem} {path name : Text} {access : Access} {entries : List (Text × Node)}
  {node : Node}

/-- The entry is no folder, and no link that leads to one. -/
def isLeaf (fs : FileSystem) (path : Text) (entry : Text × Node) : Bool :=
  !entry.2.isFolder && !fs.isFolder (Path.inside path entry.1)

/-- A path that leads to a file does not lead to a folder. -/
theorem isFolder_eq_false_of_isFile (h : fs.isFile path = true) : fs.isFolder path = false := by
  unfold isFile at h
  unfold isFolder
  cases hlocate : fs.locate path with
  | error fault => rfl
  | ok found =>
    cases found with
    | file kind reading => rfl
    | folder access entries => simp [hlocate] at h
    | link target => rfl

section Inside

variable (hroot : fs.root.isWellNamed = true) (habsolute : Path.isAbsolute path = true)
  (hfolder : fs.locate path = .ok (.folder access entries))

include hroot habsolute hfolder

/-- Files and folders are found under their paths, unless these are too long or their folder lets
nobody pass. -/
theorem locate_inside_cases (hmem : (name, node) ∈ entries)
    (hnode : ∀ target, node ≠ .link target) :
    fs.locate (Path.inside path name) = .ok node ∨
      (∃ fault, fs.locate (Path.inside path name) = .error fault) ∧
        (longestPath < byteLength (Path.inside path name) ∨ access.barred ≠ none) := by
  by_cases hlength : byteLength (Path.inside path name) ≤ longestPath
  · cases hbarred : access.barred with
    | none => exact Or.inl (locate_inside hroot habsolute hfolder hbarred hmem hnode hlength)
    | some cause =>
      have hentries := areWellNamed_of_locate hroot habsolute hfolder
      have hstep := (Path.isName_iff.1 (Node.isWellNamed_of_mem hentries hmem).1).1
      exact Or.inr ⟨locate_inside_of_barred habsolute hfolder hbarred hstep, Or.inr (by simp)⟩
  · have hlong := Nat.lt_of_not_le hlength
    exact Or.inr ⟨locate_of_longestPath_lt hlong, Or.inl hlong⟩

/-- The path of a file never leads to a folder. -/
theorem isFolder_inside_file {kind : FileKind} {reading : Reading}
    (hmem : (name, .file kind reading) ∈ entries) :
    fs.isFolder (Path.inside path name) = false := by
  rcases locate_inside_cases hroot habsolute hfolder hmem (by simp) with hok | ⟨⟨fault, herror⟩, -⟩
  · simp [isFolder, hok]
  · simp [isFolder, herror]

/-- The path of a folder never leads to a file. -/
theorem isFile_inside_folder {inner : Access} {held : List (Text × Node)}
    (hmem : (name, .folder inner held) ∈ entries) : fs.isFile (Path.inside path name) = false := by
  rcases locate_inside_cases hroot habsolute hfolder hmem (by simp) with hok | ⟨⟨fault, herror⟩, -⟩
  · simp [isFile, hok]
  · simp [isFile, herror]

/-- An entry is listed under its path if it is no folder and leads to none. -/
theorem ownPath?_contribution (hmem : (name, node) ∈ entries) :
    (Node.contribution fs.isFolder (Path.inside path name) node).ownPath? =
      if fs.isLeaf path (name, node) then some (Path.inside path name) else none := by
  cases node with
  | file kind reading =>
    have hnot := isFolder_inside_file hroot habsolute hfolder hmem
    simp [Node.contribution, Contribution.ownPath?, isLeaf, Node.isFolder, hnot]
  | link target =>
    cases hleads : fs.isFolder (Path.inside path name) <;>
      simp [Node.contribution, Contribution.ownPath?, isLeaf, Node.isFolder, hleads]
  | folder inner held =>
    cases hleads : fs.isFolder (Path.inside path name) <;>
      simp [Node.contribution, Contribution.ownPath?, isLeaf, Node.isFolder, hleads]

/-- A folder adds what its path stands for, and other entries add nothing below them. -/
theorem pathsBelow_contribution (hmem : (name, node) ∈ entries) :
    (Node.contribution fs.isFolder (Path.inside path name) node).pathsBelow =
      if node.isFolder then fs.filesAt true (Path.inside path name) else [] := by
  cases node with
  | file kind reading => simp [Node.contribution, Contribution.pathsBelow, Node.isFolder]
  | link target =>
    cases hleads : fs.isFolder (Path.inside path name) <;>
      simp [Node.contribution, Contribution.pathsBelow, Node.isFolder, hleads]
  | folder inner held =>
    rcases locate_inside_cases hroot habsolute hfolder hmem (by simp) with
      hok | ⟨⟨fault, herror⟩, -⟩
    · have hleads : fs.isFolder (Path.inside path name) = true := by simp [isFolder, hok]
      simp [Node.contribution, Contribution.pathsBelow, Node.isFolder, hleads, filesAt, hok,
        Node.filesBelow]
    · have hleads : fs.isFolder (Path.inside path name) = false := by simp [isFolder, herror]
      simp [Node.contribution, Contribution.pathsBelow, Node.isFolder, hleads, filesAt, herror]

omit hroot habsolute in
/-- A folder that refuses to list its entries stands for nothing. -/
theorem filesAt_of_unlisted {recursive : Bool} (hunlisted : access.unlisted ≠ none) :
    fs.filesAt recursive path = [] := by
  have hsome : access.unlisted.isSome = true := Option.isSome_iff_ne_none.2 hunlisted
  cases recursive <;> simp [filesAt, hfolder, Node.filesBelow, hsome]

/-- The files of a folder and of the folders inside it: the entries that are no folders by name, and
then what the folders inside stand for, by name. -/
theorem filesAt_recursive (hlisted : access.unlisted = none) :
    fs.filesAt true path =
      (Text.sort ((entries.filter (fs.isLeaf path)).map (·.1))).map (Path.inside path) ++
        (Text.sort ((entries.filter (·.2.isFolder)).map (·.1))).flatMap fun name =>
          fs.filesAt true (Path.inside path name) := by
  have hmem : ∀ entry ∈ Text.sortByName entries, entry ∈ entries := fun entry hentry =>
    (Text.sortByName_perm entries).mem_iff.1 hentry
  have hown : (Text.sortByName entries).filterMap (fun entry =>
      (Node.contribution fs.isFolder (Path.inside path entry.1) entry.2).ownPath?) =
        (Text.sort ((entries.filter (fs.isLeaf path)).map (·.1))).map (Path.inside path) := by
    rw [← Text.names_filter_sortByName, List.map_map, ← List.filterMap_eq_map,
      List.filterMap_filter]
    refine List.filterMap_congr fun entry hentry => ?_
    rw [ownPath?_contribution hroot habsolute hfolder (hmem entry hentry)]
    rfl
  have hbelow : (Text.sortByName entries).flatMap (fun entry =>
      (Node.contribution fs.isFolder (Path.inside path entry.1) entry.2).pathsBelow) =
        (Text.sort ((entries.filter (·.2.isFolder)).map (·.1))).flatMap fun name =>
          fs.filesAt true (Path.inside path name) := by
    rw [← Text.names_filter_sortByName, List.flatMap_map, flatMap_filter]
    refine List.flatMap_congr fun entry hentry => ?_
    rw [pathsBelow_contribution hroot habsolute hfolder (hmem entry hentry)]
  rw [filesAt, hfolder]
  dsimp only
  rw [if_pos rfl, Node.filesBelow_folder _ _ hlisted, hown, hbelow]

omit hroot habsolute in
/-- The files of a folder without those of folders inside it: the entries that lead to files, by
name. -/
theorem filesAt_direct (hlisted : access.unlisted = none) :
    fs.filesAt false path =
      (Text.sort ((entries.filter fun entry => fs.isFile (Path.inside path entry.1)).map
        (·.1))).map (Path.inside path) := by
  have hnames : (Text.sort (entries.map (·.1))).filter (fun name =>
      fs.isFile (Path.inside path name)) =
        Text.sort ((entries.filter fun entry => fs.isFile (Path.inside path entry.1)).map
          (·.1)) := by
    refine Text.eq_sort_of_perm ?_ ((Text.sort_pairwise _).filter _)
    have hfiltered := (Text.sort_perm (entries.map (·.1))).filter fun name =>
      fs.isFile (Path.inside path name)
    rwa [List.filter_map] at hfiltered
  rw [filesAt, hfolder]
  dsimp only
  rw [if_neg (by simp), if_neg (by simp [hlisted]), filesDirectlyIn, ← hnames, List.filter_map]
  rfl

end Inside

/-! ## Induction over the files below a path -/

/-- What holds of the entries of every folder that is listed, and is handed up from the folders
inside it, holds of all files below a path that leads to a folder. -/
theorem filesAt_induction (hroot : fs.root.isWellNamed = true) (Holds : Text → Text → Prop)
    (hleaf : ∀ path access entries, Path.isAbsolute path = true →
      fs.locate path = .ok (.folder access entries) → access.unlisted = none →
        ∀ entry ∈ entries, fs.isLeaf path entry = true → Holds path (Path.inside path entry.1))
    (hbelow : ∀ path access entries, Path.isAbsolute path = true →
      fs.locate path = .ok (.folder access entries) → access.unlisted = none →
        ∀ entry ∈ entries, ∀ file, Holds (Path.inside path entry.1) file → Holds path file)
    {path : Text} {access : Access} {entries : List (Text × Node)}
    (habsolute : Path.isAbsolute path = true)
    (hfolder : fs.locate path = .ok (.folder access entries)) {file : Text}
    (hfile : file ∈ fs.filesAt true path) : Holds path file := by
  -- The folders inside are smaller trees.
  induction hsize : sizeOf entries using Nat.strongRecOn generalizing path access entries with
  | ind size ih =>
    have hlisted : access.unlisted = none := by
      by_contra hunlisted
      simp [filesAt_of_unlisted hfolder hunlisted] at hfile
    rw [filesAt_recursive hroot habsolute hfolder hlisted, List.mem_append] at hfile
    rcases hfile with hown | hinner
    · rcases List.mem_map.1 hown with ⟨name, hname, rfl⟩
      rcases List.mem_map.1 ((Text.sort_perm _).mem_iff.1 hname) with ⟨entry, hentry, rfl⟩
      rcases List.mem_filter.1 hentry with ⟨hmem, hkept⟩
      exact hleaf path access entries habsolute hfolder hlisted entry hmem hkept
    · rcases List.mem_flatMap.1 hinner with ⟨name, hname, hinside⟩
      rcases List.mem_map.1 ((Text.sort_perm _).mem_iff.1 hname) with ⟨entry, hentry, rfl⟩
      rcases List.mem_filter.1 hentry with ⟨hmem, hkept⟩
      rcases entry with ⟨name, node⟩
      cases node with
      | file kind reading => cases hkept
      | link target => cases hkept
      | folder inner held =>
        refine hbelow path access entries habsolute hfolder hlisted (name, .folder inner held) hmem
          file ?_
        rcases locate_inside_cases hroot habsolute hfolder hmem (by simp) with
          hok | ⟨⟨fault, herror⟩, -⟩
        · have hsmaller : sizeOf held < size := by
            have hlt := List.sizeOf_lt_of_mem hmem
            simp only [Prod.mk.sizeOf_spec, Node.folder.sizeOf_spec] at hlt
            omega
          exact ih _ hsmaller (isAbsolute_inside habsolute name) hok hinside rfl
        · simp [filesAt, herror] at hinside

end FileSystem
end BranchFold
