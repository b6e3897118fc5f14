import BranchFold.Proofs.Collected
import BranchFold.Proofs.ListingOrder

/-!
# Collections as unions

A collection holds every file once, where it comes up first.  So the collection for two lists of
paths is the collection for the first with what the second adds, and paths whose files have come up
before add nothing: repeated paths, however they are spelled, and files inside a folder that is
named as well and lists its entries.  Collected paths are in normal form, and none of them leads to
a folder.  When they are collected again, they stand for themselves as long as they lead to a
regular file.  A folder lists its entries by name, whatever becomes of their paths, so those that do
not are links that lead nowhere, pipes and other special files, entries of a folder that lets nobody
pass, and entries whose path is longer than the file system follows.

Main definitions:

- {lit}`FileSystem.Contains`: a folder and what lies in it.
- {lit}`FileSystem.IsBrokenLink`: the path of a link that leads nowhere.
- {lit}`FileSystem.IsBarred`: the path of an entry of a folder that lets nobody pass.

Main results:

- Theorem {lit}`eraseDups_append_of_subset`: items that have come up before add nothing.
- Theorem {lit}`FileSystem.mem_filesAt_of_contains`: a folder stands for the files in it.
- Theorem {lit}`FileSystem.isCollected_of_mem_collected`: where collected paths can lead.
- Theorem {lit}`FileSystem.collection_is_union`: the collection for several paths.
-/

namespace BranchFold

/-! ## First occurrences -/

section FirstOccurrences

variable {α : Type} [BEq α] [LawfulBEq α] {items more : List α} {item : α}

/-- An item that has come up before adds nothing. -/
theorem eraseDups_concat_of_mem (h : item ∈ items) :
    (items ++ [item]).eraseDups = items.eraseDups := by
  simp [List.eraseDups_append, List.removeAll, h]

/-- An item that has not come up before is added at the end. -/
theorem eraseDups_concat_of_notMem (h : item ∉ items) :
    (items ++ [item]).eraseDups = items.eraseDups ++ [item] := by
  simp [List.eraseDups_append, List.removeAll, h, List.eraseDups_cons]

/-- It makes no difference whether repetitions or unwanted items are dropped first. -/
theorem eraseDups_filter (keeps : α → Bool) (items : List α) :
    (items.filter keeps).eraseDups = items.eraseDups.filter keeps := by
  induction items using List.reverseRecOn with
  | nil => rfl
  | append_singleton items item ih =>
    rw [List.filter_append]
    cases hkeeps : keeps item with
    | false =>
      have hnone : [item].filter keeps = [] := by simp [hkeeps]
      rw [hnone, List.append_nil, ih]
      by_cases hmem : item ∈ items
      · rw [eraseDups_concat_of_mem hmem]
      · rw [eraseDups_concat_of_notMem hmem, List.filter_append, hnone, List.append_nil]
    | true =>
      have hself : [item].filter keeps = [item] := by simp [hkeeps]
      rw [hself]
      by_cases hmem : item ∈ items
      · rw [eraseDups_concat_of_mem hmem,
          eraseDups_concat_of_mem (List.mem_filter.2 ⟨hmem, hkeeps⟩), ih]
      · have hkept : item ∉ items.filter keeps := fun h => hmem (List.mem_filter.1 h).1
        rw [eraseDups_concat_of_notMem hmem, eraseDups_concat_of_notMem hkept, List.filter_append,
          hself, ih]

/-- Without repetitions there is nothing to drop. -/
theorem eraseDups_of_nodup (h : items.Nodup) : items.eraseDups = items := by
  induction items using List.reverseRecOn with
  | nil => rfl
  | append_singleton items item ih =>
    rw [List.nodup_append'] at h
    have hnew : item ∉ items := fun hmem => h.2.2 hmem (List.mem_singleton.2 rfl)
    rw [eraseDups_concat_of_notMem hnew, ih h.1]

/-- Of the items behind others, those are kept that have not come up before. -/
theorem eraseDups_append_eq (items more : List α) :
    (items ++ more).eraseDups =
      items.eraseDups ++ more.eraseDups.filter fun item => !items.eraseDups.contains item := by
  rw [List.eraseDups_append, List.removeAll, eraseDups_filter]
  congr 2
  funext item
  rw [Bool.eq_iff_iff]
  simp

/-- Items that have come up before add nothing, wherever they stand. -/
theorem eraseDups_append_of_subset (rest : List α) (h : more ⊆ items) :
    (items ++ (more ++ rest)).eraseDups = (items ++ rest).eraseDups := by
  rw [← List.append_assoc, eraseDups_append_eq, eraseDups_append_eq items rest]
  have hfront : (items ++ more).eraseDups = items.eraseDups := by
    have hnone : more.eraseDups.filter (fun item => !items.eraseDups.contains item) = [] := by
      rw [List.filter_eq_nil_iff]
      intro item hitem
      have hmem : item ∈ items := h (List.mem_eraseDups.1 hitem)
      simp [hmem]
    rw [eraseDups_append_eq, hnone, List.append_nil]
  rw [hfront]

/-- The same items, without repetitions, in some order. -/
theorem eraseDups_perm_of_subset (rest : List α) (h : more ⊆ items ++ rest) :
    ((items ++ (more ++ rest)).eraseDups).Perm (items ++ rest).eraseDups := by
  refine (List.perm_ext_iff_of_nodup (nodup_eraseDups _) (nodup_eraseDups _)).2 ?_
  intro item
  simp only [List.mem_eraseDups, List.mem_append]
  constructor
  · intro hitem
    rcases hitem with hitem | hmore | hitem
    · exact Or.inl hitem
    · exact List.mem_append.1 (h hmore)
    · exact Or.inr hitem
  · intro hitem
    rcases hitem with hitem | hitem
    · exact Or.inl hitem
    · exact Or.inr (Or.inr hitem)

end FirstOccurrences

/-! ## Files in folders -/

namespace FileSystem

variable {fs : FileSystem} {recursive : Bool} {path file : Text}

/-- What lies in a folder that lists its entries: the entries and, when the folders inside count,
what lies in those. -/
inductive Contains (fs : FileSystem) (recursive : Bool) : Text → Text → Prop
  | direct {directory name : Text} {access : Access} {entries : List (Text × Node)} {node : Node}
      (folder : fs.locate directory = .ok (.folder access entries))
      (listed : access.unlisted = none) (mem : (name, node) ∈ entries) :
      Contains fs recursive directory (Path.inside directory name)
  | inner {directory name file : Text} {access inner : Access} {entries held : List (Text × Node)}
      (counts : recursive = true) (folder : fs.locate directory = .ok (.folder access entries))
      (listed : access.unlisted = none) (mem : (name, .folder inner held) ∈ entries)
      (inside : Contains fs recursive (Path.inside directory name) file) :
      Contains fs recursive directory file

/-- An entry that leads to a file is among the files of its folder. -/
theorem mem_filesAt_of_mem (hroot : fs.root.isWellNamed = true)
    (habsolute : Path.isAbsolute path = true) {access : Access} {entries : List (Text × Node)}
    (hfolder : fs.locate path = .ok (.folder access entries)) (hlisted : access.unlisted = none)
    {name : Text} {node : Node} (hmem : (name, node) ∈ entries)
    (hfile : fs.isFile (Path.inside path name) = true) :
    Path.inside path name ∈ fs.filesAt recursive path := by
  have hdirect : Path.inside path name ∈ fs.filesAt false path := by
    rw [filesAt_direct hfolder hlisted]
    refine List.mem_map.2 ⟨name, (Text.sort_perm _).mem_iff.2 ?_, rfl⟩
    exact List.mem_map.2 ⟨(name, node), List.mem_filter.2 ⟨hmem, hfile⟩, rfl⟩
  cases recursive with
  | false => exact hdirect
  | true => exact mem_filesAt_recursive hroot habsolute hdirect

/-- A folder stands for the files in it. -/
theorem mem_filesAt_of_contains (hroot : fs.root.isWellNamed = true)
    (habsolute : Path.isAbsolute path = true) (hcontains : fs.Contains recursive path file)
    (hfile : fs.isFile file = true) : file ∈ fs.filesAt recursive path := by
  induction hcontains with
  | direct hfolder hlisted hmem =>
    exact mem_filesAt_of_mem hroot habsolute hfolder hlisted hmem hfile
  | @inner directory name file access inner entries held hcounts hfolder hlisted hmem _ ih =>
    have hinner := ih (isAbsolute_inside habsolute name) hfile
    rw [hcounts] at hinner ⊢
    rw [filesAt_recursive hroot habsolute hfolder hlisted]
    refine List.mem_append_right _ (List.mem_flatMap.2 ⟨name, ?_, hinner⟩)
    refine (Text.sort_perm _).mem_iff.2 ?_
    exact List.mem_map.2 ⟨(name, .folder inner held), List.mem_filter.2 ⟨hmem, rfl⟩, rfl⟩

/-! ## Where collected paths lead -/

/-- The path is that of a link in a folder that lets pass, it is not too long, and still the link
leads nowhere. -/
def IsBrokenLink (fs : FileSystem) (path : Text) : Prop :=
  (∃ directory access entries name target, Path.isAbsolute directory = true ∧
    fs.locate directory = .ok (.folder access entries) ∧ access.barred = none ∧
      (name, .link target) ∈ entries ∧ path = Path.inside directory name) ∧
  byteLength path ≤ longestPath ∧ ∃ fault, fs.locate path = .error fault

/-- The path is that of an entry of a folder that lists its entries, but lets nobody pass to
them. -/
def IsBarred (fs : FileSystem) (path : Text) : Prop :=
  ∃ directory access entries name node, Path.isAbsolute directory = true ∧
    fs.locate directory = .ok (.folder access entries) ∧ access.unlisted = none ∧
      access.barred ≠ none ∧ (name, node) ∈ entries ∧ path = Path.inside directory name

/-- What is known of a collected path: it is in normal form, it leads to no folder, and it leads to
a regular file unless there is one of four reasons against it. -/
structure IsCollected (fs : FileSystem) (file : Text) : Prop where
  isNormal : Path.IsNormal file
  isFolder_eq : fs.isFolder file = false
  reached : fs.isFile file = false →
    fs.IsBrokenLink file ∨ fs.isSpecial file = true ∨ fs.IsBarred file ∨
      longestPath < byteLength file

theorem isCollected_of_isFile (hnormal : Path.IsNormal file) (hfile : fs.isFile file = true) :
    fs.IsCollected file :=
  ⟨hnormal, isFolder_eq_false_of_isFile hfile, fun hnot => absurd hfile (by simp [hnot])⟩

/-- The entries of a folder that are no folders and lead to none. -/
theorem isCollected_of_isLeaf (hroot : fs.root.isWellNamed = true) (hnormal : Path.IsNormal path)
    {access : Access} {entries : List (Text × Node)}
    (hfolder : fs.locate path = .ok (.folder access entries)) (hlisted : access.unlisted = none)
    {entry : Text × Node} (hmem : entry ∈ entries) (hleaf : fs.isLeaf path entry = true) :
    fs.IsCollected (Path.inside path entry.1) := by
  have habsolute := hnormal.isAbsolute
  have hentries := areWellNamed_of_locate hroot habsolute hfolder
  have hstep := (Path.isName_iff.1 (Node.isWellNamed_of_mem hentries hmem).1).1
  rcases entry with ⟨name, node⟩
  simp only [isLeaf, Bool.and_eq_true, Bool.not_eq_eq_eq_not, Bool.not_true] at hleaf
  refine ⟨hnormal.inside hstep, hleaf.2, ?_⟩
  intro hnot
  by_cases hlength : byteLength (Path.inside path name) ≤ longestPath
  · by_cases hbarred : access.barred = none
    · cases hlocate : fs.locate (Path.inside path name) with
      | ok found =>
        exact Or.inr (Or.inl (by simp [isSpecial, hlocate, hnot, hleaf.2, Except.toBool]))
      | error fault =>
        cases node with
        | file kind reading =>
          have hfound := locate_inside hroot habsolute hfolder hbarred hmem (by simp) hlength
          rw [hfound] at hlocate
          cases hlocate
        | link target =>
          exact Or.inl ⟨⟨path, access, entries, name, target, habsolute, hfolder, hbarred, hmem,
            rfl⟩, hlength, fault, hlocate⟩
        | folder inner held => cases hleaf.1
    · exact Or.inr (Or.inr (Or.inl
        ⟨path, access, entries, name, node, habsolute, hfolder, hlisted, hbarred, hmem, rfl⟩))
  · exact Or.inr (Or.inr (Or.inr (Nat.lt_of_not_le hlength)))

/-- The files for which a path in normal form stands. -/
theorem isCollected_of_mem_filesAt (hroot : fs.root.isWellNamed = true)
    (hnormal : Path.IsNormal path) (hfile : file ∈ fs.filesAt recursive path) :
    fs.IsCollected file := by
  have habsolute := hnormal.isAbsolute
  cases hlocate : fs.locate path with
  | error fault => simp [filesAt, hlocate] at hfile
  | ok node =>
    cases node with
    | file kind reading =>
      cases kind with
      | regular =>
        have hself : file = path := by simpa [filesAt, hlocate] using hfile
        rw [hself]
        exact isCollected_of_isFile hnormal (by simp [isFile, hlocate])
      | special => simp [filesAt, hlocate] at hfile
    | link target => simp [filesAt, hlocate] at hfile
    | folder access entries =>
      have hrecursive : file ∈ fs.filesAt true path := by
        cases recursive with
        | true => exact hfile
        | false => exact mem_filesAt_recursive hroot habsolute hfile
      -- Normal form is handed down from folder to folder.
      refine filesAt_induction hroot (fun path file =>
        Path.IsNormal path → fs.IsCollected file) ?_ ?_ habsolute hlocate hrecursive hnormal
      · intro path access entries _ hfolder hlisted entry hmem hleaf hnormal
        exact isCollected_of_isLeaf hroot hnormal hfolder hlisted hmem hleaf
      · intro path access entries habsolute hfolder _ entry hmem file hinner hnormal
        have hentries := areWellNamed_of_locate hroot habsolute hfolder
        have hstep := (Path.isName_iff.1 (Node.isWellNamed_of_mem hentries hmem).1).1
        exact hinner (hnormal.inside hstep)

theorem mem_collected {paths : List Text} :
    file ∈ fs.collected recursive paths ↔
      ∃ path ∈ paths, file ∈ fs.filesAt recursive (fs.absolute path) := by
  rw [collected, List.mem_eraseDups, List.mem_flatMap]

theorem isCollected_of_mem_collected (hroot : fs.root.isWellNamed = true) {paths : List Text}
    (hfile : file ∈ fs.collected recursive paths) : fs.IsCollected file := by
  rcases mem_collected.1 hfile with ⟨path, -, hat⟩
  exact isCollected_of_mem_filesAt hroot (Path.isNormal_absolute _ _) hat

/-- A collected path stands for itself if it leads to a file, and otherwise for nothing. -/
theorem IsCollected.filesAt_eq (h : fs.IsCollected file) (recursive : Bool) :
    fs.filesAt recursive (fs.absolute file) = if fs.isFile file then [file] else [] := by
  have hfolder := h.isFolder_eq
  rw [absolute, h.isNormal.absolute_eq, filesAt, isFile]
  unfold isFolder at hfolder
  cases hlocate : fs.locate file with
  | error fault => rfl
  | ok node =>
    rw [hlocate] at hfolder
    cases node with
    | file kind reading => cases kind <;> rfl
    | link target => rfl
    | folder access entries => cases hfolder

/-- A path that leads to a file stands for nothing else. -/
theorem filesAt_of_isFile (h : fs.isFile path = true) (hfile : file ∈ fs.filesAt recursive path) :
    file = path := by
  unfold isFile at h
  unfold filesAt at hfile
  cases hlocate : fs.locate path with
  | error fault => simp [hlocate] at h
  | ok node =>
    cases node with
    | file kind reading => cases kind <;> simp_all
    | link target => simp [hlocate] at h
    | folder access entries => simp [hlocate] at h

/-- Only a folder can refuse to list its entries. -/
theorem listFault?_of_isFolder_eq_false (h : fs.isFolder path = false) :
    fs.listFault? recursive path = none := by
  unfold isFolder at h
  unfold listFault?
  cases hlocate : fs.locate path with
  | error fault => rfl
  | ok node =>
    rw [hlocate] at h
    cases node with
    | file kind reading => rfl
    | link target => rfl
    | folder access entries => cases h

/-! ## Unions -/

/-- What is collected for two lists of paths, one behind the other. -/
theorem collect_append (fs : FileSystem) (recursive : Bool) (paths more : List Text) :
    fs.collect recursive (paths ++ more) =
      (fs.collect recursive paths).bind fun files =>
        (fs.collect recursive more).map fun others =>
          files ++ others.filter fun file => file ∉ files := by
  have hunion := eraseDups_append_eq
    (paths.flatMap fun path => fs.filesAt recursive (fs.absolute path))
    (more.flatMap fun path => fs.filesAt recursive (fs.absolute path))
  rw [← List.flatMap_append] at hunion
  unfold collect firstListFault?
  rw [List.findSome?_append]
  cases paths.findSome? fun path => fs.listFault? recursive (fs.absolute path) with
  | some fault => rfl
  | none =>
    cases more.findSome? fun path => fs.listFault? recursive (fs.absolute path) with
    | some fault => rfl
    | none =>
      refine congrArg Except.ok (hunion.trans ?_)
      congr 2
      funext file
      rw [Bool.eq_iff_iff]
      simp [collected]

/-- A path adds no folder that cannot be listed if every such folder has come up before. -/
theorem firstListFault?_append_cons (paths rest : List Text)
    (h : ∀ fault, fs.listFault? recursive (fs.absolute path) = some fault →
      ∃ earlier ∈ paths, fs.listFault? recursive (fs.absolute earlier) = some fault) :
    fs.firstListFault? recursive (paths ++ path :: rest) =
      fs.firstListFault? recursive (paths ++ rest) := by
  unfold firstListFault?
  rw [List.findSome?_append, List.findSome?_append, List.findSome?_cons]
  cases hfirst : paths.findSome? fun path => fs.listFault? recursive (fs.absolute path) with
  | some fault => rfl
  | none =>
    cases hpath : fs.listFault? recursive (fs.absolute path) with
    | none => rfl
    | some fault =>
      rcases h fault hpath with ⟨earlier, hmem, hearlier⟩
      have hnone := List.findSome?_eq_none_iff.1 hfirst earlier hmem
      rw [hearlier] at hnone
      cases hnone

/-- A path whose files have come up before adds nothing. -/
theorem collected_append_cons_of_subset (paths rest : List Text)
    (h : ∀ file ∈ fs.filesAt recursive (fs.absolute path),
      ∃ earlier ∈ paths, file ∈ fs.filesAt recursive (fs.absolute earlier)) :
    fs.collected recursive (paths ++ path :: rest) = fs.collected recursive (paths ++ rest) := by
  unfold collected
  rw [List.flatMap_append, List.flatMap_cons, List.flatMap_append]
  exact eraseDups_append_of_subset _ fun file hfile => List.mem_flatMap.2 (h file hfile)

/-- A path whose files come up elsewhere changes at most the order. -/
theorem collected_append_cons_perm (paths rest : List Text)
    (h : ∀ file ∈ fs.filesAt recursive (fs.absolute path),
      ∃ other ∈ paths ++ rest, file ∈ fs.filesAt recursive (fs.absolute other)) :
    (fs.collected recursive (paths ++ path :: rest)).Perm
      (fs.collected recursive (paths ++ rest)) := by
  unfold collected
  rw [List.flatMap_append, List.flatMap_cons, List.flatMap_append]
  refine eraseDups_perm_of_subset _ fun file hfile => ?_
  rw [← List.flatMap_append]
  exact List.mem_flatMap.2 (h file hfile)

/-- A path that repeats an earlier one adds nothing. -/
theorem collect_append_cons_of_absolute_eq {paths : List Text} (rest : List Text)
    (h : ∃ earlier ∈ paths, fs.absolute earlier = fs.absolute path) :
    fs.collect recursive (paths ++ path :: rest) = fs.collect recursive (paths ++ rest) := by
  rcases h with ⟨earlier, hmem, hsame⟩
  rw [collect, collect, firstListFault?_append_cons paths rest, collected_append_cons_of_subset]
  · intro file hfile
    exact ⟨earlier, hmem, hsame ▸ hfile⟩
  · intro fault hfault
    exact ⟨earlier, hmem, hsame ▸ hfault⟩

section ContainedFiles

variable {paths rest : List Text} {directory : Text}
  (hfound : fs.absolute file ∈ fs.filesAt recursive (fs.absolute directory))
  (hfile : fs.isFile (fs.absolute file) = true)

include hfound hfile

omit hfound in
/-- A file is no folder that cannot be listed. -/
theorem firstListFault?_append_file :
    fs.firstListFault? recursive (paths ++ file :: rest) =
      fs.firstListFault? recursive (paths ++ rest) := by
  refine firstListFault?_append_cons paths rest fun fault hfault => ?_
  rw [listFault?_of_isFolder_eq_false (isFolder_eq_false_of_isFile hfile)] at hfault
  cases hfault

/-- A file adds nothing behind a folder that contains it. -/
theorem collect_append_cons_of_contained (hmem : directory ∈ paths) :
    fs.collect recursive (paths ++ file :: rest) = fs.collect recursive (paths ++ rest) := by
  rw [collect, collect, firstListFault?_append_file hfile, collected_append_cons_of_subset]
  intro found hat
  exact ⟨directory, hmem, (filesAt_of_isFile hfile hat) ▸ hfound⟩

/-- A file changes at most the order in front of a folder that contains it. -/
theorem collect_append_cons_perm_of_contained (hmem : directory ∈ rest) {files : List Text}
    (h : fs.collect recursive (paths ++ rest) = .ok files) :
    ∃ files', fs.collect recursive (paths ++ file :: rest) = .ok files' ∧ files'.Perm files := by
  rw [eq_collected_of_collect h]
  refine ⟨fs.collected recursive (paths ++ file :: rest), ?_, ?_⟩
  · unfold collect at h ⊢
    rw [firstListFault?_append_file hfile]
    cases hfirst : fs.firstListFault? recursive (paths ++ rest) with
    | some fault =>
      rw [hfirst] at h
      cases h
    | none => rfl
  · refine collected_append_cons_perm paths rest fun found hat => ?_
    exact ⟨directory, List.mem_append_right _ hmem, (filesAt_of_isFile hfile hat) ▸ hfound⟩

end ContainedFiles

/-- Collecting a collection again keeps the paths that lead to files. -/
theorem collect_collected (hroot : fs.root.isWellNamed = true) (recursive again : Bool)
    (paths : List Text) :
    fs.collect again (fs.collected recursive paths) =
      .ok ((fs.collected recursive paths).filter fs.isFile) := by
  have hself : (fs.collected recursive paths).flatMap (fun file =>
      fs.filesAt again (fs.absolute file)) = (fs.collected recursive paths).filter fs.isFile := by
    rw [← List.flatMap_singleton' ((fs.collected recursive paths).filter fs.isFile), flatMap_filter]
    exact List.flatMap_congr fun file hfile =>
      (isCollected_of_mem_collected hroot hfile).filesAt_eq again
  have hfault : fs.firstListFault? again (fs.collected recursive paths) = none := by
    refine List.findSome?_eq_none_iff.2 fun file hfile => ?_
    have hcollected := isCollected_of_mem_collected hroot hfile
    rw [absolute, hcollected.isNormal.absolute_eq]
    exact listFault?_of_isFolder_eq_false hcollected.isFolder_eq
  rw [collect, hfault]
  dsimp only
  rw [collected, hself]
  exact congrArg Except.ok (eraseDups_of_nodup ((nodup_eraseDups _).filter _))

/--
A collection is a union in which every file stands where it comes up first.  No file comes twice,
and the collection for two lists of paths is that for the first followed by what the second adds, in
its order; it fails where the first or else the second fails.  A path that repeats an earlier one,
in whatever spelling, adds nothing.  In a tree with names as a file system allows them, a file adds
nothing beside a folder that contains it and lists it, and a collection that is collected again
keeps the paths that lead to regular files.  It loses broken links, special files, entries of
folders that let nobody pass and entries whose path is too long to be followed, and nothing else.
-/
theorem collection_is_union (fs : FileSystem) (recursive : Bool) :
    (∀ paths files, fs.collect recursive paths = .ok files → files.Nodup) ∧
    (∀ paths more, fs.collect recursive (paths ++ more) =
      (fs.collect recursive paths).bind fun files =>
        (fs.collect recursive more).map fun others =>
          files ++ others.filter fun file => file ∉ files) ∧
    (∀ paths path rest, (∃ earlier ∈ paths, fs.absolute earlier = fs.absolute path) →
      fs.collect recursive (paths ++ path :: rest) = fs.collect recursive (paths ++ rest)) ∧
    (fs.root.isWellNamed = true →
      (∀ paths file rest directory,
        fs.Contains recursive (fs.absolute directory) (fs.absolute file) →
        fs.isFile (fs.absolute file) = true →
        (directory ∈ paths →
          fs.collect recursive (paths ++ file :: rest) = fs.collect recursive (paths ++ rest)) ∧
        (directory ∈ rest → ∀ files, fs.collect recursive (paths ++ rest) = .ok files →
          ∃ files', fs.collect recursive (paths ++ file :: rest) = .ok files' ∧
            files'.Perm files)) ∧
      ∀ again paths files, fs.collect recursive paths = .ok files →
        fs.collect again files = .ok (files.filter fs.isFile) ∧
        ∀ file ∈ files, fs.isFile file = false →
          fs.IsBrokenLink file ∨ fs.isSpecial file = true ∨ fs.IsBarred file ∨
            longestPath < byteLength file) := by
  refine ⟨?_, collect_append fs recursive, ?_, ?_⟩
  · intro paths files h
    rw [eq_collected_of_collect h]
    exact nodup_eraseDups _
  · intro paths path rest hearlier
    exact collect_append_cons_of_absolute_eq rest hearlier
  · intro hroot
    refine ⟨?_, ?_⟩
    · intro paths file rest directory hcontains hfile
      have hfound := mem_filesAt_of_contains hroot (Path.isNormal_absolute _ _).isAbsolute hcontains
        hfile
      exact ⟨collect_append_cons_of_contained hfound hfile,
        fun hmem files h => collect_append_cons_perm_of_contained hfound hfile hmem h⟩
    · intro again paths files h
      rw [eq_collected_of_collect h]
      exact ⟨collect_collected hroot recursive again paths,
        fun file hfile => (isCollected_of_mem_collected hroot hfile).reached⟩

/-- A folder that is spelled in two ways, a file in it that is named as well, and a collection with
a broken link that is collected again. -/
theorem union_of_folder_and_its_file :
    let entries : List (Text × Node) :=
      [("y".toList, .document [1]), ("gone".toList, .link "to".toList)]
    let fs : FileSystem :=
      ⟨.openFolder [("b".toList, .openFolder entries), ("x".toList, .document [])], ['/']⟩
    fs.root.isWellNamed = true ∧ fs.absolute "b".toList = fs.absolute "./x/../b/".toList ∧
      fs.Contains true (fs.absolute "b".toList) (fs.absolute "b/y".toList) ∧
      fs.isFile (fs.absolute "b/y".toList) = true ∧
      fs.collect true ["b".toList] = .ok ["/b/gone".toList, "/b/y".toList] ∧
      ["/b/gone".toList, "/b/y".toList].Nodup ∧
      fs.collect true ["b".toList, "".toList] =
        .ok (["/b/gone".toList, "/b/y".toList] ++ ["/x".toList]) ∧
      fs.collect true ["b".toList, "./x/../b/".toList] = fs.collect true ["b".toList] ∧
      fs.collect true ["b".toList, "b/y".toList] = fs.collect true ["b".toList] ∧
      (∃ files, fs.collect true ["b/y".toList, "b".toList] = .ok files ∧
        files.Perm ["/b/gone".toList, "/b/y".toList]) ∧
      fs.collect false ["/b/gone".toList, "/b/y".toList] = .ok ["/b/y".toList] ∧
      fs.IsBrokenLink "/b/gone".toList := by
  intro entries fs
  obtain ⟨hnodup, hunion, hrepeated, hnamed⟩ := collection_is_union fs true
  have hroot : fs.root.isWellNamed = true := by decide
  obtain ⟨hcontained, hagain⟩ := hnamed hroot
  have hspelled : fs.absolute "b".toList = fs.absolute "./x/../b/".toList := by decide
  have hlocate : fs.locate (fs.absolute "b".toList) = .ok (.openFolder entries) := by cbv
  have hcontains : fs.Contains true (fs.absolute "b".toList) (fs.absolute "b/y".toList) :=
    .direct hlocate rfl List.mem_cons_self
  have hisFile : fs.isFile (fs.absolute "b/y".toList) = true := by cbv
  have hlisted : fs.collect true ["b".toList] = .ok ["/b/gone".toList, "/b/y".toList] := by cbv
  obtain ⟨hbehind, -⟩ := hcontained ["b".toList] "b/y".toList [] "b".toList hcontains hisFile
  obtain ⟨-, hbefore⟩ := hcontained [] "b/y".toList ["b".toList] "b".toList hcontains hisFile
  obtain ⟨hkept, -⟩ := hagain false ["b".toList] _ hlisted
  refine ⟨hroot, hspelled, hcontains, hisFile, hlisted, hnodup _ _ hlisted, ?_, ?_, ?_, ?_, ?_, ?_⟩
  · refine (hunion ["b".toList] ["".toList]).trans ?_
    rw [hlisted]
    cbv
  · exact hrepeated ["b".toList] "./x/../b/".toList [] ⟨"b".toList, by simp, hspelled⟩
  · exact hbehind (by simp)
  · exact hbefore (by simp) _ hlisted
  · exact hkept.trans (by cbv)
  · exact ⟨⟨"/b".toList, {}, entries, "gone".toList, "to".toList, rfl, hlocate, rfl,
      by simp [entries], rfl⟩, by decide, .notFound, by cbv⟩

/-- A link of the top folder that leads to the folder itself can be followed again and again. -/
theorem follow_replicate {entries : List (Text × Node)} {name : Text}
    (hname : Path.isName name = true) (hlink : entries.lookup name = some (.link Path.here))
    (links count : Nat) (rest : List Text) :
    follow (.openFolder entries) (links + count) [] (List.replicate count name ++ rest) =
      follow (.openFolder entries) links [] rest := by
  rcases Path.isName_iff.1 hname with ⟨hstep, -, hshort⟩
  induction count with
  | zero => rfl
  | succ count ih =>
    have hnext : advance (.openFolder entries) (links + count + 1) [] name =
        .ok ⟨links + count, [], [Path.here]⟩ := by
      rw [advance, List.reverse_nil, Node.descend?]
      dsimp only
      rw [if_neg (by simp [hstep.ne_nil]), if_neg (by simp [hstep.ne_here]),
        if_neg (by simp [hstep.ne_above]), advanceTo, if_neg (by omega), hlink]
      rfl
    rw [List.replicate_succ, List.cons_append, ← Nat.add_assoc, follow_cons, hnext]
    dsimp only
    rw [List.singleton_append, follow_cons]
    exact ih

/-- A file whose path is too long is listed with its folder, but it is lost when the collection is
collected again. -/
theorem overlong_file_is_lost :
    let link : Text := List.replicate 255 'l'
    let name : Text := List.replicate 255 'f'
    let fs : FileSystem :=
      ⟨.openFolder [(link, .link Path.here), (['s'], .openFolder [(name, .document [])])], ['/']⟩
    let directory : Text := '/' :: Path.joined (List.replicate 15 link ++ [['s']])
    fs.root.isWellNamed = true ∧
      fs.locate directory = .ok (.openFolder [(name, .document [])]) ∧
      fs.collect true [directory] = .ok [Path.inside directory name] ∧
      fs.collect true [Path.inside directory name] = .ok [] := by
  intro link name fs directory
  have hroot : fs.root.isWellNamed = true := by decide +kernel
  have hlink : Path.isName link = true := by decide +kernel
  have hsteps : ∀ step ∈ List.replicate 15 link ++ [['s']], Path.IsStep step := by
    intro step hstep
    rcases List.mem_append.1 hstep with hstep | hstep
    · rw [List.eq_of_mem_replicate hstep]
      exact (Path.isName_iff.1 hlink).1
    · rw [List.mem_singleton.1 hstep]
      exact ⟨by decide, by decide, by decide, by decide⟩
  have hnormal : Path.IsNormal directory := ⟨['/'], _, Or.inl rfl, hsteps, rfl⟩
  have hlocate : fs.locate directory = .ok (.openFolder [(name, .document [])]) := by
    refine (locate_eq_ok_iff hnormal.isAbsolute).2 ⟨by decide +kernel, by decide +kernel, ?_⟩
    have hpieces : Path.pieces directory = [] :: (List.replicate 15 link ++ [['s']]) := by
      rw [← Path.pieces_joined (by simp) hsteps]
      rfl
    have hstart : follow fs.root mostLinks [] (Path.pieces directory) =
        follow fs.root (25 + 15) [] (List.replicate 15 link ++ [['s']]) := by
      rw [hpieces, follow_cons]
      rfl
    rw [hstart, follow_replicate hlink List.lookup_cons_self, follow_cons]
    exact follow_nil_eq_ok_iff.2 rfl
  have hlong : longestPath < byteLength (Path.inside directory name) := by decide +kernel
  have hfault : ∃ fault, fs.locate (Path.inside directory name) = .error fault :=
    locate_of_longestPath_lt hlong
  rcases hfault with ⟨fault, hfault⟩
  have hnotFile : fs.isFile (Path.inside directory name) = false := by simp [isFile, hfault]
  have hlisted : fs.collected true [directory] = [Path.inside directory name] := by
    have hleaf : fs.isLeaf directory (name, .document []) = true := by
      simp [isLeaf, Node.isFolder, isFolder, hfault]
    have hfiles := filesAt_recursive hroot hnormal.isAbsolute hlocate rfl
    rw [collected, List.flatMap_singleton, absolute, hnormal.absolute_eq, hfiles]
    simpa [hleaf, Node.isFolder, Text.sort] using eraseDups_of_nodup (List.nodup_singleton _)
  have hagain := collect_collected hroot true true [directory]
  rw [hlisted] at hagain
  refine ⟨hroot, hlocate, ?_, hagain.trans (by simp [hnotFile])⟩
  rw [collect_recursive, hlisted]

/-- A collection that is collected again loses more than broken links: files whose path is too long,
and pipes.  And a file adds something beside its folder if the folder refuses to list it. -/
theorem collection_loses_more_than_broken_links :
    let link : Text := List.replicate 255 'l'
    let name : Text := List.replicate 255 'f'
    let winding : FileSystem :=
      ⟨.openFolder [(link, .link Path.here), (['s'], .openFolder [(name, .document [])])], ['/']⟩
    let directory : Text := '/' :: Path.joined (List.replicate 15 link ++ [['s']])
    let piped : FileSystem := ⟨.openFolder [("pipe".toList, .file .special .endless)], ['/']⟩
    let hidden : Node := .folder ⟨some .denied, none⟩ [("f".toList, .document [])]
    let shut : FileSystem := ⟨.openFolder [("shut".toList, hidden)], ['/']⟩
    (winding.locate directory = .ok (.openFolder [(name, .document [])]) ∧
      winding.collect true [directory] = .ok [Path.inside directory name] ∧
      winding.collect true [Path.inside directory name] = .ok []) ∧
    (piped.collect true ["".toList] = .ok ["/pipe".toList] ∧
      piped.collect true ["/pipe".toList] = .ok []) ∧
    (shut.collect true ["shut".toList] = .ok [] ∧
      shut.collect true ["shut".toList, "shut/f".toList] = .ok ["/shut/f".toList]) := by
  intro link name winding directory piped hidden shut
  obtain ⟨-, hlocate, hlisted, hlost⟩ := overlong_file_is_lost
  exact ⟨⟨hlocate, hlisted, hlost⟩, ⟨by cbv, by cbv⟩, by cbv, by cbv⟩

end FileSystem
end BranchFold
