import BranchFold.Proofs.FolderFiles
import Mathlib

/-!
# Collections do not depend on listings

A file system lists the entries of a folder in an order of its own.  This module proves that no
order shows in a collection of files: trees that differ only in their listings lead every path to
the same place, and the files below a folder are put in the order of their names.  Without the
folders inside, a folder gives no file that it does not give with them.  With them, a collection
never fails; without them, it fails exactly if a path leads to a folder that refuses to list its
entries.

Main definitions:

- {lit}`Node.Relisted`: the same tree with other listings.

Main results:

- Theorem {lit}`FileSystem.locate_relisted`: paths lead to the same places.
- Theorem {lit}`FileSystem.collect_relisted`: the same files are collected in the same order.
- Theorem {lit}`FileSystem.collection_order`: what a collection consists of, and in which order.
-/

namespace BranchFold

/-! ## Listings -/

namespace Node

/-- The same tree with other listings: a folder holds the same names in any order, and under each
name the same tree with other listings. -/
inductive Relisted : Node → Node → Prop
  | file (kind : FileKind) (reading : Reading) : Relisted (file kind reading) (file kind reading)
  | link (target : Text) : Relisted (link target) (link target)
  | folder {access : Access} {entries entries' : List (Text × Node)}
      (names : (entries.map (·.1)).Perm (entries'.map (·.1)))
      (nodes : ∀ name node node', (name, node) ∈ entries → (name, node') ∈ entries' →
        Relisted node node') :
      Relisted (folder access entries) (folder access entries')

/-- An entry of one listing has its counterpart in the other. -/
theorem exists_mem_of_perm_names {entries entries' : List (Text × Node)}
    (h : (entries.map (·.1)).Perm (entries'.map (·.1))) {name : Text} {node : Node}
    (hmem : (name, node) ∈ entries) : ∃ node', (name, node') ∈ entries' := by
  have hname : name ∈ entries'.map (·.1) := h.mem_iff.1 (List.mem_map.2 ⟨_, hmem, rfl⟩)
  rcases List.mem_map.1 hname with ⟨⟨_, node'⟩, hmem', rfl⟩
  exact ⟨node', hmem'⟩

variable {root root' : Node}

/-- A name leads to the same tree in both listings, or to none in either. -/
theorem child?_relisted (h : Relisted root root') (hnamed : root.isWellNamed = true)
    (name : Text) : Option.Rel Relisted (root.child? name) (root'.child? name) := by
  cases h with
  | file kind reading => exact .none
  | link target => exact .none
  | @folder access entries entries' names nodes =>
    rw [isWellNamed] at hnamed
    have hnodup := nodup_names_of_areWellNamed hnamed
    have hnodup' : (entries'.map (·.1)).Nodup := names.nodup_iff.1 hnodup
    rw [child?, child?]
    cases hlookup : entries.lookup name with
    | some node =>
      have hmem := (lookup_eq_some_iff hnodup).1 hlookup
      rcases exists_mem_of_perm_names names hmem with ⟨node', hmem'⟩
      rw [(lookup_eq_some_iff hnodup').2 hmem']
      exact .some (nodes name node node' hmem hmem')
    | none =>
      cases hlookup' : entries'.lookup name with
      | none => exact .none
      | some node' =>
        have hmem' := (lookup_eq_some_iff hnodup').1 hlookup'
        rcases exists_mem_of_perm_names names.symm hmem' with ⟨node, hmem⟩
        rw [(lookup_eq_some_iff hnodup).2 hmem] at hlookup
        cases hlookup

/-- Names lead to the same places in both trees. -/
theorem descend?_relisted (h : Relisted root root') (hnamed : root.isWellNamed = true)
    (names : List Text) : Option.Rel Relisted (root.descend? names) (root'.descend? names) := by
  induction names generalizing root root' with
  | nil => exact .some h
  | cons name rest ih =>
    have hentry := child?_relisted h hnamed name
    have hinner : ∀ node, root.child? name = some node → node.isWellNamed = true := by
      intro node hnode
      have hdescend : root.descend? [name] = some node := by simp [descend?, hnode]
      exact isWellNamed_descend hnamed hdescend
    rw [descend?, descend?]
    generalize root.child? name = found at hentry hinner
    generalize root'.child? name = found' at hentry
    cases hentry with
    | none => exact .none
    | some hrelisted => exact ih hrelisted (hinner _ rfl)

/-- What the entries of a folder add is put in the same order whatever the listing. -/
theorem arranged_relisted {leadsToFolder : Text → Bool} {path : Text}
    {entries entries' : List (Text × Node)} (hnodup : (entries.map (·.1)).Nodup)
    (names : (entries.map (·.1)).Perm (entries'.map (·.1)))
    (hsame : ∀ name node node', (name, node) ∈ entries → (name, node') ∈ entries' →
      contribution leadsToFolder (Path.inside path name) node =
        contribution leadsToFolder (Path.inside path name) node') :
    Contribution.arranged (contributions leadsToFolder path entries) =
      Contribution.arranged (contributions leadsToFolder path entries') := by
  have hkeys : ∀ listing : List (Text × Node),
      (contributions leadsToFolder path listing).map (·.1) = listing.map (·.1) := by
    intro listing
    rw [contributions_eq_map, List.map_map]
    rfl
  have hnodupKeys : ((contributions leadsToFolder path entries).map (·.1)).Nodup := by
    rwa [hkeys]
  have hnodupKeys' : ((contributions leadsToFolder path entries').map (·.1)).Nodup := by
    rw [hkeys]
    exact names.nodup_iff.1 hnodup
  have hperm : (contributions leadsToFolder path entries).Perm
      (contributions leadsToFolder path entries') := by
    refine (List.perm_ext_iff_of_nodup hnodupKeys.of_map hnodupKeys'.of_map).2 ?_
    intro part
    simp only [contributions_eq_map, List.mem_map, Prod.exists]
    constructor
    · intro hpart
      rcases hpart with ⟨name, node, hmem, rfl⟩
      rcases exists_mem_of_perm_names names hmem with ⟨node', hmem'⟩
      exact ⟨name, node', hmem', by rw [hsame name node node' hmem hmem']⟩
    · intro hpart
      rcases hpart with ⟨name, node', hmem', rfl⟩
      rcases exists_mem_of_perm_names names.symm hmem' with ⟨node, hmem⟩
      exact ⟨name, node, hmem, by rw [hsame name node node' hmem hmem']⟩
  unfold Contribution.arranged
  rw [Text.sortByName_eq_of_perm hperm hnodupKeys]

/-- What a node adds to the files below its folder does not depend on listings. -/
theorem contribution_relisted (leadsToFolder : Text → Bool) {node node' : Node}
    (h : Relisted node node') (hnamed : node.isWellNamed = true) (path : Text) :
    contribution leadsToFolder path node = contribution leadsToFolder path node' := by
  induction h generalizing path with
  | file kind reading => rfl
  | link target => rfl
  | @folder access entries entries' names nodes ih =>
    rw [isWellNamed] at hnamed
    have harranged : Contribution.arranged (contributions leadsToFolder path entries) =
        Contribution.arranged (contributions leadsToFolder path entries') :=
      arranged_relisted (nodup_names_of_areWellNamed hnamed) names
        fun name inner inner' hmem hmem' =>
          ih name inner inner' hmem hmem' (isWellNamed_of_mem hnamed hmem).2 _
    rw [contribution, contribution, harranged]

/-- The files below a folder do not depend on listings. -/
theorem filesBelow_relisted (leadsToFolder : Text → Bool) {node node' : Node}
    (h : Relisted node node') (hnamed : node.isWellNamed = true) (path : Text) :
    node.filesBelow leadsToFolder path = node'.filesBelow leadsToFolder path := by
  cases h with
  | file kind reading => rfl
  | link target => rfl
  | folder names nodes =>
    rw [isWellNamed] at hnamed
    rw [filesBelow, filesBelow]
    congr 1
    exact arranged_relisted (nodup_names_of_areWellNamed hnamed) names
      fun name inner inner' hmem hmem' =>
        contribution_relisted leadsToFolder (nodes name inner inner' hmem hmem')
          (isWellNamed_of_mem hnamed hmem).2 _

end Node

/-! ## Paths -/

namespace FileSystem

variable {root root' : Node}

/-- The search ends at the same place or for the same reason. -/
inductive SameOutcome : Except PathFault Node → Except PathFault Node → Prop
  | ok {node node' : Node} (relisted : Node.Relisted node node') :
      SameOutcome (.ok node) (.ok node')
  | error (cause : PathFault) : SameOutcome (.error cause) (.error cause)

/-- A piece does to the search what it does in the other tree. -/
theorem advance_relisted (h : Node.Relisted root root') (hnamed : root.isWellNamed = true)
    (links : Nat) (place : List Text) (piece : Text) :
    advance root links place piece = advance root' links place piece := by
  have hplace := Node.descend?_relisted h hnamed place.reverse
  have hhere : ∀ node, root.descend? place.reverse = some node → node.isWellNamed = true :=
    fun node hnode => Node.isWellNamed_descend hnamed hnode
  unfold advance
  generalize root.descend? place.reverse = found at hplace hhere
  generalize root'.descend? place.reverse = found' at hplace
  cases hplace with
  | none => rfl
  | some hrelisted =>
    have hentry := Node.child?_relisted hrelisted (hhere _ rfl) piece
    cases hrelisted with
    | file kind reading => rfl
    | link target => rfl
    | folder names nodes =>
      rw [Node.child?, Node.child?] at hentry
      dsimp only
      unfold advanceTo
      generalize List.lookup piece _ = next at hentry
      generalize List.lookup piece _ = next' at hentry
      cases hentry with
      | none => rfl
      | some hnext => cases hnext <;> rfl

/-- The search takes the same way in both trees. -/
theorem follow_relisted (h : Node.Relisted root root') (hnamed : root.isWellNamed = true)
    (links : Nat) (place pending : List Text) :
    SameOutcome (follow root links place pending) (follow root' links place pending) := by
  induction links using Nat.strongRecOn generalizing place pending with
  | ind links hlinks =>
    induction pending generalizing place with
    | nil =>
      have hplace := Node.descend?_relisted h hnamed place.reverse
      rw [follow, follow]
      generalize root.descend? place.reverse = found at hplace
      generalize root'.descend? place.reverse = found' at hplace
      cases hplace with
      | none => exact .error _
      | some hrelisted => exact .ok hrelisted
    | cons piece rest hrest =>
      rw [follow_cons, follow_cons, ← advance_relisted h hnamed]
      cases hnext : advance root links place piece with
      | error cause => exact .error cause
      | ok next =>
        dsimp only
        rcases links_lt_or_pushed_eq_nil hnext with hlt | ⟨hsame, hpushed⟩
        · exact hlinks next.links hlt next.place (next.pushed ++ rest)
        · rw [hsame, hpushed, List.nil_append]
          exact hrest next.place

variable {fs : FileSystem}

/-- Paths lead to the same places in both trees. -/
theorem locate_relisted (hnamed : fs.root.isWellNamed = true) (h : Node.Relisted fs.root root')
    (path : Text) :
    SameOutcome (fs.locate path) (FileSystem.locate { fs with root := root' } path) := by
  unfold locate
  split_ifs
  · exact .error _
  · exact .error _
  · exact .error _
  · exact follow_relisted h hnamed _ _ _

theorem isFile_relisted (hnamed : fs.root.isWellNamed = true) (h : Node.Relisted fs.root root') :
    FileSystem.isFile { fs with root := root' } = fs.isFile := by
  funext path
  have hsame := locate_relisted hnamed h path
  unfold isFile
  generalize fs.locate path = found at hsame
  generalize FileSystem.locate { fs with root := root' } path = found' at hsame
  cases hsame with
  | error cause => rfl
  | ok hrelisted => cases hrelisted <;> rfl

theorem isFolder_relisted (hnamed : fs.root.isWellNamed = true) (h : Node.Relisted fs.root root') :
    FileSystem.isFolder { fs with root := root' } = fs.isFolder := by
  funext path
  have hsame := locate_relisted hnamed h path
  unfold isFolder
  generalize fs.locate path = found at hsame
  generalize FileSystem.locate { fs with root := root' } path = found' at hsame
  cases hsame with
  | error cause => rfl
  | ok hrelisted => cases hrelisted <;> rfl

/-! ## Collections -/

/-- A path stands for the same files in both trees. -/
theorem filesAt_relisted (hnamed : fs.root.isWellNamed = true) (h : Node.Relisted fs.root root')
    (recursive : Bool) {path : Text} (habsolute : Path.isAbsolute path = true) :
    FileSystem.filesAt { fs with root := root' } recursive path = fs.filesAt recursive path := by
  have hsame := locate_relisted hnamed h path
  have hhere : ∀ node, fs.locate path = .ok node → node.isWellNamed = true :=
    fun node hnode => isWellNamed_of_locate hnamed habsolute hnode
  unfold filesAt
  rw [isFolder_relisted hnamed h]
  unfold filesDirectlyIn
  rw [isFile_relisted hnamed h]
  generalize fs.locate path = found at hsame hhere
  generalize FileSystem.locate { fs with root := root' } path = found' at hsame
  cases hsame with
  | error cause => rfl
  | ok hrelisted =>
    have hbelow := Node.filesBelow_relisted fs.isFolder hrelisted (hhere _ rfl) path
    cases hrelisted with
    | file kind reading => rfl
    | link target => rfl
    | folder names nodes =>
      dsimp only
      rw [hbelow, Text.sort_eq_of_perm names]

/-- A path leads to the same folder that cannot be listed in both trees. -/
theorem listFault?_relisted (hnamed : fs.root.isWellNamed = true)
    (h : Node.Relisted fs.root root') (recursive : Bool) (path : Text) :
    FileSystem.listFault? { fs with root := root' } recursive path =
      fs.listFault? recursive path := by
  have hsame := locate_relisted hnamed h path
  unfold listFault?
  generalize fs.locate path = found at hsame
  generalize FileSystem.locate { fs with root := root' } path = found' at hsame
  cases hsame with
  | error cause => rfl
  | ok hrelisted => cases hrelisted <;> rfl

/-- The same files are collected in the same order, whatever the listings, or the same folder cannot
be listed. -/
theorem collect_relisted (hnamed : fs.root.isWellNamed = true) (h : Node.Relisted fs.root root')
    (recursive : Bool) (paths : List Text) :
    FileSystem.collect { fs with root := root' } recursive paths = fs.collect recursive paths := by
  have hfault : FileSystem.firstListFault? { fs with root := root' } recursive paths =
      fs.firstListFault? recursive paths := by
    unfold firstListFault?
    simp only [listFault?_relisted hnamed h]
    rfl
  have hfiles : FileSystem.collected { fs with root := root' } recursive paths =
      fs.collected recursive paths := by
    unfold collected
    congr 1
    exact List.flatMap_congr fun path _ =>
      filesAt_relisted hnamed h recursive (Path.isNormal_absolute _ _).isAbsolute
  rw [collect, collect, hfault, hfiles]

/-- What a collection consists of. -/
theorem eq_collected_of_collect {recursive : Bool} {paths files : List Text}
    (h : fs.collect recursive paths = .ok files) : files = fs.collected recursive paths := by
  unfold collect at h
  cases hfault : fs.firstListFault? recursive paths with
  | some fault =>
    rw [hfault] at h
    cases h
  | none =>
    rw [hfault] at h
    cases h
    rfl

/-- When folders inside count, no folder has to be listed. -/
theorem collect_recursive (fs : FileSystem) (paths : List Text) :
    fs.collect true paths = .ok (fs.collected true paths) := by
  have hnone : fs.firstListFault? true paths = none := by
    refine List.findSome?_eq_none_iff.2 fun path _ => ?_
    unfold listFault?
    cases fs.locate (fs.absolute path) with
    | error fault => rfl
    | ok node => cases node <;> rfl
  rw [collect, hnone]

/-- The path leads to a folder that refuses to list its entries. -/
theorem listFault?_eq_some_iff {path : Text} {fault : ListFault} :
    fs.listFault? false path = some fault ↔
      fault.path = path ∧ ∃ access entries, fs.locate path = .ok (.folder access entries) ∧
        access.unlisted = some fault.cause := by
  rcases fault with ⟨place, cause⟩
  unfold listFault?
  cases fs.locate path with
  | error fault => simp
  | ok node =>
    cases node with
    | file kind reading => simp
    | link target => simp
    | folder access entries => simp [and_comm, eq_comm]

/-- Without the folders inside, a collection fails at the first path to a folder that refuses to
list its entries. -/
theorem collect_direct_eq_error_iff {paths : List Text} {fault : ListFault} :
    fs.collect false paths = .error fault ↔
      ∃ front path back, paths = front ++ path :: back ∧
        (∀ earlier ∈ front, fs.listFault? false (fs.absolute earlier) = none) ∧
        fault.path = fs.absolute path ∧
        ∃ access entries, fs.locate (fs.absolute path) = .ok (.folder access entries) ∧
          access.unlisted = some fault.cause := by
  have hcollect : fs.collect false paths = .error fault ↔
      fs.firstListFault? false paths = some fault := by
    unfold collect
    cases fs.firstListFault? false paths <;> simp
  rw [hcollect, firstListFault?, List.findSome?_eq_some_iff]
  simp only [listFault?_eq_some_iff]
  constructor
  · intro h
    rcases h with ⟨front, path, back, hpaths, hfault, hfront⟩
    exact ⟨front, path, back, hpaths, hfront, hfault⟩
  · intro h
    rcases h with ⟨front, path, back, hpaths, hfront, hfault⟩
    exact ⟨front, path, back, hpaths, hfault, hfront⟩

/-- Without the folders inside, a path stands for no file for which it does not stand with them. -/
theorem mem_filesAt_recursive (hroot : fs.root.isWellNamed = true) {path file : Text}
    (habsolute : Path.isAbsolute path = true) (hfile : file ∈ fs.filesAt false path) :
    file ∈ fs.filesAt true path := by
  cases hlocate : fs.locate path with
  | error fault => simp [filesAt, hlocate] at hfile
  | ok node =>
    cases node with
    | file kind reading =>
      cases kind with
      | regular => simpa [filesAt, hlocate] using hfile
      | special => simp [filesAt, hlocate] at hfile
    | link target => simp [filesAt, hlocate] at hfile
    | folder access entries =>
      have hlisted : access.unlisted = none := by
        by_contra hunlisted
        simp [filesAt_of_unlisted hlocate hunlisted] at hfile
      rw [filesAt_direct hlocate hlisted] at hfile
      rcases List.mem_map.1 hfile with ⟨name, hname, rfl⟩
      rcases List.mem_map.1 ((Text.sort_perm _).mem_iff.1 hname) with ⟨entry, hentry, rfl⟩
      rcases List.mem_filter.1 hentry with ⟨hmem, hisFile⟩
      rcases entry with ⟨name, node⟩
      have hnode : node.isFolder = false := by
        cases node with
        | file kind reading => rfl
        | link target => rfl
        | folder inner held =>
          simp [isFile_inside_folder hroot habsolute hlocate hmem] at hisFile
      have hleaf : fs.isLeaf path (name, node) = true := by
        simp [isLeaf, hnode, isFolder_eq_false_of_isFile hisFile]
      rw [filesAt_recursive hroot habsolute hlocate hlisted, List.mem_append]
      refine Or.inl (List.mem_map.2 ⟨name, ?_, rfl⟩)
      exact (Text.sort_perm _).mem_iff.2
        (List.mem_map.2 ⟨_, List.mem_filter.2 ⟨hmem, hleaf⟩, rfl⟩)

theorem collected_direct_subset (hroot : fs.root.isWellNamed = true) (paths : List Text) :
    fs.collected false paths ⊆ fs.collected true paths := by
  intro file hfile
  rw [collected, List.mem_eraseDups, List.mem_flatMap] at hfile ⊢
  rcases hfile with ⟨path, hpath, hfile⟩
  exact ⟨path, hpath, mem_filesAt_recursive hroot (Path.isNormal_absolute _ _).isAbsolute hfile⟩

/--
A collection has an order of its own.  Trees that differ only in the listings of their folders give
the same files in the same order, or fail at the same folder.  A collection puts together what its
paths stand for.  A folder that lists its entries stands for those that are no folders and lead to
none, among them links that lead nowhere, in the order of their names, and then for what the folders
inside it stand for, in the order of their names; without the folders inside, it stands for the
entries that lead to files, in the order of their names.  A folder that refuses to list its entries
stands for nothing when the folders inside count, and a collection with them never fails.  Without
them, a collection fails exactly at the first path to such a folder.  Whatever is collected without
the folders inside is also collected with them.
-/
theorem collection_order (fs : FileSystem) (hroot : fs.root.isWellNamed = true) :
    (∀ root', Node.Relisted fs.root root' → ∀ recursive paths,
      FileSystem.collect { fs with root := root' } recursive paths =
        fs.collect recursive paths) ∧
    (∀ recursive paths files, fs.collect recursive paths = .ok files →
      files = (paths.flatMap fun path => fs.filesAt recursive (fs.absolute path)).eraseDups) ∧
    (∀ path access entries, Path.isAbsolute path = true →
      fs.locate path = .ok (.folder access entries) →
        (access.unlisted ≠ none → fs.filesAt true path = []) ∧
        (access.unlisted = none →
          fs.filesAt true path =
              (Text.sort ((entries.filter (fs.isLeaf path)).map (·.1))).map (Path.inside path) ++
                (Text.sort ((entries.filter (·.2.isFolder)).map (·.1))).flatMap (fun name =>
                  fs.filesAt true (Path.inside path name)) ∧
            fs.filesAt false path =
              (Text.sort ((entries.filter fun entry =>
                fs.isFile (Path.inside path entry.1)).map (·.1))).map (Path.inside path))) ∧
    (∀ paths, ∃ files, fs.collect true paths = .ok files) ∧
    (∀ paths fault, fs.collect false paths = .error fault ↔
      ∃ front path back, paths = front ++ path :: back ∧
        (∀ earlier ∈ front, fs.listFault? false (fs.absolute earlier) = none) ∧
        fault.path = fs.absolute path ∧
        ∃ access entries, fs.locate (fs.absolute path) = .ok (.folder access entries) ∧
          access.unlisted = some fault.cause) ∧
    ∀ paths files more, fs.collect false paths = .ok files → fs.collect true paths = .ok more →
      files ⊆ more := by
  refine ⟨fun root' h => collect_relisted hroot h, fun _ _ _ h => eq_collected_of_collect h, ?_,
    fun paths => ⟨_, collect_recursive fs paths⟩, fun _ _ => collect_direct_eq_error_iff, ?_⟩
  · intro path access entries habsolute hfolder
    exact ⟨filesAt_of_unlisted hfolder, fun hlisted =>
      ⟨filesAt_recursive hroot habsolute hfolder hlisted, filesAt_direct hfolder hlisted⟩⟩
  · intro paths files more hfiles hmore
    rw [eq_collected_of_collect hfiles, eq_collected_of_collect hmore]
    exact collected_direct_subset hroot paths

/-- A folder with a file, a link that leads nowhere, a link to a folder and that folder, listed in
two ways. -/
theorem collection_order_of_two_listings :
    let inner : Node := .openFolder [("z".toList, .document []), ("y".toList, .document [1])]
    let inner' : Node := .openFolder [("y".toList, .document [1]), ("z".toList, .document [])]
    let fs : FileSystem :=
      ⟨.openFolder [("b".toList, inner), ("x".toList, .document []),
        ("gone".toList, .link "to".toList), ("c".toList, .link "b".toList)], ['/']⟩
    let root' : Node :=
      .openFolder [("c".toList, .link "b".toList), ("b".toList, inner'),
        ("gone".toList, .link "to".toList), ("x".toList, .document [])]
    fs.root.isWellNamed = true ∧ Node.Relisted fs.root root' ∧
      FileSystem.collect { fs with root := root' } true ["".toList, "c/y".toList] =
        .ok (["/gone", "/x", "/b/y", "/b/z", "/c/y"].map (·.toList)) ∧
      fs.filesAt true ['/'] =
        ["/gone".toList, "/x".toList] ++ fs.filesAt true "/b".toList ∧
      fs.filesAt false ['/'] = ["/x".toList] ∧
      ["/x".toList] ⊆ ["/gone".toList, "/x".toList, "/b/y".toList, "/b/z".toList] := by
  intro inner inner' fs root'
  have hroot : fs.root.isWellNamed = true := by decide
  have hinner : Node.Relisted inner inner' := by
    refine .folder (by decide) ?_
    intro name node node' h h'
    simp only [List.mem_cons, List.not_mem_nil, or_false, Prod.mk.injEq] at h
    rcases h with ⟨rfl, rfl⟩ | ⟨rfl, rfl⟩
    · have hnode : node' = .document [] := by simpa using h'
      rw [hnode]
      exact .file _ _
    · have hnode : node' = .document [1] := by simpa using h'
      rw [hnode]
      exact .file _ _
  have hrelisted : Node.Relisted fs.root root' := by
    refine .folder (by decide) ?_
    intro name node node' h h'
    simp only [List.mem_cons, List.not_mem_nil, or_false, Prod.mk.injEq] at h
    rcases h with ⟨rfl, rfl⟩ | ⟨rfl, rfl⟩ | ⟨rfl, rfl⟩ | ⟨rfl, rfl⟩
    · have hnode : node' = inner' := by simpa using h'
      exact hnode ▸ hinner
    · have hnode : node' = .document [] := by simpa using h'
      rw [hnode]
      exact .file _ _
    · have hnode : node' = .link "to".toList := by simpa using h'
      exact hnode ▸ .link _
    · have hnode : node' = .link "b".toList := by simpa using h'
      exact hnode ▸ .link _
  obtain ⟨hlistings, -, hlaw, -, -, hinside⟩ := collection_order fs hroot
  have hlocate : fs.locate ['/'] = .ok fs.root := by cbv
  obtain ⟨hrecursive, hdirect⟩ := (hlaw ['/'] _ _ rfl hlocate).2 rfl
  refine ⟨hroot, hrelisted, (hlistings root' hrelisted true _).trans ?_, ?_, ?_, ?_⟩
  · cbv
  · exact hrecursive.trans (by cbv)
  · exact hdirect.trans (by cbv)
  · exact hinside ["".toList] _ _ (by cbv) (by cbv)

end FileSystem
end BranchFold
