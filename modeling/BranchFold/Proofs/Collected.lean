import BranchFold.Scan.Batch
import Mathlib.Data.List.Nodup

/-!
# Collected files

The files for which a list of paths stands are collected without repetition, so that a result can
be kept under the path of its file.  Every path that is collected can name a file: it holds no null
character, since no name in a file system does.  Whatever then stands in the way of reading the
file lies in the file system or in the file, and is a failure to report, unless the file never comes
to an end.

Main definitions:

- {lit}`Path.IsNameable`: a path without the null character.
- {lit}`Node.isNameable`: a tree in which every name is without the null character.

Main results:

- Theorem {lit}`Scanner.collected_nodup`: no file is collected twice.
- Theorem {lit}`Scanner.isReported_of_mem_collected`: failures to read collected files to their end
  are failures to report.
-/

namespace BranchFold

/-! ## No repetition -/

/-- Dropping repetitions leaves every item once. -/
theorem nodup_eraseDups {α : Type} [BEq α] [LawfulBEq α] (items : List α) :
    items.eraseDups.Nodup := by
  -- What is kept after the first item is part of a shorter list.
  induction hlength : items.length using Nat.strongRecOn generalizing items with
  | ind length ih =>
    cases items with
    | nil => simp
    | cons item rest =>
      have hshorter : (rest.filter fun other => !other == item).length < length := by
        have hle := List.length_filter_le (fun other => !other == item) rest
        rw [← hlength, List.length_cons]
        omega
      rw [List.eraseDups_cons, List.nodup_cons]
      exact ⟨by simp [List.mem_eraseDups], ih _ hshorter _ rfl⟩

/-- No file is collected twice. -/
theorem Scanner.collected_nodup (fs : FileSystem) (recursive : Bool) (paths : List String) :
    (collected fs recursive paths).Nodup := by
  have hinjective : Function.Injective String.ofList := fun _ _ heq => String.ofList_injective heq
  unfold collected FileSystem.collected
  exact (nodup_eraseDups _).map hinjective

/-! ## Names -/

/-- The path holds no null character, so that it can name a file. -/
def Path.IsNameable (path : Text) : Prop :=
  Char.ofNat 0 ∉ path

namespace Node

mutual
/-- No name below the node holds the null character. -/
def isNameable : Node → Bool
  | file _ _ => true
  | folder _ entries => areNameable entries
  | link _ => true

/-- Neither the names of the entries nor the names below them hold the null character. -/
def areNameable : List (Text × Node) → Bool
  | [] => true
  | (name, node) :: rest =>
      !name.contains (Char.ofNat 0) && node.isNameable && areNameable rest
end

theorem isNameable_of_mem {entries : List (Text × Node)} (h : areNameable entries = true)
    {name : Text} {node : Node} (hmem : (name, node) ∈ entries) :
    Path.IsNameable name ∧ node.isNameable = true := by
  induction entries with
  | nil => simp at hmem
  | cons entry rest ih =>
    rcases entry with ⟨name', node'⟩
    simp only [areNameable, Bool.and_eq_true, Bool.not_eq_eq_eq_not, Bool.not_true] at h
    rcases List.mem_cons.1 hmem with heq | hrest
    · cases heq
      exact ⟨by simpa [Path.IsNameable] using h.1.1, h.1.2⟩
    · exact ih h.2 hrest

theorem isNameable_descend {node found : Node} {names : List Text} (h : node.isNameable = true)
    (hfound : node.descend? names = some found) : found.isNameable = true := by
  refine descend?_induction (motive := fun node => node.isNameable = true) ?_ h hfound
  intro access entries name node hentries hmem
  rw [isNameable] at hentries
  exact (isNameable_of_mem hentries hmem).2

end Node

namespace FileSystem

/-- The search has ended at a node of the tree, or for a reason other than the characters of the
path. -/
def EndsIn (root : Node) : Except PathFault Node → Prop
  | .ok node => ∃ names, root.descend? names = some node
  | .error cause => cause ≠ .nullCharacter

theorem advance_ne_nullCharacter {root : Node} {links : Nat} {place : List Text} {piece : Text}
    {fault : PathFault} (h : advance root links place piece = .error fault) :
    fault ≠ .nullCharacter := by
  rintro rfl
  have hname : ∀ entries, advanceTo entries links place piece ≠ .error .nullCharacter := by
    intro entries h
    unfold advanceTo at h
    repeat' split at h
    all_goals cases h
  unfold advance at h
  split at h
  · split at h
    · cases h
    · split at h
      · cases h
      · split at h
        · cases h
        · split at h
          · cases h
          · exact hname _ h
  · cases h

theorem endsIn_follow (root : Node) (links : Nat) (place pending : List Text) :
    EndsIn root (follow root links place pending) := by
  -- Every turn of the search goes on with fewer links or else with fewer pieces.
  induction links using Nat.strongRecOn generalizing place pending with
  | ind links hlinks =>
    induction pending generalizing place with
    | nil =>
      rw [follow]
      cases hplace : root.descend? place.reverse with
      | none =>
        intro hnull
        cases hnull
      | some node => exact ⟨_, hplace⟩
    | cons piece rest hrest =>
      rw [follow_cons]
      cases hnext : advance root links place piece with
      | error fault => exact advance_ne_nullCharacter hnext
      | ok next =>
        dsimp only
        rcases links_lt_or_pushed_eq_nil hnext with hlt | ⟨hsame, hpushed⟩
        · exact hlinks next.links hlt next.place (next.pushed ++ rest)
        · rw [hsame, hpushed, List.nil_append]
          exact hrest next.place

variable {fs : FileSystem} {path : Text}

/-- Only a path with the null character is refused for holding it. -/
theorem endsIn_locate (fs : FileSystem) (h : Path.IsNameable path) :
    EndsIn fs.root (fs.locate path) := by
  have hnull : ¬ path.contains (Char.ofNat 0) = true := by simpa [Path.IsNameable] using h
  unfold locate
  rw [if_neg hnull]
  split_ifs
  · intro hnull
    cases hnull
  · intro hnull
    cases hnull
  · exact endsIn_follow _ _ _ _

/-- A path that leads somewhere can name a file, and so can all names below the place. -/
theorem isNameable_of_locate {node : Node} (h : fs.locate path = .ok node)
    (hroot : fs.root.isNameable = true) : Path.IsNameable path ∧ node.isNameable = true := by
  have hpath : Path.IsNameable path := by
    intro hnull
    unfold locate at h
    rw [if_pos (by simpa using hnull)] at h
    cases h
  have hends := endsIn_locate fs hpath
  rw [h] at hends
  rcases hends with ⟨names, hnode⟩
  exact ⟨hpath, Node.isNameable_descend hroot hnode⟩

end FileSystem

/-! ## Files below a folder -/

theorem Path.isNameable_inside {directory name : Text} (hdirectory : IsNameable directory)
    (hname : IsNameable name) : IsNameable (inside directory name) := by
  have hslash : Char.ofNat 0 ≠ '/' := by decide
  unfold IsNameable inside at *
  split_ifs <;> simp [hdirectory, hname, hslash]

/-- All paths that an entry adds can name a file. -/
def Contribution.IsNameable : Contribution → Prop
  | listed path => Path.IsNameable path
  | entered paths => ∀ path ∈ paths, Path.IsNameable path
  | passed => True

theorem Contribution.isNameable_of_mem_arranged {parts : List (Text × Contribution)}
    (h : ∀ part ∈ parts, part.2.IsNameable) {path : Text} (hpath : path ∈ arranged parts) :
    Path.IsNameable path := by
  unfold arranged Text.sortByName at hpath
  simp only [List.mem_append, List.mem_filterMap, List.mem_flatMap, List.mem_mergeSort] at hpath
  rcases hpath with ⟨⟨name, part⟩, hpart, hown⟩ | ⟨⟨name, part⟩, hpart, hbelow⟩
  · have hnameable := h _ hpart
    cases part with
    | listed own =>
      cases hown
      exact hnameable
    | entered paths => cases hown
    | passed => cases hown
  · have hnameable := h _ hpart
    cases part with
    | listed own => cases hbelow
    | entered paths => exact hnameable path hbelow
    | passed => cases hbelow

namespace Node

variable (leadsToFolder : Text → Bool)

mutual
theorem contribution_isNameable {path : Text} (hpath : Path.IsNameable path) (node : Node)
    (h : node.isNameable = true) : (contribution leadsToFolder path node).IsNameable := by
  cases node with
  | file kind reading => exact hpath
  | link target =>
    rw [contribution]
    split_ifs
    · trivial
    · exact hpath
  | folder access entries =>
    rw [contribution]
    split_ifs
    · intro below hbelow
      cases hbelow
    · intro below hbelow
      exact Contribution.isNameable_of_mem_arranged
        (contributions_isNameable hpath entries (by rwa [isNameable] at h)) hbelow
    · trivial

theorem contributions_isNameable {path : Text} (hpath : Path.IsNameable path)
    (entries : List (Text × Node)) (h : areNameable entries = true) :
    ∀ part ∈ contributions leadsToFolder path entries, part.2.IsNameable := by
  cases entries with
  | nil => simp [contributions]
  | cons entry rest =>
    rcases entry with ⟨name, node⟩
    rcases isNameable_of_mem h List.mem_cons_self with ⟨hname, hnode⟩
    have hrest : areNameable rest = true := by
      simp only [areNameable, Bool.and_eq_true] at h
      exact h.2
    intro part hpart
    rw [contributions] at hpart
    rcases List.mem_cons.1 hpart with rfl | hlater
    · exact contribution_isNameable (Path.isNameable_inside hpath hname) node hnode
    · exact contributions_isNameable hpath rest hrest part hlater
end

end Node

/-! ## Collected paths -/

namespace FileSystem

variable {fs : FileSystem} {recursive : Bool} {path : Text}

theorem isNameable_of_mem_filesAt (hroot : fs.root.isNameable = true) {file : Text}
    (h : file ∈ fs.filesAt recursive path) : Path.IsNameable file := by
  unfold filesAt at h
  split at h
  · next reading hlocate =>
    rw [List.mem_singleton.1 h]
    exact (isNameable_of_locate hlocate hroot).1
  · next access entries hlocate =>
    rcases isNameable_of_locate hlocate hroot with ⟨hpath, hentries⟩
    split at h
    · rw [Node.isNameable] at hentries
      rw [Node.filesBelow] at h
      split at h
      · cases h
      · exact Contribution.isNameable_of_mem_arranged
          (Node.contributions_isNameable fs.isFolder hpath entries hentries) h
    · split at h
      · cases h
      · -- Without the folders inside, only what leads to a file is listed.
        have hfile : fs.isFile file = true := (List.mem_filter.1 h).2
        unfold isFile at hfile
        split at hfile
        · next reading hlocate' => exact (isNameable_of_locate hlocate' hroot).1
        · cases hfile
  · cases h

end FileSystem

namespace Scanner

variable {fs : FileSystem} {recursive : Bool} {paths : List String} {path : String}

theorem isNameable_of_mem_collected (hroot : fs.root.isNameable = true)
    (h : path ∈ collected fs recursive paths) : Path.IsNameable path.toList := by
  rcases List.mem_map.1 h with ⟨file, hfile, rfl⟩
  rw [FileSystem.collected, List.mem_eraseDups] at hfile
  rcases List.mem_flatMap.1 hfile with ⟨_, -, hat⟩
  rw [String.toList_ofList]
  exact FileSystem.isNameable_of_mem_filesAt hroot hat

/-- Whatever stands in the way of reading a collected file to its end is a failure to report. -/
theorem isReported_of_mem_collected (hroot : fs.root.isNameable = true)
    (h : path ∈ collected fs recursive paths) {fault : ReadFault}
    (hread : fs.readDocument path = .error fault) (hends : fault ≠ .endless) :
    fault.isReported = true := by
  have hplace := FileSystem.endsIn_locate fs (isNameable_of_mem_collected hroot h)
  unfold ReadFault.isReported
  split
  · -- Only the path itself could be at fault for the null character.
    exfalso
    unfold FileSystem.readDocument FileSystem.readBytes at hread
    cases hlocate : fs.locate path.toList with
    | error cause =>
      rw [hlocate] at hread hplace
      cases hread
      exact hplace rfl
    | ok node =>
      rw [hlocate] at hread
      cases node with
      | file kind reading =>
        cases reading with
        | bytes content =>
          cases hdecode : Utf8.decode content <;>
            simp [Reading.outcome, bind, Except.bind, hdecode] at hread
        | refused cause => cases hread
        | brokenOff cause => cases hread
        | endless => cases hread
      | folder access entries =>
        simp only [bind, Except.bind, Except.error.injEq, ReadFault.unreachable.injEq] at hread
        split at hread <;> cases hread.2
      | link target => cases hread
  · exact absurd rfl hends
  · rfl

end Scanner
end BranchFold
