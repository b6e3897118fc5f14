import BranchFold.Files.Tree
import BranchFold.Proofs.NormalPaths

/-!
# Resolving paths along the tree

A path is followed piece by piece, and every piece either moves the search on or ends it with a
fault; what comes behind the piece plays no part.  So a path that leads to a folder which lets pass
leads on to every entry of the folder when the name of the entry is put behind it, unless the path
has then grown longer than the file system allows.  This holds of trees whose names are such as a
file system allows: each leads one folder down, and no folder holds a name twice.

Main definitions:

- {lit}`Node.isWellNamed`: a tree with names as a file system allows them.

Main results:

- Theorem {lit}`FileSystem.follow_append`: a part of a path moves the search on or ends it.
- Theorem {lit}`FileSystem.locate_inside`: where the name of an entry leads.
-/

namespace BranchFold

/-! ## Names -/

/-- A name as a file system allows it: it leads one folder down, it holds no null character, and it
is not too long. -/
def Path.isName (name : Text) : Bool :=
  !name.isEmpty && name != here && name != above && !name.contains '/' &&
    !name.contains (Char.ofNat 0) && FileSystem.byteLength name ≤ FileSystem.longestName

theorem Path.isName_iff {name : Text} :
    isName name = true ↔
      IsStep name ∧ Char.ofNat 0 ∉ name ∧
        FileSystem.byteLength name ≤ FileSystem.longestName := by
  simp only [isName, Bool.and_eq_true, Bool.not_eq_eq_eq_not, Bool.not_true,
    List.isEmpty_eq_false_iff, bne_iff_ne, List.contains_eq_mem, decide_eq_false_iff_not,
    decide_eq_true_eq]
  constructor
  · intro h
    exact ⟨⟨h.1.1.1.1.1, h.1.1.1.1.2, h.1.1.1.2, h.1.1.2⟩, h.1.2, h.2⟩
  · intro h
    exact ⟨⟨⟨⟨⟨h.1.ne_nil, h.1.ne_here⟩, h.1.ne_above⟩, h.1.slash_notMem⟩, h.2.1⟩, h.2.2⟩

namespace Node

mutual
/-- All names below the node are names as a file system allows them, and no folder holds one
twice. -/
def isWellNamed : Node → Bool
  | file _ _ => true
  | folder _ entries => areWellNamed entries
  | link _ => true

/-- The entries have different names as a file system allows them, and so have the entries below
them. -/
def areWellNamed : List (Text × Node) → Bool
  | [] => true
  | (name, node) :: rest =>
      Path.isName name && !(rest.map (·.1)).contains name && node.isWellNamed && areWellNamed rest
end

variable {entries : List (Text × Node)} {name : Text} {node : Node}

theorem areWellNamed_cons_iff {rest : List (Text × Node)} :
    areWellNamed ((name, node) :: rest) = true ↔
      Path.isName name = true ∧ name ∉ rest.map (·.1) ∧ node.isWellNamed = true ∧
        areWellNamed rest = true := by
  simp only [areWellNamed, Bool.and_eq_true, Bool.not_eq_eq_eq_not, Bool.not_true,
    List.contains_eq_mem, decide_eq_false_iff_not, and_assoc]

theorem nodup_names_of_areWellNamed (h : areWellNamed entries = true) :
    (entries.map (·.1)).Nodup := by
  induction entries with
  | nil => simp
  | cons entry rest ih =>
    rcases areWellNamed_cons_iff.1 h with ⟨-, hnew, -, hrest⟩
    exact List.nodup_cons.2 ⟨hnew, ih hrest⟩

theorem isWellNamed_of_mem (h : areWellNamed entries = true) (hmem : (name, node) ∈ entries) :
    Path.isName name = true ∧ node.isWellNamed = true := by
  induction entries with
  | nil => simp at hmem
  | cons entry rest ih =>
    rcases areWellNamed_cons_iff.1 h with ⟨hname, -, hnode, hrest⟩
    rcases List.mem_cons.1 hmem with heq | hmem
    · cases heq
      exact ⟨hname, hnode⟩
    · exact ih hrest hmem

/-- Different names lead to the entries that bear them. -/
theorem lookup_eq_some_iff (h : (entries.map (·.1)).Nodup) :
    entries.lookup name = some node ↔ (name, node) ∈ entries := by
  induction entries with
  | nil => simp
  | cons entry rest ih =>
    rcases entry with ⟨first, inner⟩
    rw [List.map_cons, List.nodup_cons] at h
    by_cases heq : name = first
    · subst heq
      have hrest : (name, node) ∉ rest := fun hmem => h.1 (List.mem_map.2 ⟨_, hmem, rfl⟩)
      simp [hrest, eq_comm]
    · have hne : (name == first) = false := by simpa using heq
      rw [List.lookup_cons, hne, List.mem_cons, ih h.2]
      simp [heq]

/-- Names lead on from where earlier names lead. -/
theorem descend?_concat (node : Node) (names : List Text) (name : Text) :
    node.descend? (names ++ [name]) =
      (node.descend? names).bind fun inner => inner.child? name := by
  induction names generalizing node with
  | nil => cases hchild : node.child? name <;> simp [descend?, hchild]
  | cons first rest ih =>
    rw [List.cons_append, descend?, descend?]
    cases node.child? first with
    | none => rfl
    | some next => exact ih next

theorem isWellNamed_descend {found : Node} {names : List Text} (h : node.isWellNamed = true)
    (hfound : node.descend? names = some found) : found.isWellNamed = true := by
  refine descend?_induction (motive := fun node => node.isWellNamed = true) ?_ h hfound
  intro access entries name node hentries hmem
  rw [isWellNamed] at hentries
  exact (isWellNamed_of_mem hentries hmem).2

end Node

/-! ## The search, piece by piece -/

namespace FileSystem

variable {root : Node} {links : Nat} {place : List Text} {piece : Text}

/-- A part of a path moves the search on or ends it, whatever comes behind. -/
theorem follow_append (root : Node) (links : Nat) (place front : List Text) :
    (∃ links' place', ∀ rest,
      follow root links place (front ++ rest) = follow root links' place' rest) ∨
    ∃ fault, ∀ rest, follow root links place (front ++ rest) = .error fault := by
  -- Every piece uses up a link or else leaves fewer pieces.
  induction links using Nat.strongRecOn generalizing place front with
  | ind links hlinks =>
    induction front generalizing place with
    | nil => exact Or.inl ⟨links, place, fun rest => rfl⟩
    | cons piece front ih =>
      have hstep := fun rest => follow_cons root links place piece (front ++ rest)
      cases hnext : advance root links place piece with
      | error fault =>
        refine Or.inr ⟨fault, fun rest => ?_⟩
        rw [List.cons_append, hstep, hnext]
      | ok next =>
        have hmoved : ∀ rest, follow root links place (piece :: front ++ rest) =
            follow root next.links next.place (next.pushed ++ front ++ rest) := by
          intro rest
          rw [List.cons_append, hstep, hnext, List.append_assoc]
        simp only [hmoved]
        rcases links_lt_or_pushed_eq_nil hnext with hlt | ⟨hsame, hpushed⟩
        · exact hlinks next.links hlt next.place (next.pushed ++ front)
        · rw [hsame, hpushed, List.nil_append]
          exact ih next.place

/-- A search that is done has arrived at its place. -/
theorem follow_nil_eq_ok_iff {node : Node} :
    follow root links place [] = .ok node ↔ root.descend? place.reverse = some node := by
  rw [follow.eq_def]
  cases root.descend? place.reverse <;> simp

/-- In front of another piece an empty piece changes nothing. -/
theorem follow_nil_cons (root : Node) (links : Nat) (place : List Text) (piece : Text)
    (rest : List Text) :
    follow root links place ([] :: piece :: rest) = follow root links place (piece :: rest) := by
  rw [follow_cons root links place []]
  cases hplace : root.descend? place.reverse with
  | none => rw [follow_cons, advance, advance, hplace]
  | some node =>
    cases node with
    | file kind reading => rw [follow_cons, advance, advance, hplace]
    | link target => rw [follow_cons, advance, advance, hplace]
    | folder access entries =>
      rw [advance, hplace]
      rfl

/-- The name of an entry is one more piece behind the path of the folder. -/
theorem follow_inside (root : Node) (links : Nat) (place : List Text) {directory name : Text}
    (hname : Path.IsStep name) :
    follow root links place (Path.pieces (Path.inside directory name)) =
      follow root links place (Path.pieces directory ++ [name]) := by
  unfold Path.inside
  split_ifs with hslash
  · -- The path of the folder ends in a slash, which stands for an empty piece.
    have hend : directory.getLast? = some '/' := by simpa using hslash
    rcases List.getLast?_eq_some_iff.1 hend with ⟨front, rfl⟩
    rw [List.append_assoc, List.singleton_append, Path.pieces_append_slash,
      Path.pieces_append_slash, Path.pieces_of_notMem hname.slash_notMem, List.append_assoc]
    rcases follow_append root links place (Path.pieces front) with
      ⟨links', place', hmoved⟩ | ⟨fault, hended⟩
    · rw [hmoved, hmoved]
      exact (follow_nil_cons root links' place' name []).symm
    · rw [hended, hended]
  · rw [Path.pieces_append_slash, Path.pieces_of_notMem hname.slash_notMem]

/-! ## Where names lead -/

variable {fs : FileSystem} {path name : Text} {access : Access} {entries : List (Text × Node)}
  {node : Node}

theorem start_of_isAbsolute (habsolute : Path.isAbsolute path = true) : fs.start path = [] :=
  if_pos habsolute

/-- How an absolute path that leads somewhere has been followed. -/
theorem locate_eq_ok_iff (habsolute : Path.isAbsolute path = true) :
    fs.locate path = .ok node ↔
      Char.ofNat 0 ∉ path ∧ byteLength path ≤ longestPath ∧
        follow fs.root mostLinks [] (Path.pieces path) = .ok node := by
  have hne : ¬ (path == []) = true := by
    intro heq
    rw [beq_iff_eq.1 heq] at habsolute
    exact absurd habsolute (by decide)
  unfold locate
  by_cases hnull : Char.ofNat 0 ∈ path
  · simp [hnull]
  · by_cases hlong : longestPath < byteLength path
    · have hnotLe : ¬ byteLength path ≤ longestPath := by omega
      simp [hnull, hne, hlong, hnotLe]
    · have hle : byteLength path ≤ longestPath := by omega
      simp [hnull, hne, hlong, hle, start_of_isAbsolute habsolute]

theorem isAbsolute_inside (habsolute : Path.isAbsolute path = true) (name : Text) :
    Path.isAbsolute (Path.inside path name) = true := by
  cases path with
  | nil => exact absurd habsolute (by decide)
  | cons c rest =>
    unfold Path.inside
    split_ifs <;> exact habsolute

/-- The search for a folder stands at a place of the tree from which it can go on. -/
theorem exists_place_of_locate (habsolute : Path.isAbsolute path = true)
    (h : fs.locate path = .ok node) :
    ∃ links place, fs.root.descend? place.reverse = some node ∧
      ∀ rest, follow fs.root mostLinks [] (Path.pieces path ++ rest) =
        follow fs.root links place rest := by
  rcases (locate_eq_ok_iff habsolute).1 h with ⟨-, -, hfollow⟩
  rcases follow_append fs.root mostLinks [] (Path.pieces path) with
    ⟨links, place, hmoved⟩ | ⟨fault, hended⟩
  · have hplace := hmoved []
    rw [List.append_nil, hfollow] at hplace
    exact ⟨links, place, follow_nil_eq_ok_iff.1 hplace.symm, hmoved⟩
  · have herror := hended []
    rw [List.append_nil, hfollow] at herror
    cases herror

theorem isWellNamed_of_locate (hroot : fs.root.isWellNamed = true)
    (habsolute : Path.isAbsolute path = true) (h : fs.locate path = .ok node) :
    node.isWellNamed = true := by
  rcases exists_place_of_locate habsolute h with ⟨links, place, hplace, -⟩
  exact Node.isWellNamed_descend hroot hplace

/-- The entries of a folder to which a path leads have different names as a file system allows
them. -/
theorem areWellNamed_of_locate (hroot : fs.root.isWellNamed = true)
    (habsolute : Path.isAbsolute path = true) (h : fs.locate path = .ok (.folder access entries)) :
    Node.areWellNamed entries = true := by
  have hnode := isWellNamed_of_locate hroot habsolute h
  rwa [Node.isWellNamed] at hnode

/-- A path that leads to a folder which lets pass leads on to its files and folders, as long as it
is not too long. -/
theorem locate_inside (hroot : fs.root.isWellNamed = true)
    (habsolute : Path.isAbsolute path = true) (h : fs.locate path = .ok (.folder access entries))
    (hpasses : access.barred = none) (hmem : (name, node) ∈ entries)
    (hnode : ∀ target, node ≠ .link target)
    (hlength : byteLength (Path.inside path name) ≤ longestPath) :
    fs.locate (Path.inside path name) = .ok node := by
  have hentries := areWellNamed_of_locate hroot habsolute h
  rcases Path.isName_iff.1 (Node.isWellNamed_of_mem hentries hmem).1 with
    ⟨hstep, hnull, hshort⟩
  have hlookup := (Node.lookup_eq_some_iff (Node.nodup_names_of_areWellNamed hentries)).2 hmem
  rcases exists_place_of_locate habsolute h with ⟨links, place, hplace, hmoved⟩
  have hnext : advance fs.root links place name = .ok { links, place := name :: place } := by
    rw [advance, hplace]
    dsimp only
    rw [if_neg (by simp [hstep.ne_nil]), hpasses]
    dsimp only
    rw [if_neg (by simp [hstep.ne_here]), if_neg (by simp [hstep.ne_above]), advanceTo,
      if_neg (by omega), hlookup]
    cases node with
    | file kind reading => rfl
    | folder inner held => rfl
    | link target => exact absurd rfl (hnode target)
  have harrived : fs.root.descend? (name :: place).reverse = some node := by
    rw [List.reverse_cons, Node.descend?_concat, hplace]
    exact hlookup
  have hpath := ((locate_eq_ok_iff habsolute).1 h).1
  refine (locate_eq_ok_iff (isAbsolute_inside habsolute name)).2 ⟨?_, hlength, ?_⟩
  · have hslash : Char.ofNat 0 ≠ '/' := by decide
    unfold Path.inside
    split_ifs <;> simp [hpath, hnull, hslash]
  · rw [follow_inside _ _ _ hstep, hmoved, follow_cons, hnext]
    exact follow_nil_eq_ok_iff.2 harrived

/-- A path that is too long leads nowhere. -/
theorem locate_of_longestPath_lt (h : longestPath < byteLength path) :
    ∃ fault, fs.locate path = .error fault := by
  unfold locate
  split_ifs
  · exact ⟨_, rfl⟩
  · exact ⟨_, rfl⟩
  · exact ⟨_, rfl⟩

/-- A folder that lets nobody pass hides its entries. -/
theorem locate_inside_of_barred (habsolute : Path.isAbsolute path = true)
    (h : fs.locate path = .ok (.folder access entries)) {cause : Refusal}
    (hbarred : access.barred = some cause) (hname : Path.IsStep name) :
    ∃ fault, fs.locate (Path.inside path name) = .error fault := by
  rcases exists_place_of_locate habsolute h with ⟨links, place, hplace, hmoved⟩
  have hnext : advance fs.root links place name = .error (.refused cause) := by
    rw [advance, hplace]
    dsimp only
    rw [if_neg (by simp [hname.ne_nil]), hbarred]
  cases hlocate : fs.locate (Path.inside path name) with
  | error fault => exact ⟨fault, rfl⟩
  | ok node =>
    rcases (locate_eq_ok_iff (isAbsolute_inside habsolute name)).1 hlocate with ⟨-, -, hfollow⟩
    rw [follow_inside _ _ _ hname, hmoved, follow_cons, hnext] at hfollow
    cases hfollow

end FileSystem
end BranchFold
