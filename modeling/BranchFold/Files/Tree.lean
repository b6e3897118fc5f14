import BranchFold.Files.Path
import BranchFold.Text.Quoted

/-!
# Files, folders and links

A file system is a tree of folders with a working directory.  Links are followed while a path is
resolved, up to a limit.  A file need not hold bytes: it may be refused, break off, or never come to
an end, as the pipe does to which nobody writes.  A folder may refuse to list its entries or to let
anybody pass to them.

Main definitions:

- {lit}`Node`: a file, a folder or a link.
- {lit}`FileSystem.advance`: what one piece of a path does to the search.
- {lit}`FileSystem.locate`: the file or folder to which a path leads.
- {lit}`PathFault.message`: what is said about a path that leads nowhere.
-/

namespace BranchFold

/-! ## What the system refuses -/

/-- A complaint of the system, with its number. -/
structure Refusal where
  number : Nat
  complaint : String
  deriving DecidableEq, Repr

namespace Refusal

/-- The permission is missing. -/
def denied : Refusal :=
  ⟨13, "Permission denied"⟩

/-- The complaint as a message. -/
def message (refusal : Refusal) : String :=
  "[Errno " ++ toString refusal.number ++ "] " ++ refusal.complaint

end Refusal

/-- A file is a regular one, or a special one such as a pipe, a socket or a device. -/
inductive FileKind where
  | regular
  | special
  deriving DecidableEq, Repr

/-- What comes of reading a file. -/
inductive Reading where
  | bytes (content : List UInt8)
  /-- The file cannot be opened. -/
  | refused (cause : Refusal)
  /-- The file is opened, but reading it breaks off. -/
  | brokenOff (cause : Refusal)
  /-- The file is never opened, or never read to its end. -/
  | endless
  deriving DecidableEq, Repr

/-- What a folder refuses: to list its entries, and to let anybody pass to them. -/
structure Access where
  unlisted : Option Refusal := none
  barred : Option Refusal := none
  deriving DecidableEq, Repr

/-! ## The tree -/

/-- A file, a folder with its named entries, or a link to another place. -/
inductive Node where
  | file (kind : FileKind) (reading : Reading)
  | folder (access : Access) (entries : List (Text × Node))
  | link (target : Text)

namespace Node

/-- A regular file that can be read. -/
@[match_pattern]
abbrev document (content : List UInt8) : Node :=
  file .regular (.bytes content)

/-- A folder that refuses nothing. -/
@[match_pattern]
abbrev openFolder (entries : List (Text × Node)) : Node :=
  folder {} entries

/-- A folder without entries. -/
def emptyFolder : Node :=
  openFolder []

/-- The entry of a folder under a name. -/
def child? : Node → Text → Option Node
  | folder _ entries, name => entries.lookup name
  | _, _ => none

/-- The node to which names lead without following links. -/
def descend? : Node → List Text → Option Node
  | node, [] => some node
  | node, name :: rest => (node.child? name).bind (descend? · rest)

/-- An entry stands in its folder. -/
theorem exists_folder_of_child? {node inner : Node} {name : Text}
    (h : node.child? name = some inner) :
    ∃ access entries, node = folder access entries ∧ (name, inner) ∈ entries := by
  cases node with
  | file kind reading => cases h
  | link target => cases h
  | folder access entries =>
    rcases List.lookup_eq_some_iff.1 h with ⟨front, back, hentries, -⟩
    exact ⟨access, entries, rfl, by simp [hentries]⟩

/-- What folders hand down to their entries holds wherever names lead. -/
theorem descend?_induction {motive : Node → Prop}
    (hdown : ∀ access entries name node, motive (folder access entries) → (name, node) ∈ entries →
      motive node)
    {node found : Node} {names : List Text} (h : motive node)
    (hfound : node.descend? names = some found) : motive found := by
  induction names generalizing node with
  | nil =>
    cases hfound
    exact h
  | cons name rest ih =>
    rw [descend?] at hfound
    rcases Option.bind_eq_some_iff.1 hfound with ⟨next, hnext, hrest⟩
    rcases exists_folder_of_child? hnext with ⟨access, entries, rfl, hmem⟩
    exact ih (hdown access entries name next h hmem) hrest

/-- The node is a folder. -/
def isFolder : Node → Bool
  | folder _ _ => true
  | _ => false

/-- Whether permission to read a file or to list a folder is missing. -/
def deniesReading : Node → Bool
  | file _ (.refused cause) => cause == .denied
  | folder access _ => access.unlisted == some .denied
  | _ => false

/-- The folder with an entry under a name in place of the one that it had. -/
def withEntry (node : Node) (name : Text) (entry : Node) : Node :=
  match node with
  | folder access entries =>
      folder access (entries.filter (fun e => e.1 != name) ++ [(name, entry)])
  | _ => openFolder [(name, entry)]

/-- The tree with a node put at the end of the names; folders on the way come into being. -/
def put (entry : Node) : List Text → Node → Node
  | [], _ => entry
  | name :: rest, node =>
      node.withEntry name (put entry rest ((node.child? name).getD emptyFolder))

/-- The tree in which the names lead to a folder. -/
def makeFolder (names : List Text) (node : Node) : Node :=
  match node.descend? names with
  | some (folder _ _) => node
  | _ => put emptyFolder names node

end Node

/-! ## Resolving paths -/

/-- Why a path leads nowhere. -/
inductive PathFault where
  | notFound
  | notAFolder
  | isAFolder
  | nameTooLong
  | tooManyLinks
  /-- A folder on the way lets nobody pass, or what stands at the end is refused. -/
  | refused (cause : Refusal)
  /-- The path holds the null character, which no name can hold. -/
  | nullCharacter
  deriving DecidableEq, Repr

/-- What is said about a path that leads nowhere. -/
def PathFault.message (path : String) : PathFault → String
  | notFound => "[Errno 2] No such file or directory: " ++ Text.quote path
  | notAFolder => "[Errno 20] Not a directory: " ++ Text.quote path
  | isAFolder => "[Errno 21] Is a directory: " ++ Text.quote path
  | nameTooLong => "[Errno 36] File name too long: " ++ Text.quote path
  | tooManyLinks => "[Errno 40] Too many levels of symbolic links: " ++ Text.quote path
  | refused cause => cause.message ++ ": " ++ Text.quote path
  | nullCharacter => "embedded null byte"

/-- A tree of folders, and the absolute path of the working directory. -/
structure FileSystem where
  root : Node
  workingDirectory : Text

namespace FileSystem

/-- The number of bytes of a text. -/
def byteLength (text : Text) : Nat :=
  text.foldr (fun c size => c.utf8Size + size) 0

/-- The longest name, in bytes. -/
def longestName : Nat := 255

/-- The longest path, in bytes. -/
def longestPath : Nat := 4095

/-- The largest number of links that are followed for one path. -/
def mostLinks : Nat := 40

/-- Where the search stands after a piece: the links that it may still follow, the names that lead
to its folder from the root, last name first, and the pieces that a link has put in front of those
to come. -/
structure Waypoint where
  links : Nat
  place : List Text
  pushed : List Text := []
  deriving DecidableEq, Repr

/-- What the name of an entry does to the search in a folder that lets pass. -/
def advanceTo (entries : List (Text × Node)) (links : Nat) (place : List Text) (name : Text) :
    Except PathFault Waypoint :=
  if longestName < byteLength name then .error .nameTooLong
  else match entries.lookup name with
    | none => .error .notFound
    | some (.link target) =>
        match links with
        | 0 => .error .tooManyLinks
        | links + 1 =>
            if target == [] then .error .notFound
            else .ok ⟨links, if Path.isAbsolute target then [] else place, Path.pieces target⟩
    | some _ => .ok { links, place := name :: place }

/-- What one piece does to the search.  An empty piece stands for a slash and asks for a folder;
with any other piece the folder must let pass. -/
def advance (root : Node) (links : Nat) (place : List Text) (piece : Text) :
    Except PathFault Waypoint :=
  match root.descend? place.reverse with
  | some (.folder access entries) =>
      if piece == [] then .ok { links, place }
      else match access.barred with
        | some cause => .error (.refused cause)
        | none =>
            if piece == Path.here then .ok { links, place }
            else if piece == Path.above then .ok { links, place := place.drop 1 }
            else advanceTo entries links place piece
  | _ => .error .notAFolder

/-- A piece uses up a link, or it puts no pieces in front of those to come. -/
theorem links_lt_or_pushed_eq_nil {root : Node} {links : Nat} {place : List Text} {piece : Text}
    {next : Waypoint} (h : advance root links place piece = .ok next) :
    next.links < links ∨ next.links = links ∧ next.pushed = [] := by
  have hname : ∀ entries, advanceTo entries links place piece = .ok next →
      next.links < links ∨ next.links = links ∧ next.pushed = [] := by
    intro entries h
    unfold advanceTo at h
    split at h
    · cases h
    · split at h
      · cases h
      · split at h
        · cases h
        · split at h
          · cases h
          · cases h
            exact Or.inl (Nat.lt_succ_self _)
      · cases h
        exact Or.inr ⟨rfl, rfl⟩
  unfold advance at h
  split at h
  · split at h
    · cases h
      exact Or.inr ⟨rfl, rfl⟩
    · split at h
      · cases h
      · split at h
        · cases h
          exact Or.inr ⟨rfl, rfl⟩
        · split at h
          · cases h
            exact Or.inr ⟨rfl, rfl⟩
          · exact hname _ h
  · cases h

/-- Follow pieces from a folder, which is given by the names that lead to it from the root, last
name first. -/
def follow (root : Node) (links : Nat) (place : List Text) (pending : List Text) :
    Except PathFault Node :=
  match pending with
  | [] =>
      match root.descend? place.reverse with
      | some node => .ok node
      | none => .error .notFound
  | piece :: rest =>
      match _hnext : advance root links place piece with
      | .ok next => follow root next.links next.place (next.pushed ++ rest)
      | .error fault => .error fault
termination_by (links, pending.length)
decreasing_by
  rcases links_lt_or_pushed_eq_nil _hnext with hlt | ⟨hsame, hpushed⟩
  · exact Prod.Lex.left _ _ hlt
  · rw [hsame, hpushed, List.nil_append]
    exact Prod.Lex.right _ (Nat.lt_succ_self _)

/-- The search goes on from where its first piece has led it. -/
theorem follow_cons (root : Node) (links : Nat) (place : List Text) (piece : Text)
    (rest : List Text) :
    follow root links place (piece :: rest) =
      match advance root links place piece with
      | .ok next => follow root next.links next.place (next.pushed ++ rest)
      | .error fault => .error fault := by
  rw [follow]
  split <;> simp [*]

/-- Where the search for a path starts: at the root, or in the working directory. -/
def start (fs : FileSystem) (path : Text) : List Text :=
  if Path.isAbsolute path then [] else (Path.steps fs.workingDirectory).reverse

/-- The file or folder to which a path leads. -/
def locate (fs : FileSystem) (path : Text) : Except PathFault Node :=
  if path.contains (Char.ofNat 0) then .error .nullCharacter
  else if path == [] then .error .notFound
  else if longestPath < byteLength path then .error .nameTooLong
  else follow fs.root mostLinks (fs.start path) (Path.pieces path)

/-- The path leads to a regular file. -/
def isFile (fs : FileSystem) (path : Text) : Bool :=
  match fs.locate path with
  | .ok (.file .regular _) => true
  | _ => false

/-- The path leads to a folder. -/
def isFolder (fs : FileSystem) (path : Text) : Bool :=
  match fs.locate path with
  | .ok (.folder _ _) => true
  | _ => false

/-- The path leads somewhere, but to no regular file and to no folder: to a pipe, a socket or a
device. -/
def isSpecial (fs : FileSystem) (path : Text) : Bool :=
  (fs.locate path).toBool && !fs.isFile path && !fs.isFolder path

end FileSystem
end BranchFold
