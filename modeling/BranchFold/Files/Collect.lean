import BranchFold.Files.Tree
import BranchFold.Text.Order

/-!
# Files below paths

A list of paths is expanded into a list of files without repetition.  A file stands for itself.  A
folder stands for its files in the order of their names; when folders inside it count too, they
follow, again in the order of their names.  A link to a folder is not entered on the way down, nor
is a folder to which its path does not lead.  On the way down a folder that refuses to list its
entries counts as empty; without the folders inside, such a folder is a fault.

Main definitions:

- {lit}`Node.filesBelow`: the files of a folder and the folders inside it.
- {lit}`FileSystem.collected`: the files for which a list of paths stands, each once.
- {lit}`FileSystem.collect`: these files, or the folder that cannot be listed.
-/

namespace BranchFold

/-! ## One folder -/

/-- What an entry adds to the files below a folder. -/
inductive Contribution where
  /-- The entry itself. -/
  | listed (path : Text)
  /-- The files below a folder. -/
  | entered (paths : List Text)
  /-- Nothing, since the entry is a link to a folder or a folder that its path does not reach. -/
  | passed
  deriving DecidableEq, Repr

namespace Contribution

/-- The entry's own path, if it is listed. -/
def ownPath? : Contribution → Option Text
  | listed path => some path
  | _ => none

/-- The paths below the entry, if it is entered. -/
def pathsBelow : Contribution → List Text
  | entered paths => paths
  | _ => []

/-- The contributions in the order of their names: first the files, then what folders hold. -/
def arranged (parts : List (Text × Contribution)) : List Text :=
  let sorted := Text.sortByName parts
  sorted.filterMap (·.2.ownPath?) ++ sorted.flatMap (·.2.pathsBelow)

end Contribution

namespace Node

mutual
/-- The files of a folder and of the folders inside it; the given test tells which paths lead to
folders. -/
def filesBelow (leadsToFolder : Text → Bool) (path : Text) : Node → List Text
  | folder access entries =>
      if access.unlisted.isSome then []
      else Contribution.arranged (contributions leadsToFolder path entries)
  | file _ _ => []
  | link _ => []

/-- What each entry of a folder adds to the files below it. -/
def contributions (leadsToFolder : Text → Bool) (path : Text) :
    List (Text × Node) → List (Text × Contribution)
  | [] => []
  | (name, node) :: rest =>
      (name, contribution leadsToFolder (Path.inside path name) node) ::
        contributions leadsToFolder path rest

/-- What one entry adds to the files below its folder. -/
def contribution (leadsToFolder : Text → Bool) (path : Text) : Node → Contribution
  | file _ _ => .listed path
  | link _ => if leadsToFolder path then .passed else .listed path
  | folder access entries =>
      if leadsToFolder path then
        .entered (if access.unlisted.isSome then []
          else Contribution.arranged (contributions leadsToFolder path entries))
      else .passed
end

end Node

/-! ## Lists of paths -/

/-- A folder that cannot be listed, by its absolute path. -/
structure ListFault where
  path : Text
  cause : Refusal
  deriving DecidableEq, Repr

/-- What is said about a folder that cannot be listed. -/
def ListFault.message (fault : ListFault) : String :=
  (PathFault.refused fault.cause).message (String.ofList fault.path)

namespace FileSystem

/-- The files among entries of a folder, without those of folders inside it. -/
def filesDirectlyIn (fs : FileSystem) (path : Text) (entries : List (Text × Node)) : List Text :=
  ((Text.sort (entries.map (·.1))).map (Path.inside path)).filter fs.isFile

/-- The files for which an absolute path stands; none if the path leads nowhere. -/
def filesAt (fs : FileSystem) (recursive : Bool) (path : Text) : List Text :=
  match fs.locate path with
  | .ok (.file .regular _) => [path]
  | .ok (.folder access entries) =>
      if recursive then (Node.folder access entries).filesBelow fs.isFolder path
      else if access.unlisted.isSome then []
      else fs.filesDirectlyIn path entries
  | _ => []

/-- The refusal of the folder to which an absolute path leads, when it has to be listed and the
folders inside it do not count. -/
def listFault? (fs : FileSystem) (recursive : Bool) (path : Text) : Option ListFault :=
  match fs.locate path with
  | .ok (.folder access _) => if recursive then none else access.unlisted.map (ListFault.mk path)
  | _ => none

/-- The path as seen from the root of the file system. -/
def absolute (fs : FileSystem) (path : Text) : Text :=
  Path.absolute fs.workingDirectory path

/-- The files for which the paths stand, each once, in the order in which they come up. -/
def collected (fs : FileSystem) (recursive : Bool) (paths : List Text) : List Text :=
  (paths.flatMap fun path => fs.filesAt recursive (fs.absolute path)).eraseDups

/-- The first folder among the paths that has to be listed and refuses. -/
def firstListFault? (fs : FileSystem) (recursive : Bool) (paths : List Text) : Option ListFault :=
  paths.findSome? fun path => fs.listFault? recursive (fs.absolute path)

/-- The files for which the paths stand, unless one of them is a folder that cannot be listed. -/
def collect (fs : FileSystem) (recursive : Bool) (paths : List Text) :
    Except ListFault (List Text) :=
  match fs.firstListFault? recursive paths with
  | some fault => .error fault
  | none => .ok (fs.collected recursive paths)

/-- The absolute paths that lead to no regular file and to no folder. -/
def missing (fs : FileSystem) (paths : List Text) : List Text :=
  (paths.map fs.absolute).filter fun path => !fs.isFile path && !fs.isFolder path

/-- The warnings about these paths. -/
def collectNotes (fs : FileSystem) (paths : List Text) : List String :=
  (fs.missing paths).map fun path => "Path not found: " ++ String.ofList path

end FileSystem
end BranchFold
