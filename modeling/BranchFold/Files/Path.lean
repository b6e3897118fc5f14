import BranchFold.Text.Blank

/-!
# Paths

A path is a text in which slashes separate the names of directories and files.

Main definitions:

- {lit}`Path.pieces`: the texts between the slashes.
- {lit}`Path.absolute`: the path as seen from the root of the file system, in normal form.
- {lit}`Path.extension`: the ending of the last name.
-/

namespace BranchFold
namespace Path

/-! ## Pieces -/

/-- The pieces of a text between slashes. -/
def pieces : Text → List Text
  | [] => [[]]
  | c :: rest =>
      if c == '/' then [] :: pieces rest
      else match pieces rest with
        | [] => [[c]]
        | piece :: more => (c :: piece) :: more

/-- The piece that stands for a directory itself. -/
def here : Text := ['.']

/-- The piece that stands for the directory above. -/
def above : Text := ['.', '.']

/-- The pieces that lead somewhere. -/
def steps (path : Text) : List Text :=
  (pieces path).filter fun piece => !(piece == [] || piece == here)

/-- The pieces with slashes between them. -/
def joined : List Text → Text
  | [] => []
  | [piece] => piece
  | piece :: rest => piece ++ '/' :: joined rest

/-- The path begins at the root of the file system. -/
def isAbsolute (path : Text) : Bool :=
  path.head? == some '/'

/-- A name in a directory. -/
def inside (directory name : Text) : Text :=
  if directory.getLast? == some '/' then directory ++ name else directory ++ '/' :: name

/-! ## Normal form -/

/-- A step to the directory above undoes the step before it; above the root there is nothing. -/
def withoutDetours (names : List Text) : List Text :=
  (names.foldl (fun done name => if name == above then done.drop 1 else name :: done) []).reverse

/-- The slashes that open an absolute path: two are kept, any other number counts as one. -/
def opening (path : Text) : Text :=
  if (path.takeWhile (· == '/')).length == 2 then ['/', '/'] else ['/']

/-- A path as seen from the root, in normal form, for someone in the given directory. -/
def absolute (directory path : Text) : Text :=
  let whole := if isAbsolute path then path else inside directory path
  opening whole ++ joined (withoutDetours (steps whole))

/-! ## Endings -/

/-- The last piece of a path. -/
def lastPiece (path : Text) : Text :=
  (pieces path).getLastD []

/--
The ending of a path: the last dot of its last piece and all that follows, unless nothing but dots
stands before it.
-/
def extension (path : Text) : Text :=
  let reversed := (lastPiece path).reverse
  match reversed.dropWhile (· != '.') with
  | [] => []
  | _ :: before =>
      if before.all (· == '.') then [] else '.' :: (reversed.takeWhile (· != '.')).reverse

end Path
end BranchFold
