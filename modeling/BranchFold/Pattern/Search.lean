import BranchFold.Pattern.Basic

/-!
# Finding a pattern in a text

A search reads the text once, from left to right, and keeps the list of what may still follow:
the pattern itself, which may begin anywhere, and the remainders of the stretches that have
begun.  Reading a character replaces each remainder by what is left of it after the character.
A remainder is a piece of the pattern, so the list stays short however long the text is, and no
choice is ever taken back.

Main definitions:

- {lit}`Pattern.coversEmpty`: the pattern covers the empty stretch at a place.
- {lit}`Pattern.remainders`: what may be left of a pattern after one character.
- {lit}`Pattern.occursIn`: some stretch of the text is covered.
-/

namespace BranchFold
namespace Pattern

/-- The pattern covers the empty stretch at this place. -/
def coversEmpty : Pattern → Cursor → Bool
  | nothing, _ => true
  | never, _ => false
  | one _, _ => false
  | place condition, x => condition.met x
  | andThen p q, x => p.coversEmpty x && q.coversEmpty x
  | either p q, x => p.coversEmpty x || q.coversEmpty x
  | many _, _ => true

/-- One pattern after another; nothing is left out. -/
def followedBy : Pattern → Pattern → Pattern
  | nothing, q => q
  | p, q => andThen p q

/--
What may be left of the pattern after the character at the place: each stretch that begins there
and is not empty is that character and a stretch of one of these patterns.
-/
def remainders (x : Cursor) (c : Char) : Pattern → List Pattern
  | nothing => []
  | never => []
  | one accepted => if accepted.holds c then [nothing] else []
  | place _ => []
  | andThen p q =>
      let inFirst := (remainders x c p).map (followedBy · q)
      if p.coversEmpty x then inFirst ++ remainders x c q else inFirst
  | either p q => remainders x c p ++ remainders x c q
  | many p => (remainders x c p).map (followedBy · (many p))

/-- The members of both lists, those of the second kept once. -/
def gather (found known : List Pattern) : List Pattern :=
  found.foldr List.insert known

/-- Some pending pattern, or the pattern from some later place on, covers a stretch. -/
def findFrom (p : Pattern) : List Pattern → Text → Text → Bool
  | pending, before, [] => (p :: pending).any (·.coversEmpty ⟨before, []⟩)
  | pending, before, c :: after =>
      let x : Cursor := ⟨before, c :: after⟩
      (p :: pending).any (·.coversEmpty x) ||
        findFrom p (gather ((p :: pending).flatMap (remainders x c)) []) (c :: before) after

/-- Some stretch of the text is covered by the pattern. -/
def occursIn (p : Pattern) (text : Text) : Bool :=
  findFrom p [] [] text

end Pattern
end BranchFold
