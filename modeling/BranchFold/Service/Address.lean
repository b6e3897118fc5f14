import BranchFold.Json.Reader

/-!
# Addresses of requests

A request is sent to an address, and the path in the address names what the service offers.  Several
addresses have the same path: queries and fragments do not belong to it, steps to the same or the
outer folder are carried out, escapes are resolved, and slashes at the end do not count.

Main definition:

- {lit}`Address.path`: the path that an address leads to.
-/

namespace BranchFold
namespace Service
namespace Address

/-- The address without the name of a host at its start. -/
def withoutHost : Text → Text
  | '/' :: '/' :: rest => rest.dropWhile (· != '/')
  | address => address

/-- The pieces of a path, with those so far last first, after one more piece. -/
def step (done : List Text) (piece : Text) : List Text :=
  if piece == ['.'] then done
  else if piece == ['.', '.'] then if done == [[]] then done else done.drop 1
  else piece :: done

/-- The path after its steps to the same or the outer folder are carried out. -/
def resolved (path : Text) : Text :=
  ['/'].intercalate ((path.splitOn '/').foldl step []).reverse

/-- The path after its escapes are resolved. -/
def unescaped : Text → Text
  | '%' :: a :: b :: rest =>
      match Json.hexValue? a, Json.hexValue? b with
      | some high, some low => Char.ofNat (16 * high + low) :: unescaped rest
      | _, _ => '%' :: unescaped (a :: b :: rest)
  | c :: rest => c :: unescaped rest
  | [] => []

/-- The path that an address leads to. -/
def path (address : String) : Text :=
  let written := withoutHost (address.toList.takeWhile fun c => c != '?' && c != '#')
  let whole := resolved ('/' :: written.dropWhile (· == '/'))
  ((unescaped whole).reverse.dropWhile (· == '/')).reverse

end Address
end Service
end BranchFold
