import SqlShell.Text.Blank

/-! # Paths

    A path is a text: names with slashes between them.  A place is what a path
    leads to, whether there is a file or not.

    - `pathParts` takes a path apart;
    - `placeOfPath` is where a path leads as far as its text tells;
    - `absolutePath` is the path from the root to the same place. -/

namespace SqlShell

/-- **A place**: the names on the way from the root, its own name at the end. -/
abbrev Place := List Text

/-- The name that leads to the parent of a directory. -/
def parentName : Text := ['.', '.']

namespace Place

/-- One step from a place: a point or an empty name stays there, two points
    lead to the parent, and the root is its own parent. -/
def step (p : Place) (name : Text) : Place :=
  if name = [] ∨ name = ['.'] then p
  else if name = parentName then p.dropLast
  else p ++ [name]

/-- The path from the root to a place. -/
def path (p : Place) : Text := if p = [] then ['/'] else p.flatMap ('/' :: ·)

end Place

/-- The parts of a path between its slashes. -/
def pathParts : Text → List Text
  | [] => [[]]
  | c :: r =>
    match c, pathParts r with
    | '/', parts => [] :: parts
    | c, part :: parts => (c :: part) :: parts
    | c, [] => [[c]]

/-- The name at the end of a path, which is empty behind a slash. -/
def pathName (path : Text) : Text := ((pathParts path).getLast?).getD []

/-- Where a path starts: at the root, or in the directory `here`. -/
def pathStart (here : Place) (path : Text) : Place := if path.head? = some '/' then [] else here

/-- **Where a path leads** if every name on the way is that of a directory. -/
def placeOfPath (here : Place) (path : Text) : Place :=
  (pathParts path).foldl Place.step (pathStart here path)

/-- **The path from the root** to the place of a path.  Two slashes at the front
    are kept, since a system may give them a meaning of their own. -/
def absolutePath (here : Place) (path : Text) : Text :=
  let own := (placeOfPath here path).path
  match path with
  | '/' :: '/' :: '/' :: _ => own
  | '/' :: '/' :: _ => '/' :: own
  | _ => own

end SqlShell
