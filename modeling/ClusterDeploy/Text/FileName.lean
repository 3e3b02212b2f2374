/-!
# Components of paths

A path is read as components between slashes. Empty components and single dots name nothing.

## Main definitions

* `Text.components` — the components of a path that name something.
* `Text.fileName` — the last component, unless it is the parent directory.
-/

namespace ClusterDeploy.Text

/-- The parts of a text between the occurrences of a character. -/
def splitAt (c : Char) : List Char → List (List Char)
  | [] => [[]]
  | x :: rest =>
    if x == c then [] :: splitAt c rest
    else match splitAt c rest with
      | first :: others => (x :: first) :: others
      | [] => [[x]]

/-- The text before and the text after the first occurrence of a character. -/
def splitOnce (c : Char) (s : List Char) : Option (List Char × List Char) :=
  match s.dropWhile (· != c) with
  | [] => none
  | _ :: rest => some (s.takeWhile (· != c), rest)

/-- The components of a path that name something. -/
def components (path : String) : List String :=
  (splitAt '/' path.toList).map String.ofList |>.filter fun part => part != "" && part != "."

/-- The name of the file at a path. The root, the current directory and a parent directory have
none, which reads as the empty text. -/
def fileName (path : String) : String :=
  match (components path).getLast? with
  | some name => if name == ".." then "" else name
  | none => ""

end ClusterDeploy.Text
