import JobMatrix.Script.Pattern
import JobMatrix.Script.Tree

/-!
Names of files in place of patterns. A pattern is matched between slashes, name by name; a name that starts with
a dot is met only by a pattern that does.
-/
namespace JobMatrix.Script

/-- Whether text stands for anything but itself. -/
def isPattern (s : List Marked) : Bool :=
  (patternOf s).any fun
    | .exactly _ => false
    | _ => true

def betweenSlashes : List Marked → List (List Marked)
  | [] => [[]]
  | c :: rest =>
    if c.1 = '/' then [] :: betweenSlashes rest
    else match betweenSlashes rest with
      | part :: parts => (c :: part) :: parts
      | [] => [[c]]

def meets (pattern : List Marked) (name : String) : Bool :=
  (name.toList.head? != some '.' || pattern.head?.any (·.1 == '.')) && matchesPattern (patternOf pattern) name.toList

namespace Tree

def namesFor (t : Tree) (directory start : String) (part : List Marked) : List String :=
  if isPattern part then
    match t.directory directory (if start = "" then "." else start) with
    | .ok place => (t.namesBelow place).filter (meets part)
    | .error _ => []
  else [String.ofList (part.map Prod.fst)]

/-- The paths that start with a text and go on as parts say. -/
def pathsFrom (t : Tree) (directory : String) : String → List (List Marked) → List String
  | _, [] => []
  | start, part :: rest =>
    (t.namesFor directory start part).flatMap fun name =>
      let path := start ++ name
      match rest with
      | [] => if (t.find directory path).toOption.isSome then [path] else []
      | _ => pathsFrom t directory (path ++ "/") rest

/-- The paths of files that a text stands for, or the text itself if there are none. -/
def pathsFor (t : Tree) (directory : String) (s : List Marked) : List String :=
  let paths := if isPattern s then t.pathsFrom directory "" (betweenSlashes s) else []
  if paths.isEmpty then [String.ofList (s.map Prod.fst)] else paths

end Tree
end JobMatrix.Script
