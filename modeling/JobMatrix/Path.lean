/-!
Paths of directories.
-/
namespace JobMatrix

def isAbsolute (path : String) : Bool := path.toList.head? == some '/'

/-- A path seen from a directory: an absolute one stands for itself, another one follows the directory and
a slash, which is left out after a slash or after nothing. -/
def joinPath (directory path : String) : String :=
  if isAbsolute path then path
  else match directory.toList.getLast? with
    | none | some '/' => directory ++ path
    | some _ => directory ++ "/" ++ path

end JobMatrix
