import JobMatrix.Script.Program

/-!
Programs that show directories, and programs that change the files.
-/
namespace JobMatrix.Script.Program
open Eval

/-- Everything that is read is written to files and to the standard output. -/
def tee (found : Options) (paths : List String) : Eval Nat := do
  let text ← readAll
  sayBytes text
  let mut good := true
  for path in paths do
    match (← get).world.tree.place (← session).directory path with
    | .ok names =>
      let file := Tree.pathOf names
      changeWorld fun w =>
        let before := if hasOption found 'a' then (w.tree.files.get? file).getD "" else ""
        { w with tree := w.tree.write file (before ++ String.ofList text) }
    | .error problem =>
      warn (plainComplaint "tee" path problem.message)
      good := false
  return statusOf good

def ls (found : Options) (paths : List String) : Eval Nat := do
  let tree := (← get).world.tree
  let mut good := true
  for path in (if paths.isEmpty then ["."] else paths) do
    match tree.place (← session).directory path, tree.find (← session).directory path with
    | .ok names, .ok .directory =>
      if hasOption found 'd' then sayLine path
      else sayBytes ((tree.namesBelow (Tree.pathOf names)).flatMap fun n => n.toList ++ ['\n'])
    | _, .ok _ => sayLine path
    | _, .error problem =>
      warn ("ls: cannot access '" ++ path ++ "': " ++ problem.message)
      good := false
  return if good then 0 else 2

def onPaths (program : String) (paths : List String) (f : String → Tree → Except String Tree) : Eval Nat := do
  let mut good := true
  for path in paths do
    let tree := (← get).world.tree
    let result := match tree.place (← session).directory path with
      | .ok names => f (Tree.pathOf names) tree
      | .error problem => .error problem.message
    match result with
    | .ok tree => changeWorld fun w => { w with tree := tree }
    | .error message =>
      warn (program ++ " '" ++ path ++ "': " ++ message)
      good := false
  return statusOf good

def touch (_ : Options) (paths : List String) : Eval Nat := do
  onPaths "touch: cannot touch" paths fun file tree =>
    .ok (if tree.directories.contains file || (tree.files.get? file).isSome then tree else tree.write file "")

def mkdir (found : Options) (paths : List String) : Eval Nat := do
  if hasOption found 'p' then
    let directory := (← session).directory
    for path in paths do
      let names := Tree.namesIn (joinPath directory path)
      for n in List.range names.length do
        changeWorld fun w => { w with tree := w.tree.addDirectory (Tree.pathOf (names.take (n + 1))) }
    return 0
  onPaths "mkdir: cannot create directory" paths fun path tree =>
    if tree.directories.contains path || (tree.files.get? path).isSome then .error "File exists"
    else .ok (tree.addDirectory path)

def rmdir (_ : Options) (paths : List String) : Eval Nat := do
  onPaths "rmdir: failed to remove" paths fun path tree =>
    if (tree.files.get? path).isSome then .error "Not a directory"
    else if !tree.directories.contains path then .error "No such file or directory"
    else if !(tree.namesBelow path).isEmpty then .error "Directory not empty" else .ok (tree.remove path)

/-- Files copied to a path or into a directory; with `move` they do not stay where they are. -/
def transfer (program : String) (move : Bool) (paths : List String) : Eval Nat := do
  match paths.reverse with
  | target :: sources =>
    let mut good := true
    for path in sources.reverse do
      let tree := (← get).world.tree
      let directory := (← session).directory
      match tree.place directory path, tree.find directory path, tree.place directory target with
      | .ok source, .ok entry, .ok place =>
        let name := source.getLast?.getD ""
        let place := if tree.entry? place = some .directory then place ++ [name] else place
        let contents := match entry with
          | .file contents => contents
          | _ => ""
        if entry = .directory then
          warn (program ++ ": -r not specified; omitting directory '" ++ path ++ "'")
          good := false
        else
          changeWorld fun w =>
            let tree := if move then w.tree.remove (Tree.pathOf source) else w.tree
            { w with tree := tree.write (Tree.pathOf place) contents }
      | _, .error problem, _ | .error problem, _, _ =>
        warn (program ++ ": cannot stat '" ++ path ++ "': " ++ problem.message)
        good := false
      | _, _, .error problem =>
        warn (program ++ ": cannot create regular file '" ++ target ++ "': " ++ problem.message)
        good := false
    return statusOf good
  | [] => misused program "missing file operand" 1

def rm (found : Options) (paths : List String) : Eval Nat := do
  onPaths "rm: cannot remove" paths fun path tree =>
    if (tree.files.get? path).isSome then .ok (tree.remove path)
    else if tree.directories.contains path then
      if hasOption found 'r' || hasOption found 'R' then
        let below := fun (other : String) => (path ++ "/").toList.isPrefixOf other.toList
        let files := tree.files.entries.filter fun (file, _) => !below file
        .ok ⟨tree.directories.filter fun d => d != path && !below d, Table.ofList files⟩
      else .error "Is a directory"
    else if hasOption found 'f' then .ok tree else .error "No such file or directory"

def forFiles : List Program :=
  [⟨"tee", "ai", "", 1, tee⟩, ⟨"ls", "alA1dhtrRFpS", "", 2, ls⟩, ⟨"touch", "cam", "", 1, touch⟩,
    ⟨"mkdir", "pv", "m", 1, mkdir⟩, ⟨"rmdir", "pv", "", 1, rmdir⟩, ⟨"rm", "rRfidv", "", 1, rm⟩,
    ⟨"cp", "rRpafv", "", 1, fun _ paths => transfer "cp" false paths⟩,
    ⟨"mv", "fnv", "", 1, fun _ paths => transfer "mv" true paths⟩]

end JobMatrix.Script.Program
