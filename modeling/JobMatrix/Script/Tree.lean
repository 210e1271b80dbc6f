import JobMatrix.Path
import JobMatrix.Table
import JobMatrix.Text.Search

/-!
The files that scripts see: directories, files with their contents, and two devices. Paths are resolved
step by step from the root.
-/
namespace JobMatrix.Script

/-- Directories and files by their absolute paths. -/
structure Tree where
  directories : List String
  files : Table String

inductive Entry
  | directory
  | file (contents : String)
  | nullDevice
  | zeroDevice
  deriving DecidableEq

inductive PathProblem
  | missing
  | notDirectory
  deriving DecidableEq

def PathProblem.message : PathProblem → String
  | missing => "No such file or directory"
  | notDirectory => "Not a directory"

namespace Tree

/-- A system with the usual directories. -/
def standard : Tree where
  directories :=
    ["/", "/boot", "/dev", "/etc", "/home", "/media", "/mnt", "/opt", "/proc", "/root", "/run", "/srv", "/sys",
      "/tmp", "/usr", "/usr/bin", "/usr/games", "/usr/include", "/usr/lib", "/usr/local", "/usr/local/bin",
      "/usr/local/etc", "/usr/local/include", "/usr/local/lib", "/usr/local/sbin", "/usr/local/share",
      "/usr/local/src", "/usr/sbin", "/usr/share", "/usr/share/doc", "/usr/src", "/var", "/var/backups",
      "/var/cache", "/var/lib", "/var/local", "/var/log", "/var/mail", "/var/opt", "/var/spool", "/var/tmp",
      "/etc/default", "/usr/lib/ssl", "/etc/ssl", "/dev/shm", "/dev/pts"]
  files := Table.ofList (["/etc/passwd", "/etc/group", "/etc/hosts", "/etc/hostname", "/etc/fstab",
    "/etc/shadow", "/etc/profile", "/etc/os-release", "/etc/resolv.conf", "/usr/bin/sh", "/usr/bin/bash",
    "/usr/bin/env"].map (·, ""))

/-- Directories that are other names of directories below `/usr`. -/
def otherNames : List String := ["bin", "sbin", "lib", "lib64"]

def pathOf (names : List String) : String := "/" ++ Text.joinWith "/" names

def entry? (t : Tree) (names : List String) : Option Entry :=
  let path := pathOf names
  if path = "/dev/null" then some .nullDevice
  else if path = "/dev/zero" then some .zeroDevice
  else if t.directories.contains path then some .directory
  else (t.files.get? path).map .file

def namesIn (path : String) : List String :=
  splitAt path.toList |>.map String.ofList |>.filter (· != "")
where
  splitAt : List Char → List (List Char)
    | [] => [[]]
    | '/' :: rest => [] :: splitAt rest
    | c :: rest =>
      match splitAt rest with
      | name :: names => (c :: name) :: names
      | [] => [[c]]

def step (t : Tree) (place : List String) (name : String) : Except PathProblem (List String) :=
  match t.entry? place with
  | none => .error .missing
  | some .directory =>
    if name = "." then .ok place
    else if name = ".." then .ok place.dropLast
    else if place = [] ∧ otherNames.contains name then .ok ["usr", name]
    else .ok (place ++ [name])
  | some _ => .error .notDirectory

/-- The place that a path leads to from a directory; there need not be anything. -/
def place (t : Tree) (directory path : String) : Except PathProblem (List String) := do
  if path = "" then throw .missing
  let names := namesIn (joinPath directory path)
  let found ← names.foldlM t.step []
  match t.entry? found, path.toList.getLast? with
  | some .directory, _ | _, none => return found
  | none, _ => return found
  | some _, some c => if c = '/' then throw .notDirectory else return found

def find (t : Tree) (directory path : String) : Except PathProblem Entry := do
  match t.entry? (← t.place directory path) with
  | some e => return e
  | none => throw .missing

def directory (t : Tree) (start path : String) : Except PathProblem String := do
  let found ← t.place start path
  match t.entry? found with
  | some .directory => return pathOf found
  | some _ => throw .notDirectory
  | none => throw .missing

/-- The names of what is directly in a directory, in order. -/
def namesBelow (t : Tree) (path : String) : List String :=
  let names := namesIn path
  let below := (t.directories ++ t.files.names).filterMap fun other =>
    let parts := namesIn other
    if parts.length = names.length + 1 ∧ names.isPrefixOf parts then parts.getLast? else none
  let found := if names = [] then below ++ otherNames else below
  (found.mergeSort fun a b => a ≤ b).eraseDups

def write (t : Tree) (path contents : String) : Tree := { t with files := t.files.insert path contents }

def remove (t : Tree) (path : String) : Tree where
  directories := t.directories.filter (· != path)
  files := Table.ofList (t.files.entries.filter (·.1 != path))

def addDirectory (t : Tree) (path : String) : Tree :=
  if t.directories.contains path then t else { t with directories := t.directories ++ [path] }

end Tree
end JobMatrix.Script
