import JobMatrix.Script.Builtin

/-!
What surrounds a command: redirections of its descriptors, and assignments. Both are undone after it. Every
function takes the runner of the commands inside of a command, so that a bound on the depth is used up in one
place alone.
-/
namespace JobMatrix.Script
open Eval

/-- The runner of commands, and a limit for what is repeated or nested. -/
structure Inner where
  run : Command → Eval Nat
  limit : Nat

namespace Inner

def text (i : Inner) (w : Word) : Eval String := wordText i.run i.limit w

def fields (i : Inner) (ws : List Word) : Eval (List String) := fieldsOf i.run i.limit ws

def pattern (i : Inner) (w : Word) : Eval (List Atom) := wordPattern i.run i.limit w

/-! Redirections. -/

/-- A descriptor that leads to a text. -/
def handleOfText (text : String) : Eval Handle := return .channel (← newChannel text.toList none)

/-- What a path leads to for reading. -/
def inputHandle (path : String) : Eval (Except String Handle) := do
  let extended := (← dialect) == .bash
  match (← get).world.tree.find (← session).directory path with
  | .ok (.file contents) => return .ok (← handleOfText contents)
  | .ok .zeroDevice => return .ok .zero
  | .ok _ => return .ok .null
  | .error problem =>
    if path = "/dev/stdin" then return .ok ((← handle? 0).getD .null)
    if extended then return .error (path ++ ": " ++ problem.message)
    return .error ("cannot open " ++ path ++ ": " ++
      if problem = .missing then "No such file" else problem.message)

/-- What a path leads to for writing; a file is made empty unless text is to be put behind its end. -/
def outputHandle (path : String) (append : Bool) : Eval (Except String Handle) := do
  let extended := (← dialect) == .bash
  let tree := (← get).world.tree
  let refuse := fun (standard other : String) =>
    Except.error (if extended then path ++ ": " ++ other else "cannot create " ++ path ++ ": " ++ standard)
  if path = "/dev/stdout" then return .ok ((← handle? 1).getD .null)
  if path = "/dev/stderr" then return .ok ((← handle? 2).getD .null)
  match tree.place (← session).directory path with
  | .error .missing => return refuse "Directory nonexistent" "No such file or directory"
  | .error problem => return refuse problem.message problem.message
  | .ok names =>
    let file := Tree.pathOf names
    match tree.entry? names with
    | some .directory => return refuse "Is a directory" "Is a directory"
    | some .nullDevice | some .zeroDevice => return .ok .null
    | some (.file _) =>
      if !append && (← hasFlag 'C') then return refuse "File exists" "cannot overwrite existing file"
      if !append then changeWorld fun w => { w with tree := w.tree.write file "" }
      return .ok (.file file)
    | none =>
      if !append || (tree.files.get? file).isNone then
        changeWorld fun w => { w with tree := w.tree.write file "" }
      return .ok (.file file)

/-- The handle that a descriptor is made to lead to; none closes it. -/
def copiedHandle (word : String) : Eval (Except String (Option Handle)) := do
  if word = "-" then return .ok none
  match Text.naturalIn? 10 word.toList with
  | none => return .error (if (← dialect) = .bash then word ++ ": ambiguous redirect" else "Bad fd number")
  | some n =>
    match ← handle? n with
    | some handle => return .ok (some handle)
    | none => return .error (word ++ ": Bad file descriptor")

/-- A redirection is put into effect; the result is a message if it cannot be. -/
def redirect (i : Inner) : Redirection → Eval (Option String)
  | .mk descriptor direction word => do
    let text ← i.text word
    let go := fun (handle : Except String Handle) (descriptors : List Nat) => do
      match handle with
      | .ok handle =>
        for d in descriptors do
          setHandle d (some handle)
        return none
      | .error message => return some message
    match direction with
    | .input => go (← inputHandle text) [descriptor]
    | .output => go (← outputHandle text false) [descriptor]
    | .append => go (← outputHandle text true) [descriptor]
    | .both => go (← outputHandle text false) [1, 2]
    | .bothAppend => go (← outputHandle text true) [1, 2]
    | .document =>
      setHandle descriptor (some (← handleOfText text))
      return none
    | .copy =>
      match ← copiedHandle text with
      | .ok handle =>
        setHandle descriptor handle
        return none
      | .error message =>
        if (← dialect) = .bash && descriptor == 1 && (Text.naturalIn? 10 text.toList).isNone then
          go (← outputHandle text false) [1, 2]
        else return some message

def redirectAll (i : Inner) : List Redirection → Eval (Option String)
  | [] => return none
  | r :: rest => do
    match ← i.redirect r with
    | some message => return some message
    | none => i.redirectAll rest

/-- A command with redirections that are undone after it. -/
def redirected (i : Inner) (rs : List Redirection) (body : Eval Nat) : Eval Nat := do
  if rs.isEmpty then return ← body
  let before := (← session).handles
  let result ← observe do
    match ← i.redirectAll rs with
    | some message =>
      complain message
      let status := if (← dialect) = .bash then 1 else 2
      setStatus status
      return status
    | none => body
  changeSession fun s => { s with handles := before }
  resume result

/-! Assignments. -/

def assign (i : Inner) : Assignment → Eval Unit
  | .scalar name index append word => do
    let value ← i.text word
    let index ← match index with
      | some w => pure (some (← calculated (← i.text w)).toNat)
      | none => pure none
    let value ← if append then pure ((← valueOf name) ++ value) else pure value
    let extended := (← dialect) == .bash
    if !(← setItem name index value) then
      complain (name ++ if extended then ": readonly variable" else ": is read only")
      throw (.exit (if extended then 1 else 2))
  | .list name append words => do
    let values ← i.fields words
    let items := ((← lookUp? name).map (·.items)).getD []
    let old := if append then items else []
    let start := (old.getLast?.map (·.1 + 1)).getD 0
    putVariable name ⟨old ++ (values.zipIdx start).map fun (s, n) => (n, s), true, false, false⟩

def assignedName : Assignment → String
  | .scalar name .. | .list name .. => name

/-- A command with assignments that programs see and that are undone after it. -/
def withAssignments (i : Inner) (assignments : List Assignment) (body : Eval Nat) : Eval Nat := do
  if assignments.isEmpty then return ← body
  let names := assignments.map assignedName
  let before ← names.mapM fun name => do return (name, ← lookUp? name)
  for a in assignments do
    match ← observe (i.assign a) with
    | .ok () => exportVariable (assignedName a)
    | other => if (← dialect) = .sh then resume other
  let result ← observe body
  for (name, old) in before do
    match old with
    | some v => putVariable name v
    | none => unsetVariable name
  resume result

end Inner
end JobMatrix.Script
