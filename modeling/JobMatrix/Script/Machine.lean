import JobMatrix.Script.Command
import JobMatrix.Script.Tree
import JobMatrix.Text.Bytes
import JobMatrix.Text.Digits

/-!
The state in which scripts run: variables, descriptors and what they lead to, files, and the ways in which
a command can stop the commands around it.
-/
namespace JobMatrix.Script

/-- Where the bytes of a channel wait: what was written, the last first, and what is still to be read. -/
structure Channel where
  written : List String
  unread : List Char
  /-- How many more texts are taken; no bound is kept without it. -/
  room : Option Nat
  deriving Inhabited

inductive Handle
  | null
  | zero
  | channel (id : Nat)
  | file (path : String)
  deriving DecidableEq

/-- A variable: its items by their numbers, of which a plain variable has one with the number zero. -/
structure Variable where
  items : List (Nat × String)
  isList : Bool
  exported : Bool
  constant : Bool

/-- The state of one shell. Its first process has the same number in all its subshells. -/
structure Session where
  dialect : Dialect
  name : String
  process : Nat
  bindings : Table Variable
  functions : Table Command
  arguments : List String
  status : Nat
  directory : String
  handles : List (Nat × Handle)
  flags : List Char
  pipeStatus : Bool
  traps : Table String
  line : Nat
  /-- Whether a failure is looked at by a command around the one that runs. -/
  isWatched : Bool
  /-- The variables that a running function hides, and their values outside of it. -/
  hidden : List (List (String × Option Variable))
  loops : Nat
  sources : Nat
  /-- The status at the end of the shell, while what was set for that time is being done. -/
  ending : Option Nat
  /-- The status of the last substitution of the command that is being expanded. -/
  substituted : Option Nat
  /-- The commands in the background by their processes, with their statuses, the last first. -/
  jobs : List (Nat × Nat)
  /-- Whether the next simple command is the last thing that the shell does. -/
  isLast : Bool

/-- What all shells share. -/
structure World where
  channels : Array Channel
  tree : Tree
  nextProcess : Nat
  /-- The time that was slept, in thousandths of a second. -/
  clock : Nat

structure Machine where
  session : Session
  world : World

/-- How a command stops the commands around it. -/
inductive Stop
  | exit (status : Nat)
  | killed (process signal : Nat)
  | returned (status : Nat)
  | broken (levels : Nat)
  | continued (levels : Nat)
  | exhausted
  deriving DecidableEq

abbrev Eval := ExceptT Stop (StateM Machine)

namespace Eval

def session : Eval Session := return (← get).session

def dialect : Eval Dialect := return (← session).dialect

def changeSession (f : Session → Session) : Eval Unit := modify fun m => { m with session := f m.session }

def changeWorld (f : World → World) : Eval Unit := modify fun m => { m with world := f m.world }

def setStatus (status : Nat) : Eval Unit := changeSession fun s => { s with status := status }

/-! Channels and descriptors. -/

def newChannel (contents : List Char) (room : Option Nat) : Eval Nat := do
  let id := (← get).world.channels.size
  changeWorld fun w => { w with channels := w.channels.push ⟨[], contents, room⟩ }
  return id

def writtenTo (id : Nat) : Eval String :=
  return String.join (((← get).world.channels[id]?).getD default).written.reverse

/-- What was written to a channel is to be read. -/
def turn (id : Nat) : Eval Unit := do
  let text ← writtenTo id
  changeWorld fun w => { w with channels := w.channels.setIfInBounds id ⟨[], text.toList, none⟩ }

def handle? (descriptor : Nat) : Eval (Option Handle) :=
  return ((← session).handles.find? (·.1 == descriptor)).map (·.2)

def setHandle (descriptor : Nat) (handle : Option Handle) : Eval Unit :=
  changeSession fun s =>
    let others := s.handles.filter (·.1 != descriptor)
    { s with handles := match handle with
      | some p => (descriptor, p) :: others
      | none => others }

/-- A text is written; the result tells whether the descriptor is open. -/
def write (descriptor : Nat) (text : String) : Eval Bool := do
  match ← handle? descriptor with
  | none => return false
  | some (.channel id) =>
    let room := (((← get).world.channels[id]?).getD default).room
    if room = some 0 then throw .exhausted
    changeWorld fun w => { w with
      channels := w.channels.modify id fun c =>
        { c with written := text :: c.written, room := room.map (· - 1) } }
    return true
  | some (.file path) =>
    changeWorld fun w => { w with tree := w.tree.write path (((w.tree.files.get? path).getD "") ++ text) }
    return true
  | some .null | some .zero => return true

def say (text : String) : Eval Unit := do
  let _ ← write 1 text

def sayLine (text : String) : Eval Unit := say (text ++ "\n")

def warn (text : String) : Eval Unit := do
  let _ ← write 2 (text ++ "\n")

def complain (message : String) : Eval Unit := do
  let s ← session
  let place := if s.dialect = .bash then s!"line {s.line}" else toString s.line
  warn (s.name ++ ": " ++ place ++ ": " ++ message)

/-- How much is read of a device that never ends. -/
def endlessLength : Nat := Nat.pow 2 20

def readBytes (descriptor : Nat) (count : Option Nat) : Eval (List Char) := do
  match ← handle? descriptor with
  | some (.channel id) =>
    let unread := (((← get).world.channels[id]?).getD default).unread
    let taken := match count with
      | some n => unread.take n
      | none => unread
    let left := match count with
      | some n => unread.drop n
      | none => []
    changeWorld fun w => { w with
      channels := w.channels.modify id fun c => { c with unread := left } }
    return taken
  | some .zero => return List.replicate (count.getD endlessLength) '\x00'
  | _ => return []

def readAll : Eval (List Char) := readBytes 0 none

/-- The next line, and whether it was ended by a line feed. -/
def readLine (descriptor : Nat) : Eval (List Char × Bool) := do
  match ← handle? descriptor with
  | some (.channel id) =>
    let unread := (((← get).world.channels[id]?).getD default).unread
    let line := unread.takeWhile (· != '\n')
    let rest := unread.drop line.length
    changeWorld fun w => { w with
      channels := w.channels.modify id fun c => { c with unread := rest.drop 1 } }
    return (line, !rest.isEmpty)
  | _ => return ([], false)

/-! Variables. -/

def lookUp? (name : String) : Eval (Option Variable) := return (← session).bindings.get? name

/-- The value of a plain variable, or the first item of a list. -/
def value? (name : String) : Eval (Option String) := do
  return ((← lookUp? name).bind fun v => v.items.head?).map (·.2)

def valueOf (name : String) : Eval String := return (← value? name).getD ""

def putVariable (name : String) (v : Variable) : Eval Unit :=
  changeSession fun s => { s with bindings := s.bindings.insert name v }

/-- The item of a number written among the items in the order of their numbers. -/
def putItem (index : Nat) (value : String) : List (Nat × String) → List (Nat × String)
  | [] => [(index, value)]
  | (i, old) :: rest =>
    if index < i then (index, value) :: (i, old) :: rest
    else if index = i then (index, value) :: rest
    else (i, old) :: putItem index value rest

/-- An item of a variable is given a value; a variable that is constant stays as it is. -/
def setItem (name : String) (index : Option Nat) (value : String) : Eval Bool := do
  let old := ((← lookUp? name).getD ⟨[], false, (← session).flags.contains 'a', false⟩)
  if old.constant then return false
  let items := putItem (index.getD 0) value old.items
  putVariable name { old with items := items, isList := old.isList || index.isSome }
  return true

def setValue (name value : String) : Eval Bool := setItem name none value

def exportVariable (name : String) : Eval Unit := do
  let old := (← lookUp? name).getD ⟨[], false, true, false⟩
  putVariable name { old with exported := true }

def without (t : Table β) (name : String) : Table β := Table.ofList (t.entries.filter (·.1 != name))

def unsetVariable (name : String) : Eval Unit :=
  changeSession fun s => { s with bindings := without s.bindings name }

/-- The variables that programs see. -/
def environment : Eval (List (String × String)) := do
  return (← session).bindings.entries.filterMap fun (name, v) =>
    if v.exported then v.items.head?.map fun (_, value) => (name, value) else none

def hasFlag (c : Char) : Eval Bool := return (← session).flags.contains c

/-! Subshells. -/

/-- The status with which a command ends that another one stops. -/
def settle (attempt : Eval Nat) : Eval Nat := do
  try attempt
  catch
    | .exit status | .returned status => pure status
    | .broken _ | .continued _ => pure 0
    | other => throw other

/-- How an attempt ends, without stopping anything. -/
def observe (attempt : Eval α) : Eval (Except Stop α) :=
  ExceptT.mk (do return .ok (← attempt.run))

/-- An end that was observed. -/
def resume (result : Except Stop α) : Eval α := ExceptT.mk (pure result)

/-- A command whose changes of variables, descriptors and directory are forgotten after it. -/
def isolated (attempt : Eval Nat) : Eval Nat := do
  let before ← session
  let result ← observe (settle attempt)
  changeSession fun _ => before
  resume result

/-- A command whose failure is looked at. -/
def watched (attempt : Eval Nat) : Eval Nat := do
  let before := (← session).isWatched
  changeSession fun s => { s with isWatched := true }
  let result ← observe attempt
  changeSession fun s => { s with isWatched := before }
  resume result

end Eval
end JobMatrix.Script
