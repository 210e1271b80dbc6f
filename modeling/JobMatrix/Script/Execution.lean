import JobMatrix.Script.Launch

/-!
Running commands of every kind. The bound on what is nested or repeated is used up by `runCommand` alone.
-/
namespace JobMatrix.Script
open Eval

namespace Inner

/-- Words as they are shown before the command is run. -/
def trace (fields : List String) (assignments : List (String × String)) : Eval Unit := do
  let extended := (← dialect) == .bash
  let shown := fun (s : String) =>
    if s = "" then "''"
    else if extended && s.toList.any (fun c => !(c.isAlphanum || "_-./:=@%+,".contains c)) then Builtin.singleQuoted s
    else s
  let parts := assignments.map (fun (name, value) => name ++ "=" ++ (if value = "" then "" else shown value)) ++
    fields.map shown
  if !parts.isEmpty then warn ("+ " ++ Text.joinWith " " parts)

def simple (i : Inner) (line : Nat) (assignments : List Assignment) (words : List Word)
    (redirections : List Redirection) : Eval Nat := do
  let isLast := (← session).isLast
  if ← hasFlag 'n' then return (← session).status
  changeSession fun s => { s with line := line, substituted := none, isLast := false }
  let fields ← i.fields words
  match fields with
  | [] =>
    let assignAll := do
      for a in assignments do
        i.assign a
        if ← hasFlag 'x' then trace [] [(assignedName a, ← valueOf (assignedName a))]
      return ((← session).substituted).getD 0
    if (← dialect) = .bash then
      let status ← assignAll
      i.checked (← i.redirected redirections (return status))
    else i.checked (← i.redirected redirections assignAll)
  | name :: arguments =>
    if ← hasFlag 'x' then trace fields []
    let isFunction := ((← session).functions.get? name).isSome
    let keepsAssignments := (← dialect) == .sh && Builtin.isSpecial name && !isFunction
    let body := i.runNamed true isLast i.limit name arguments
    let run :=
      if keepsAssignments then do
        for a in assignments do
          i.assign a
        body
      else i.withAssignments assignments body
    if name = "exec" ∧ arguments.isEmpty ∧ !isFunction then
      match ← i.redirectAll redirections with
      | none => i.checked 0
      | some message =>
        complain message
        if (← dialect) = .bash then i.checked 1 else throw (.exit 2)
    else i.checked (← i.redirected redirections run)

/-! Compound commands. -/

/-- How many texts a pipe takes before the command that writes to it is stopped. -/
def pipeRoom : Nat := 100000

def pipeFrom (i : Inner) : List Command → Eval (List Nat)
  | [] => return []
  | [c] => return [← isolated (i.run c)]
  | c :: rest => do
    let id ← newChannel [] (some pipeRoom)
    let result ← observe <| isolated do
      setHandle 1 (some (.channel id))
      i.run c
    let status ← match result with
      | .error .exhausted => pure 141
      | other => resume other
    turn id
    let before := (← session).handles
    setHandle 0 (some (.channel id))
    let later ← i.pipeFrom rest
    changeSession fun s => { s with handles := before }
    return status :: later

def pipeline (i : Inner) (commands : List Command) : Eval Nat := do
  let statuses ← i.pipeFrom commands
  let last := statuses.getLastD 0
  let s ← session
  if s.dialect = .bash then
    putVariable "PIPESTATUS" ⟨statuses.zipIdx.map fun (status, n) => (n, toString status), true, false, false⟩
  i.checked (if s.pipeStatus then ((statuses.reverse.find? (· != 0)).getD 0) else last)

/-- One turn of a loop: whether the loop goes on after it, and its status. -/
def loopTurn (body : Eval Nat) : Eval (Bool × Nat) := do
  let loops := (← session).loops
  changeSession fun s => { s with loops := loops + 1 }
  let result ← observe body
  changeSession fun s => { s with loops := loops }
  match result with
  | .ok status => return (true, status)
  | .error (.broken n) => if n ≤ 1 then return (false, 0) else throw (.broken (n - 1))
  | .error (.continued n) => if n ≤ 1 then return (true, 0) else throw (.continued (n - 1))
  | .error other => throw other

def repetition (i : Inner) (isUntil : Bool) (condition body : Command) : Nat → Nat → Eval Nat
  | 0, _ => throw .exhausted
  | n + 1, status => do
    let (goesOn, tested) ← loopTurn (watched (i.run condition))
    if !goesOn || (tested == 0) == isUntil then return status
    let (goesOn, status) ← loopTurn (i.run body)
    if goesOn then i.repetition isUntil condition body n status else return status

def iteration (i : Inner) (name : String) (body : Command) : List String → Nat → Eval Nat
  | [], status => return status
  | value :: rest, _ => do
    let _ ← setValue name value
    let (goesOn, status) ← loopTurn (i.run body)
    if goesOn then i.iteration name body rest status else return status

def counting (i : Inner) (condition next : Word) (body : Command) : Nat → Nat → Eval Nat
  | 0, _ => throw .exhausted
  | n + 1, status => do
    let test ← i.text condition
    if test ≠ "" && (← calculated test) = 0 then return status
    let (goesOn, status) ← loopTurn (i.run body)
    if !goesOn then return status
    let _ ← calculated (← i.text next)
    i.counting condition next body n status

/-- The first branch with a pattern that matches; the body of the next one follows if the branch says so. -/
def choice (i : Inner) (value : String) : Bool → List Branch → Nat → Eval Nat
  | _, [], status => return status
  | entered, .mk patterns body ending :: rest, status => do
    let found ← if entered then pure true
      else patterns.anyM fun w => do return matchesPattern (← i.pattern w) value.toList
    if !found then i.choice value false rest status
    else
      let status ← i.run body
      match ending with
      | .done => return status
      | .nextBody => i.choice value true rest status
      | .nextTest => i.choice value false rest status

def execute (i : Inner) : Command → Eval Nat
  | .simple line assignments words redirections => i.simple line assignments words redirections
  | .redirected body rs => i.redirected rs (i.run body)
  | .pipeline commands => i.pipeline commands
  | .negation body => do
    let status ← watched (i.run body)
    let status := if status = 0 then 1 else 0
    setStatus status
    return status
  | .conjunction a b => do
    let status ← watched (i.run a)
    if status = 0 then i.run b else return status
  | .disjunction a b => do
    let status ← watched (i.run a)
    if status = 0 then return status else i.run b
  | .sequence commands => commands.foldlM (fun _ c => i.run c) 0
  | .background body => do
    let process := (← get).world.nextProcess
    changeWorld fun w => { w with nextProcess := process + 1 }
    let status ← isolated do
      setHandle 0 (some .null)
      i.run body
    changeSession fun s => { s with jobs := (process, status) :: s.jobs }
    setStatus 0
    return 0
  | .subshell body => do
    let status ← isolated do
      changeSession fun s => { s with traps := Table.empty }
      let status ← settle (i.run body)
      i.finish status
    i.checked status
  | .branch condition body otherwise => do
    let status ← watched (i.run condition)
    if status = 0 then i.run body
    else match otherwise with
      | .sequence [] =>
        setStatus 0
        return 0
      | _ => i.run otherwise
  | .repetition isUntil condition body => do
    let status ← i.repetition isUntil condition body i.limit 0
    setStatus status
    return status
  | .iteration name words body => do
    let values ← match words with
      | some ws => i.fields ws
      | none => pure (← session).arguments
    let status ← i.iteration name body values 0
    setStatus status
    return status
  | .counting start condition next body => do
    let _ ← calculated (← i.text start)
    i.counting condition next body i.limit 0
  | .choice w branches => do
    let status ← i.choice (← i.text w) false branches 0
    setStatus status
    return status
  | .definition name body => do
    changeSession fun s => { s with functions := s.functions.insert name body }
    setStatus 0
    return 0
  | .test line condition => do
    changeSession fun s => { s with line := line }
    i.checked (if ← Test.holds i.text i.pattern condition then 0 else 1)
  | .calculation line expression => do
    changeSession fun s => { s with line := line }
    i.checked (if (← calculated (← i.text expression)) = 0 then 1 else 0)

end Inner

/-- A command; the limit bounds the nesting and the repetitions. -/
def runCommand : Nat → Command → Eval Nat
  | 0, _ => throw .exhausted
  | n + 1, c => (⟨runCommand n, n⟩ : Inner).execute c

end JobMatrix.Script
