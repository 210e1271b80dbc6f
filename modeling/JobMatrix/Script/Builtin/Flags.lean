import JobMatrix.Script.Builtin.Names

/-!
The parts of the shell that deal with options: its own ones, and those of a script.
-/
namespace JobMatrix.Script.Builtin
open Eval Program

def flagNames : List (String × Char) :=
  [("errexit", 'e'), ("nounset", 'u'), ("xtrace", 'x'), ("noglob", 'f'), ("allexport", 'a'), ("noclobber", 'C'),
    ("verbose", 'v'), ("noexec", 'n')]

/-- Long names of flags that change nothing here. -/
def idleFlagNames : List String :=
  ["posix", "monitor", "notify", "vi", "emacs", "ignoreeof", "braceexpand", "hashall", "histexpand", "history",
    "keyword", "nolog", "onecmd", "physical", "privileged", "errtrace", "functrace", "interactive", "stdin", "debug"]

def isFlagLetter (extended : Bool) (c : Char) : Bool :=
  (if extended then "abefhkmnptuvxBCEHPT" else "aefnuvxCmbIVEis").contains c

def changeFlag (on : Bool) (c : Char) : Eval Unit :=
  changeSession fun s =>
    let others := s.flags.filter (· != c)
    { s with flags := if on then others ++ [c] else others }

def changeNamedFlag (on : Bool) (name : String) : Eval (Option Nat) := do
  if name = "pipefail" && (← isExtended) then
    changeSession fun s => { s with pipeStatus := on }
    return none
  match flagNames.find? (·.1 == name) with
  | some (_, c) =>
    changeFlag on c
    return none
  | none =>
    if idleFlagNames.contains name then return none
    if ← isExtended then return some (← fail "set" (name ++ ": invalid option name") 2)
    let _ ← fail "set" ("Illegal option -o " ++ name) 2
    throw (.exit 2)

/-- The options of a shell, and then its parameters. -/
def setOptions : List String → Eval Nat
  | [] => return 0
  | argument :: rest => do
    let setArguments := fun (arguments : List String) =>
      changeSession fun s => { s with arguments := arguments }
    match argument.toList with
    | ['-', '-'] =>
      setArguments rest
      return 0
    | ['-', 'o'] | ['+', 'o'] =>
      match rest with
      | name :: rest =>
        if let some status ← changeNamedFlag (argument == "-o") name then return status
        setOptions rest
      | [] => return 0
    | '-' :: c :: letters | '+' :: c :: letters =>
      let sign := (argument.toList.head?).getD '-'
      let on := sign = '-'
      let extended ← isExtended
      if let some l := (c :: letters).find? fun l => l != 'o' && !isFlagLetter extended l then
        let shown := String.ofList [sign, l]
        if extended then
          complain ("set: " ++ shown ++ ": invalid option")
          warn "set: usage: set [-abefhkmnptuvxBCEHPT] [-o option-name] [--] [-] [arg ...]"
          return 2
        complain ("set: Illegal option " ++ shown)
        throw (.exit 2)
      for l in c :: letters do
        if l != 'o' then changeFlag on l
      if (c :: letters).getLast? = some 'o' then
        match rest with
        | name :: rest =>
          if let some status ← changeNamedFlag on name then return status
          setOptions rest
        | [] => return 0
      else setOptions rest
    | _ =>
      setArguments (argument :: rest)
      return 0

def set (arguments : List String) : Eval Nat := do
  if arguments.isEmpty then
    for (name, v) in (← session).bindings.entries.mergeSort fun a b => a.1 ≤ b.1 do
      sayLine (name ++ "=" ++ singleQuoted ((v.items.head?.map (·.2)).getD ""))
    return 0
  setOptions arguments

def umask (arguments : List String) : Eval Nat := do
  if arguments.isEmpty then sayLine "0022"
  return 0

/-- The next option among the arguments: the option, its value, and the place where the search goes on. A place is the
number of an argument and, behind a colon, the number of a letter in it. -/
def getopts (arguments : List String) : Eval Nat := do
  match arguments with
  | letters :: name :: rest =>
    let s ← session
    let words := if rest.isEmpty then s.arguments else rest
    let index := (← valueOf "OPTIND").toNat?.getD 1
    let inner := (← valueOf "OPTLETTER").toNat?.getD 1
    let silent := letters.toList.head? = some ':'
    let finish := fun (option : String) (index inner : Nat) (status : Nat) => do
      let _ ← setValue name option
      let _ ← setValue "OPTIND" (toString index)
      let _ ← setValue "OPTLETTER" (toString inner)
      return status
    let word := ((words[index - 1]?).getD "").toList
    match word, word[inner]? with
    | '-' :: _, some c =>
      if word = ['-', '-'] then
        unsetVariable "OPTARG"
        return ← finish "?" (index + 1) 1 1
      let isEnd := inner + 1 = word.length
      let (nextIndex, nextInner) := if isEnd then (index + 1, 1) else (index, inner + 1)
      let after := ((letters.toList.dropWhile (· == ':')).dropWhile (· != c)).drop 1
      if !letters.contains c || c == ':' then
        if silent then let _ ← setValue "OPTARG" (String.singleton c)
        else
          unsetVariable "OPTARG"
          if s.dialect = .bash then warn (s.name ++ ": illegal option -- " ++ String.singleton c)
          else warn ("Illegal option -" ++ String.singleton c)
        finish "?" nextIndex nextInner 0
      else if after.head? = some ':' then
        if !isEnd then
          let _ ← setValue "OPTARG" (String.ofList (word.drop (inner + 1)))
          finish (String.singleton c) (index + 1) 1 0
        else match words[index]? with
          | some value =>
            let _ ← setValue "OPTARG" value
            finish (String.singleton c) (index + 2) 1 0
          | none =>
            if silent then
              let _ ← setValue "OPTARG" (String.singleton c)
              finish ":" (index + 1) 1 0
            else
              unsetVariable "OPTARG"
              if s.dialect = .bash then warn (s.name ++ ": option requires an argument -- " ++ String.singleton c)
              else warn ("No arg for -" ++ String.singleton c ++ " option")
              finish "?" (index + 1) 1 0
      else
        unsetVariable "OPTARG"
        finish (String.singleton c) nextIndex nextInner 0
    | _, _ =>
      unsetVariable "OPTARG"
      finish "?" index 1 1
  | _ =>
    complain "getopts: Usage: getopts optstring var [arg]"
    return 2

end JobMatrix.Script.Builtin
