import JobMatrix.Path
import JobMatrix.Text.Quoted
import JobMatrix.Workflow

/-!
The settings of a run: the toolchains, the access token, the environment of every step, and the directory
of the steps. The token is for the steps alone and is masked in everything that is shown.
-/
namespace JobMatrix

structure Settings where
  pinned : String
  stable : String
  token : Option String
  env : Table String
  directory : String
  deriving DecidableEq

def tokenVariable : String := "ACCESS_TOKEN"

def maskText : String := "***"

/-- Every occurrence of a token replaced by the mask; an empty token has none. -/
def maskWith (token text : String) : String :=
  if token = "" then text
  else String.ofList (Text.replaceAll token.toList maskText.toList text.toList)

namespace Settings

def initial (directory : String) : Settings :=
  ⟨"nightly", "stable", none, Table.empty, directory⟩

def ofWorkflow (w : Workflow) (directory : String) : Settings :=
  match w.toolchain with
  | some t => ⟨t.version.getD t.pinned, t.stable, none, w.env, directory⟩
  | none => { initial directory with env := w.env }

def withPinned (s : Settings) (toolchain : String) : Settings := { s with pinned := toolchain }

def withToken (s : Settings) (token : String) : Settings := { s with token := some token }

def withVariable (s : Settings) (name value : String) : Settings :=
  { s with env := s.env.insert name value }

def toolchainLabel (s : Settings) (job : Job) : String :=
  match job.toolchain with
  | .pinned => s.pinned
  | .stable => s.stable

/-- The environment of a step: the common one, the step's own over it, and the token over both. -/
def processEnv (s : Settings) (stepEnv : Table String) : Table String :=
  let env := s.env.overlay stepEnv
  match s.token with
  | some token => env.insert tokenVariable token
  | none => env

def stepDirectory (s : Settings) (directory : Option String) : String :=
  match directory with
  | some path => joinPath s.directory path
  | none => s.directory

def mask (s : Settings) (text : String) : String :=
  match s.token with
  | some token => maskWith token text
  | none => text

/-- The settings on one line, without the token. -/
def describe (s : Settings) : String :=
  let token := match s.token with
    | some _ => "Some(" ++ Text.quoted maskText ++ ")"
    | none => "None"
  let env := s.env.entries.map fun (name, value) => Text.quoted name ++ ": " ++ Text.quoted value
  let fields := [
    "pinned_toolchain: " ++ Text.quoted s.pinned,
    "stable_toolchain: " ++ Text.quoted s.stable,
    "access_token: " ++ token,
    "env: \x7b" ++ Text.joinWith ", " env ++ "\x7d",
    "working_dir: " ++ Text.quoted s.directory]
  "RunnerConfig \x7b " ++ Text.joinWith ", " fields ++ " \x7d"

end Settings
end JobMatrix
