import JobMatrix.Settings
import JobMatrix.Text.Blank

/-!
Commands with placeholders such as `${{ matrix.os }}`. A command is cut into literal text and placeholders
once; rendering puts a value in the place of each placeholder and never looks at the value again.
-/
namespace JobMatrix

inductive Placeholder
  | matrix (axis : String)
  | toolchain
  | env (name : String)
  | token
  deriving DecidableEq

inductive Segment
  | literal (text : String)
  | placeholder (p : Placeholder)
  deriving DecidableEq

/-- Why a command cannot be cut: an expression is no placeholder, or one is not closed. -/
inductive TemplateError
  | unknown (expression : String)
  | unterminated
  deriving DecidableEq

def Template.opening : List Char := ['$', '\x7b', '\x7b']

def Template.closing : List Char := ['\x7d', '\x7d']

def afterStart? (start s : List Char) : Option (List Char) :=
  if start.isPrefixOf s then some (s.drop start.length) else none

/-- The placeholder that an expression names; axes and variables have a name of at least one character. -/
def Placeholder.ofExpression? (e : List Char) : Option Placeholder :=
  if e = "toolchain".toList then some .toolchain
  else if e = "secrets.token".toList then some .token
  else match afterStart? "matrix.".toList e, afterStart? "env.".toList e with
    | some [], _ => none
    | some axis, _ => some (.matrix (String.ofList axis))
    | none, some [] => none
    | none, some name => some (.env (String.ofList name))
    | none, none => none

/-- Literal text, left out if it is empty. -/
def Segment.literals (s : List Char) : List Segment :=
  if s = [] then [] else [.literal (String.ofList s)]

namespace Template

/-- The segments of a command. A placeholder reaches from its opening to the next closing. -/
def segmentsOf (s : List Char) : Except TemplateError (List Segment) :=
  match _hs : Text.cut? opening s with
  | none => .ok (Segment.literals s)
  | some (before, inside) =>
    match _hi : Text.cut? closing inside with
    | none => .error .unterminated
    | some (expression, rest) =>
      match Placeholder.ofExpression? (Text.trim expression) with
      | none => .error (.unknown (String.ofList (Text.trim expression)))
      | some p => do
        let later ← segmentsOf rest
        return Segment.literals before ++ .placeholder p :: later
termination_by s.length
decreasing_by
  have h₁ := Text.length_lt_of_cut? _hs (by simp [opening])
  have h₂ := Text.length_lt_of_cut? _hi (by simp [closing])
  omega

end Template

structure Template where
  segments : List Segment
  deriving DecidableEq

namespace Template

def parse (source : String) : Except TemplateError Template :=
  (segmentsOf source.toList).map Template.mk

def placeholders (t : Template) : List Placeholder :=
  t.segments.filterMap fun
    | .placeholder p => some p
    | .literal _ => none

/-- The value of a placeholder. A variable is looked up in the step's environment first; what is not set
has the empty value. -/
def valueOf (job : Job) (settings : Settings) (stepEnv : Table String) : Placeholder → String
  | .matrix axis => (job.value? axis).getD ""
  | .toolchain => settings.toolchainLabel job
  | .env name => ((stepEnv.get? name).or (settings.env.get? name)).getD ""
  | .token => settings.token.getD ""

/-- The value of a placeholder as it is shown: the mask stands for the token. -/
def shownValueOf (job : Job) (settings : Settings) (stepEnv : Table String) : Placeholder → String
  | .token => if settings.token.isSome then maskText else ""
  | p => valueOf job settings stepEnv p

def render (value : Placeholder → String) : List Segment → String
  | [] => ""
  | .literal text :: rest => text ++ render value rest
  | .placeholder p :: rest => value p ++ render value rest

def resolve (t : Template) (job : Job) (settings : Settings) (stepEnv : Table String) : String :=
  render (valueOf job settings stepEnv) t.segments

def display (t : Template) (job : Job) (settings : Settings) (stepEnv : Table String) : String :=
  settings.mask (render (shownValueOf job settings stepEnv) t.segments)

end Template
end JobMatrix
