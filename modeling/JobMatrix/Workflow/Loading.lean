import JobMatrix.Workflow.Check
import JobMatrix.Workflow.Reading

/-!
Loading a declaration from a file.
-/
namespace JobMatrix

/-- What a path leads to. -/
inductive FileState
  | missing
  | directory
  | denied
  | file (bytes : ByteArray)

/-- Why nothing is loaded: the file cannot be read, or it holds no declaration. -/
inductive LoadError
  | missing
  | directory
  | denied
  | notText
  | unreadable (error : ReadError)

def LoadError.message : LoadError → String
  | missing => "IO error: No such file or directory (os error 2)"
  | directory => "IO error: Is a directory (os error 21)"
  | denied => "IO error: Permission denied (os error 13)"
  | notText => "IO error: stream did not contain valid UTF-8"
  | unreadable error => error.message

namespace Workflow

def load : FileState → Except LoadError Workflow
  | .missing => .error .missing
  | .directory => .error .directory
  | .denied => .error .denied
  | .file bytes =>
    match String.fromUTF8? bytes with
    | some text => (ofText text).mapError .unreadable
    | none => .error .notText

end Workflow
end JobMatrix
