import JobMatrix.Job
import JobMatrix.Text.Quoted

/-!
The tasks under a run. The whole run is a task, and so is each job; a task that panics is joined with an error, whose
text is the runtime's and has the number of the task in it.
-/
namespace JobMatrix

/-- What the runtime brings to one run: the numbers of its tasks, the text of the error for a task that has panicked,
by its number and the message of the panic if that has one, and the message when more permits are asked for than there
can be. -/
structure Tasks where
  whole : Nat
  ofJob : Job → Nat
  joinError : Nat → Option String → String
  permitsMessage : String

/-- The text of the error with which the task of a job is joined. -/
def Tasks.crashText (tasks : Tasks) (job : Job) : Option String → String := tasks.joinError (tasks.ofJob job)

def panicText (task : Nat) : Option String → String
  | some message => s!"task {task} panicked with message " ++ Text.quoted message
  | none => s!"task {task} panicked"

def Tasks.numbered : Tasks where
  whole := 0
  ofJob job := job.index + 1
  joinError := panicText
  permitsMessage := "a semaphore may not have more than MAX_PERMITS permits (2305843009213693951)"

end JobMatrix
