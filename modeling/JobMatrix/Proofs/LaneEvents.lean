import JobMatrix.Proofs.LaneMoves
import JobMatrix.Proofs.StepEvents

/-!
What one job has told of itself when it stands in a phase of a run, whatever the runner answers. Every step that it
has begun is completed before the next one, so only the step that the runner is at work on is unfinished; and it
stays so if the runner crashes.
-/
namespace JobMatrix
variable {c : JobContext} {plan : Plan} {reply : Reply} {phase next : Phase} {events inner new : List JobEvent}
  {reports : List JobReport} {e : JobEvent} {place : Nat}

def JobEvent.begun? : JobEvent → Option Nat
  | stepStarted place .. => some place
  | _ => none

def JobEvent.ended? : JobEvent → Option Nat
  | stepCompleted place .. => some place
  | _ => none

def unfinished (events : List JobEvent) : List Nat :=
  (events.filterMap JobEvent.begun?).filter (· ∉ events.filterMap JobEvent.ended?)

/-- How many steps are left unfinished: the one in which the runner has crashed, and no other. -/
def Outcome.unfinished : Outcome → Nat
  | aborted _ => 1
  | success | failed .. => 0

def Stop.unfinished : Stop → Nat
  | crashed _ => 1
  | completed | failed .. => 0

/-- The events of a job from its start to its outcome. Between the two are events of its steps alone, and only an
aborted job leaves one of them unfinished. -/
def IsWholeLog (steps : Nat) (outcome : Outcome) (events : List JobEvent) : Prop :=
  ∃ inner, events = .started steps :: inner ++ [.completed outcome] ∧ (∀ e ∈ inner, e.place?.isSome = true) ∧
    (unfinished inner).length = outcome.unfinished

def PlacesBelow (bound : Nat) (events : List JobEvent) : Prop :=
  ∀ e ∈ events, ∃ place, e.place? = some place ∧ place < bound

/-- What a job has told when it stands in a phase. The report of a job that is gone is among the reports. -/
inductive HasTold (steps : Nat) (reports : List JobReport) (job : Job) : Phase → List JobEvent → Prop
  | waiting : HasTold steps reports job .waiting []
  | admitted : HasTold steps reports job .admitted []
  | ready {done : List StepReport} {ahead : Plan} {inner : List JobEvent}
      (places : PlacesBelow done.length inner)
      (finished : unfinished inner = []) :
      HasTold steps reports job (.ready done ahead) (.started steps :: inner)
  | asked {done : List StepReport} {s : PlannedStep} {ahead : Plan} {reply : Reply} {inner : List JobEvent}
      (places : PlacesBelow (done.length + 1) inner)
      (atWork : unfinished inner = [done.length]) :
      HasTold steps reports job (.asked done s ahead reply) (.started steps :: inner)
  | stopped {done : List StepReport} {stop : Stop} {inner : List JobEvent}
      (places : ∀ e ∈ inner, e.place?.isSome = true)
      (left : (unfinished inner).length = stop.unfinished) :
      HasTold steps reports job (.stopped done stop) (.started steps :: inner)
  | told {report : JobReport} {events : List JobEvent} (own : report.job = job)
      (whole : IsWholeLog steps report.outcome events) : HasTold steps reports job (.told report) events
  | gone {report : JobReport} {events : List JobEvent} (known : report ∈ reports) (own : report.job = job)
      (whole : IsWholeLog steps report.outcome events) : HasTold steps reports job .gone events

theorem PlacesBelow.isSome {bound : Nat} (h : PlacesBelow bound inner) : ∀ e ∈ inner, e.place?.isSome = true := by
  intro e he
  obtain ⟨place, hp, -⟩ := h e he
  simp [hp]

theorem PlacesBelow.ne {bound : Nat} (h : PlacesBelow bound inner) : ∀ e ∈ inner, e.place? ≠ some bound := by
  intro e he hp
  obtain ⟨place, hq, hlt⟩ := h e he
  have heq : place = bound := Option.some.inj (hq.symm.trans hp)
  omega

theorem PlacesBelow.append_one {bound more : Nat} (h : PlacesBelow bound inner) (hle : bound ≤ more)
    (he : e.place? = some place) (hlt : place < more) : PlacesBelow more (inner ++ [e]) := by
  intro d hd
  rcases List.mem_append.mp hd with hd | hd
  · obtain ⟨i, hi, hb⟩ := h d hd
    exact ⟨i, hi, by omega⟩
  · obtain rfl := List.mem_singleton.mp hd
    exact ⟨place, he, hlt⟩

theorem unfinished_append_other (inner : List JobEvent) (hb : e.begun? = none) (he : e.ended? = none) :
    unfinished (inner ++ [e]) = unfinished inner := by
  simp [unfinished, hb, he]

theorem unfinished_append_started (hnew : ∀ e ∈ inner, e.place? ≠ some place) (name command : String) :
    unfinished (inner ++ [.stepStarted place name command]) = unfinished inner ++ [place] := by
  have hfresh : place ∉ inner.filterMap JobEvent.ended? := by
    intro hm
    obtain ⟨e, he, hp⟩ := List.mem_filterMap.mp hm
    cases e with
    | stepCompleted i name status code => exact hnew _ he hp
    | _ => cases hp
  simp only [unfinished, List.filterMap_append, List.filterMap_cons, List.filterMap_nil, JobEvent.begun?,
    JobEvent.ended?, List.append_nil, List.filter_append]
  rw [List.filter_cons_of_pos (by simpa using hfresh), List.filter_nil]

theorem unfinished_append_completed (inner : List JobEvent) (place : Nat) (name : String) (status : StepStatus)
    (code : Option Int) :
    unfinished (inner ++ [.stepCompleted place name status code]) = (unfinished inner).filter (· ≠ place) := by
  simp only [unfinished, List.filterMap_append, List.filterMap_cons, List.filterMap_nil, JobEvent.begun?,
    JobEvent.ended?, List.append_nil, List.filter_filter]
  refine List.filter_congr fun i _ => ?_
  simp [not_or, and_comm]

theorem JobContext.job_report (c : JobContext) (plan : Plan) (steps : List StepReport) (stop : Stop) :
    (c.report plan steps stop).job = c.job := by
  cases stop <;> rfl

theorem JobContext.outcome_report (c : JobContext) (plan : Plan) (steps : List StepReport) (stop : Stop) :
    (c.report plan steps stop).outcome = c.outcome stop := by
  cases stop <;> rfl

theorem JobContext.unfinished_outcome (c : JobContext) (stop : Stop) : (c.outcome stop).unfinished = stop.unfinished := by
  cases stop <;> rfl

theorem HasTold.mono {steps : Nat} {job : Job} {more : List JobReport} (h : HasTold steps reports job phase events)
    (hsub : reports ⊆ more) : HasTold steps more job phase events := by
  cases h with
  | waiting => exact .waiting
  | admitted => exact .admitted
  | ready places finished => exact .ready places finished
  | asked places atWork => exact .asked places atWork
  | stopped places left => exact .stopped places left
  | told own whole => exact .told own whole
  | gone known own whole => exact .gone (hsub known) own whole

theorem HasTold.admit {steps : Nat} {job : Job} (h : HasTold steps reports job .waiting events) :
    HasTold steps reports job .admitted events := by
  cases h
  exact .admitted

theorem HasTold.release {steps : Nat} {job : Job} {report : JobReport} (known : report ∈ reports)
    (h : HasTold steps reports job (.told report) events) : HasTold steps reports job .gone events := by
  cases h with
  | told own whole => exact .gone known own whole

theorem HasTold.moves (h : HasTold plan.length reports c.job phase events)
    (goes : c.Moves plan reply phase next new) :
    HasTold plan.length reports c.job next (events ++ new) := by
  cases goes with
  | begins =>
    cases h
    exact .ready (fun e he => by cases he) rfl
  | @skips done s ahead reason excluded =>
    obtain _ | _ | ⟨places, finished⟩ := h
    have hdone : (done ++ [StepReport.idle s.step.name .skipped]).length = done.length + 1 := List.length_append
    refine .ready ?_ ((unfinished_append_other _ rfl rfl).trans finished)
    rw [hdone]
    exact places.append_one (Nat.le_succ _) rfl (Nat.lt_succ_self _)
  | @asks done s ahead applies =>
    obtain _ | _ | ⟨places, finished⟩ := h
    rw [List.cons_append]
    refine .asked (places.append_one (Nat.le_succ _) rfl (Nat.lt_succ_self _)) ?_
    rw [unfinished_append_started places.ne, finished, List.nil_append]
  | @writes done s ahead line lines ending =>
    obtain _ | _ | _ | ⟨places, atWork⟩ := h
    exact .asked (places.append_one (Nat.le_refl _) rfl (Nat.lt_succ_self _))
      ((unfinished_append_other _ rfl rfl).trans atWork)
  | @succeeds done s ahead code errors success =>
    obtain _ | _ | _ | ⟨places, atWork⟩ := h
    have hdone : (done ++ [c.stepReport s code errors]).length = done.length + 1 := List.length_append
    rw [List.cons_append]
    refine .ready ?_ ?_
    · rw [hdone]
      exact places.append_one (Nat.le_refl _) rfl (Nat.lt_succ_self _)
    · rw [unfinished_append_completed, atWork]
      simp
  | @fails done s ahead code errors failure =>
    obtain _ | _ | _ | ⟨places, atWork⟩ := h
    rw [List.cons_append]
    refine .stopped (PlacesBelow.append_one places (Nat.le_refl _) rfl (Nat.lt_succ_self _)).isSome ?_
    rw [unfinished_append_completed, atWork]
    simp [Stop.unfinished]
  | crashes =>
    obtain _ | _ | _ | ⟨places, atWork⟩ := h
    rw [List.append_nil]
    exact .stopped places.isSome (by rw [atWork]; rfl)
  | ends =>
    obtain _ | _ | ⟨places, finished⟩ := h
    rw [List.append_nil]
    exact .stopped places.isSome (by rw [finished]; rfl)
  | @tells steps stop =>
    obtain _ | _ | _ | _ | ⟨places, left⟩ := h
    refine .told (c.job_report plan steps stop) ⟨_, ?_, places, ?_⟩
    · rw [c.outcome_report]
    · rw [c.outcome_report, c.unfinished_outcome]
      exact left

end JobMatrix
