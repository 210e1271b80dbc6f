import JobMatrix.Proofs.RunMoves
import JobMatrix.Run.ReplyRule
import Mathlib.Algebra.GroupWithZero.Nat

/-!
A run goes on until it is closed, whatever the runner answers and whoever's turn it is. Some move is open as long
as the run is not closed, because permits are never lost, and no course of moves is endless: each move begins one
of the steps that are left, or it leaves fewer moves to do before the next step begins.
-/
namespace JobMatrix
variable {b : Build} {tasks : Tasks} {trigger : Trigger} {answer : Invocation → Reply} {may : Invocation → Reply → Prop}
  {jobs : List Job} {s t : RunState} {move : Move}

def Phase.stepsLeft (plan : Plan) : Phase → Nat
  | .waiting | .admitted => plan.length
  | .ready _ ahead | .asked _ _ ahead _ => ahead.length
  | .stopped .. | .told _ | .gone => 0

/-- A bound on the moves of a job that begin no step. -/
def Phase.movesLeft : Phase → Nat
  | .waiting => 5
  | .admitted => 4
  | .ready .. => 3
  | .asked _ _ _ reply => reply.lines.length + 4
  | .stopped .. => 2
  | .told _ => 1
  | .gone => 0

theorem JobContext.Moves.left_lt {c : JobContext} {plan : Plan} {reply : Reply} {phase next : Phase}
    {events : List JobEvent} (h : c.Moves plan reply phase next events) :
    next.stepsLeft plan < phase.stepsLeft plan ∨
      next.stepsLeft plan = phase.stepsLeft plan ∧ next.movesLeft < phase.movesLeft := by
  cases h with
  | skips | asks => exact .inl (Nat.lt_succ_self _)
  | fails | crashes =>
    simp only [Phase.stepsLeft, Phase.movesLeft]
    omega
  | begins | writes | succeeds | ends | tells =>
    refine .inr ⟨rfl, ?_⟩
    simp only [Phase.movesLeft, List.length_cons, List.length_nil]
    omega

namespace RunState

def stepsLeft (plan : Plan) (s : RunState) : Nat := (s.lanes.map (·.phase.stepsLeft plan)).sum

def movesLeft (s : RunState) : Nat :=
  (s.lanes.map (·.phase.movesLeft)).sum + if s.summary = none then 1 else 0

theorem left_lt_of_lane {plan : Plan} {before after : List Lane} {job : Job} {phase next : Phase}
    (hs : s.lanes = before ++ ⟨job, phase⟩ :: after) (ht : t.lanes = before ++ ⟨job, next⟩ :: after)
    (hsum : t.summary = s.summary)
    (hlt : next.stepsLeft plan < phase.stepsLeft plan ∨
      next.stepsLeft plan = phase.stepsLeft plan ∧ next.movesLeft < phase.movesLeft) :
    t.stepsLeft plan < s.stepsLeft plan ∨ t.stepsLeft plan = s.stepsLeft plan ∧ t.movesLeft < s.movesLeft := by
  simp only [stepsLeft, movesLeft, hs, ht, hsum, List.map_append, List.map_cons, List.sum_append, List.sum_cons]
  omega

end RunState

namespace Build

def Answers (b : Build) (tasks : Tasks) (trigger : Trigger) (answer : Invocation → Reply) (s : RunState) (move : Move) : Prop :=
  ∀ call ∈ b.callOf? tasks trigger s move, ∀ reply ∈ move.reply?, reply = answer call

def Follows (b : Build) (tasks : Tasks) (trigger : Trigger) (answer : Invocation → Reply) (s t : RunState) : Prop :=
  ∃ move, b.step? tasks trigger s move = some t ∧ b.Answers tasks trigger answer s move

theorem Step.left_lt (h : b.Step tasks trigger s move t) :
    t.stepsLeft b.plan < s.stepsLeft b.plan ∨
      t.stepsLeft b.plan = s.stepsLeft b.plan ∧ t.movesLeft < s.movesLeft := by
  cases h with
  | acquire lane permit => exact RunState.left_lt_of_lane lane rfl rfl (.inr ⟨rfl, by decide⟩)
  | work lane goes => exact RunState.left_lt_of_lane lane rfl rfl goes.left_lt
  | release lane => exact RunState.left_lt_of_lane lane rfl rfl (.inr ⟨rfl, Nat.zero_lt_one⟩)
  | close gone unclosed => exact .inr ⟨rfl, by simp [RunState.movesLeft, unclosed]⟩

/-- No course of moves is endless: what holds of a state if it holds of all that come after it holds of every state.
The induction is on the steps that are left, and on the moves that are left before the next of them begins. -/
theorem induction_on_moves (b : Build) (tasks : Tasks) (trigger : Trigger) {motive : RunState → Prop}
    (enough : ∀ s, (∀ move t, b.Step tasks trigger s move t → motive t) → motive s) (s : RunState) : motive s := by
  induction hs : s.stepsLeft b.plan using Nat.strongRecOn generalizing s with
  | _ steps ihs =>
    induction hm : s.movesLeft using Nat.strongRecOn generalizing s with
    | _ moves ihm =>
      refine enough s fun move t goes => ?_
      rcases goes.left_lt with hlt | ⟨heq, hlt⟩
      · exact ihs _ (hs ▸ hlt) t rfl
      · exact ihm _ (hm ▸ hlt) t (heq.trans hs) rfl

/-- What holds in every state of a run, whatever the runner answers: the jobs are those of the run, permits are free
or held, and the run is closed only after every job is gone. -/
structure InHand (b : Build) (trigger : Trigger) (jobs : List Job) (s : RunState) : Prop where
  members : s.lanes.map (·.job) = jobs
  permits : s.free.map (· + s.held) = b.bound
  closed : ∀ summary ∈ s.summary, s.allGone = true ∧ summary = b.summaryOf trigger s.reports

theorem inHand_start (b : Build) (trigger : Trigger) (jobs : List Job) :
    b.InHand trigger jobs (b.startingState trigger jobs) where
  members := by simp [startingState, Function.comp_def]
  permits := by simp [startingState, RunState.held, List.filter_map, Function.comp_def, Phase.hasPermit]
  closed := by simp [startingState]

theorem InHand.summary_eq_none (h : b.InHand trigger jobs s) {lane : Lane} (hl : lane ∈ s.lanes)
    (hp : lane.phase ≠ .gone) : s.summary = none := by
  cases hs : s.summary with
  | none => rfl
  | some summary =>
    have hgone := (h.closed summary (by simp [hs])).1
    exact absurd (RunState.phase_of_allGone hgone hl) hp

theorem InHand.unclosed (h : b.InHand trigger jobs s) (goes : b.Step tasks trigger s move t) : s.summary = none := by
  cases goes with
  | @acquire before after job free lane permit =>
    have hl : (⟨job, .waiting⟩ : Lane) ∈ s.lanes := by simp [lane]
    exact h.summary_eq_none hl (by simp)
  | @work before after job phase next reply events lane goes =>
    have hl : (⟨job, phase⟩ : Lane) ∈ s.lanes := by simp [lane]
    exact h.summary_eq_none hl goes.ne_gone.1
  | @release before after job report lane =>
    have hl : (⟨job, .told report⟩ : Lane) ∈ s.lanes := by simp [lane]
    exact h.summary_eq_none hl (by simp)
  | close gone unclosed => exact unclosed

theorem map_of_takePermit? {free rest : Option Nat} (h : RunState.takePermit? free = some rest) (held : Nat) :
    rest.map (· + (held + 1)) = free.map (· + held) := by
  rcases free with _ | _ | n
  · cases h
    rfl
  · cases h
  · cases h
    simp only [Option.map_some, Option.some.injEq]
    omega

theorem InHand.step (h : b.InHand trigger jobs s) (goes : b.Step tasks trigger s move t) :
    b.InHand trigger jobs t := by
  have hn := h.unclosed goes
  have hp := h.permits
  cases goes with
  | @acquire before after job free lane permit =>
    refine ⟨by simpa [lane] using h.members, ?_, by simp [hn]⟩
    have ht := map_of_takePermit? permit s.held
    simp only [RunState.held, lane, List.filter_append, List.filter_cons, Phase.hasPermit] at hp ht ⊢
    rw [← hp, ← ht]
    simp [Nat.add_assoc]
  | @work before after job phase next reply events lane goes =>
    obtain ⟨hphase, hnext⟩ := goes.hasPermit
    refine ⟨by simpa [lane] using h.members, ?_, by simp [hn]⟩
    simpa [RunState.held, lane, List.filter_append, List.filter_cons, hphase, hnext] using hp
  | @release before after job report lane =>
    refine ⟨by simpa [lane] using h.members, ?_, by simp [hn]⟩
    simp only [RunState.held, lane, List.filter_append, List.filter_cons, Phase.hasPermit] at hp ⊢
    rw [← hp]
    cases s.free with
    | none => rfl
    | some n =>
      simp
      omega
  | close gone unclosed => exact ⟨h.members, hp, by simpa [RunState.allGone] using gone⟩

theorem inHand_of_reachable (h : b.Reachable tasks trigger jobs may s) : b.InHand trigger jobs s := by
  induction h with
  | start => exact b.inHand_start trigger jobs
  | step move before comes given ih => exact ih.step (step_of_step? comes)

theorem InHand.goesOn (h : b.InHand trigger jobs s) (bound : b.bound ≠ some 0) (unclosed : s.summary = none)
    (answer : Invocation → Reply) : ∃ t, b.Follows tasks trigger answer s t := by
  by_cases hgone : s.allGone = true
  · exact ⟨_, .close, step?_of_step (.close hgone unclosed), by simp [Answers, callOf?]⟩
  · by_cases hheld : ∃ lane ∈ s.lanes, lane.phase.hasPermit = true
    · -- Some job is at work, and works on or gives its permit back.
      obtain ⟨⟨job, phase⟩, hl, hp⟩ := hheld
      obtain ⟨before, after, hs⟩ := List.append_of_mem hl
      obtain ⟨reply, hr⟩ : ∃ reply, ∀ call, (b.context tasks job trigger).nextCall? phase = some call →
          reply = answer call := by
        cases (b.context tasks job trigger).nextCall? phase with
        | none => exact ⟨.silent, by simp⟩
        | some call => exact ⟨answer call, by simp⟩
      obtain ⟨report, rfl⟩ | ⟨next, events, goes⟩ :=
        (b.context tasks job trigger).exists_moves_of_hasPermit b.plan reply hp
      · exact ⟨_, _, step?_of_step (.release hs), by simp [Answers, callOf?]⟩
      · refine ⟨_, _, step?_of_step (.work hs goes), ?_⟩
        intro call hc given hg
        rw [callOf?_work hs] at hc
        cases hg
        exact hr call hc
    · -- All permits are free, and the next job that waits takes one.
      obtain ⟨⟨job, phase⟩, hl, hp⟩ : ∃ lane ∈ s.lanes, lane.phase ≠ .gone := by
        simpa [RunState.allGone] using hgone
      have hnone : s.held = 0 := by
        simpa [RunState.held] using hheld
      have hfree : s.free = b.bound := by
        simpa [hnone] using h.permits
      have hwait : phase = .waiting := by
        have hno : phase.hasPermit ≠ true := fun hy => hheld ⟨_, hl, hy⟩
        cases phase with
        | waiting => rfl
        | gone => exact absurd rfl hp
        | _ => exact absurd rfl hno
      obtain ⟨free, hf⟩ : ∃ free, RunState.takePermit? s.free = some free := by
        rw [hfree]
        rcases hb : b.bound with _ | _ | n
        · exact ⟨none, rfl⟩
        · exact absurd hb bound
        · exact ⟨some n, rfl⟩
      obtain ⟨before, after, hs⟩ := List.append_of_mem hl
      subst hwait
      exact ⟨_, _, step?_of_step (.acquire hs hf), by simp [Answers, callOf?]⟩

/-- Every course of the run from here on is finite and gets stuck nowhere, whatever the runner answers, and it ends
with the run closed. -/
inductive Closes (b : Build) (tasks : Tasks) (trigger : Trigger) : RunState → Prop
  | closed {s : RunState} (result : s.summary.isSome = true) (still : ∀ move, b.step? tasks trigger s move = none) :
      Closes b tasks trigger s
  | later {s : RunState} (unclosed : s.summary = none) (goesOn : ∀ answer, ∃ t, b.Follows tasks trigger answer s t)
      (closes : ∀ move t, b.step? tasks trigger s move = some t → Closes b tasks trigger t) : Closes b tasks trigger s

theorem InHand.closes (h : b.InHand trigger jobs s) (bound : b.bound ≠ some 0) : b.Closes tasks trigger s := by
  induction s using induction_on_moves b tasks trigger with
  | _ s ih =>
    cases hs : s.summary with
    | some summary =>
      refine .closed (by simp [hs]) fun move => ?_
      cases hm : b.step? tasks trigger s move with
      | none => rfl
      | some t =>
        have hnone := h.unclosed (step_of_step? hm)
        simp [hs] at hnone
    | none =>
      refine .later hs (h.goesOn bound hs) fun move t comes => ?_
      have hstep := step_of_step? comes
      exact ih move t hstep (h.step hstep)

end Build
end JobMatrix
