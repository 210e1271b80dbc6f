import JobMatrix.Cli.Document
import JobMatrix.Proofs.MaskedTexts
import JobMatrix.Proofs.RunEvents

/-!
Where the texts of an outcome come from. Whatever the runner answers and whoever's turn it is, an outcome that a run
publishes names a failed step of the plan or tells of a crash of the runner, in the words of the task's join error.
Nothing of it is masked: a token shows in the name, in the wording, or in the message of the crash, which is the
runner's.
-/
namespace JobMatrix
open Text
variable {b : Build} {tasks : Tasks} {trigger : Trigger} {jobs : List Job} {may : Invocation → Reply → Prop}
  {s t : RunState} {move : Move} {c : JobContext} {plan : Plan} {reply : Reply} {phase next : Phase}
  {events : List JobEvent} {outcome : Outcome} {stop : Stop} {mark : List Char} {front middle back : String}

def JsonValue.fieldTexts : JsonValue → List String
  | object fields => fields.filterMap fun
    | (_, string text) => some text
    | _ => none
  | _ => []

namespace Outcome

def texts (outcome : Outcome) : List String := outcome.message :: (JsonValue.ofOutcome outcome).fieldTexts

def opening : Outcome → String
  | success => "success"
  | failed .. => "failed at step '"
  | aborted _ => "aborted: "

def closing : Outcome → String
  | failed _ (some code) => "' (exit code " ++ toString code ++ ")"
  | failed _ none => "' (no exit code)"
  | success | aborted _ => ""

theorem message_failed (step : String) (code : Option Int) :
    (failed step code).message = "failed at step '" ++ (step ++ (failed step code).closing) := by
  cases code with
  | none => exact String.append_assoc
  | some code =>
    rw [closing, ← String.append_assoc, ← String.append_assoc, ← String.append_assoc]
    rfl

theorem message_aborted (reason : String) : (aborted reason).message = "aborted: " ++ reason := rfl

theorem texts_failed (step : String) (code : Option Int) :
    (failed step code).texts = [(failed step code).message, "failed", step] := by
  cases code <;> rfl

theorem infix_message (outcome : Outcome) {text : String} (h : text ∈ outcome.texts) :
    text.toList <:+: outcome.message.toList := by
  cases outcome with
  | success =>
    have htexts : ∀ text ∈ ["success", "success"], text.toList <:+: "success".toList := by simp
    exact htexts text h
  | failed step code =>
    have hstep : step.toList <:+: (failed step code).message.toList := by
      rw [message_failed, ← String.append_assoc, String.toList_append, String.toList_append]
      exact List.infix_append _ _ _
    have hword : "failed".toList <:+: (failed step code).message.toList := by
      rw [message_failed, String.toList_append]
      exact List.IsInfix.trans ⟨[], " at step '".toList, by decide⟩ (List.prefix_append _ _).isInfix
    rw [texts_failed] at h
    have htexts : ∀ text ∈ [(failed step code).message, "failed", step],
        text.toList <:+: (failed step code).message.toList := by
      simp only [List.forall_mem_cons]
      exact ⟨List.infix_refl _, hword, hstep, by simp⟩
    exact htexts text h
  | aborted reason =>
    have hreason : reason.toList <:+: ("aborted: " ++ reason).toList := by
      rw [String.toList_append]
      exact (List.suffix_append _ _).isInfix
    have hword : "aborted".toList <:+: ("aborted: " ++ reason).toList := by
      rw [String.toList_append]
      exact List.IsInfix.trans ⟨[], ": ".toList, by decide⟩ (List.prefix_append _ _).isInfix
    have htexts : ∀ text ∈ ["aborted: " ++ reason, "aborted", reason],
        text.toList <:+: ("aborted: " ++ reason).toList := by
      simp only [List.forall_mem_cons]
      exact ⟨List.infix_refl _, hword, hreason, by simp⟩
    exact htexts text h

end Outcome

/-- The error for a task that has panicked quotes the message of the panic. -/
def Tasks.QuotesMessages (tasks : Tasks) : Prop :=
  ∀ number message, ∃ before after, tasks.joinError number (some message) = before ++ (quoted message ++ after)

theorem quotesMessages_numbered : Tasks.numbered.QuotesMessages :=
  fun number message => ⟨s!"task {number} panicked with message ", "", by rw [String.append_empty]; rfl⟩

/-- What the outcome for a stop says: its wording, and in the middle the name of the step that failed or the message of
the crash between quotes. A crash without a message is told in words alone. -/
inductive JobContext.Reads (c : JobContext) : Stop → String → String → String → Prop
  | completed : Reads c .completed "success" "" ""
  | failed (step : String) (code : Option Int) :
      Reads c (.failed step code) "failed at step '" step (Outcome.failed step code).closing
  | crashed {message before after : String} (told : c.crashText (some message) = before ++ (quoted message ++ after)) :
      Reads c (.crashed (some message)) ("aborted: " ++ before) (quoted message) after
  | crashedSilently : Reads c (.crashed none) ("aborted: " ++ c.crashText none) "" ""

theorem JobContext.Reads.message_eq (h : c.Reads stop front middle back) :
    (c.outcome stop).message = front ++ (middle ++ back) := by
  cases h with
  | completed => rfl
  | failed => exact Outcome.message_failed _ _
  | crashed told => rw [outcome, Outcome.message_aborted, told, String.append_assoc]
  | crashedSilently =>
    rw [String.append_empty, String.append_empty]
    rfl

theorem JobContext.exists_reads (c : JobContext)
    (quotes : ∀ message, ∃ before after, c.crashText (some message) = before ++ (quoted message ++ after))
    (stop : Stop) : ∃ front middle back, c.Reads stop front middle back := by
  cases stop with
  | completed => exact ⟨_, _, _, .completed⟩
  | failed step code => exact ⟨_, _, _, .failed step code⟩
  | crashed message =>
    cases message with
    | none => exact ⟨_, _, _, .crashedSilently⟩
    | some message =>
      obtain ⟨before, after, told⟩ := quotes message
      exact ⟨_, _, _, .crashed told⟩

inductive ShowsAround (mark : List Char) (front middle back : String) : Prop
  | wording (h : mark <:+: front.toList ∨ mark <:+: back.toList)
  | subject (h : mark <:+: middle.toList)
  | across (h : Crosses mark front.toList (middle.toList ++ back.toList) ∨ Crosses mark middle.toList back.toList)

theorem infix_iff_showsAround :
    mark <:+: (front ++ (middle ++ back)).toList ↔ ShowsAround mark front middle back := by
  rw [String.toList_append, String.toList_append, infix_append_iff_crosses, infix_append_iff_crosses]
  constructor
  · rintro (h | (h | h | h) | h)
    · exact .wording (.inl h)
    · exact .subject h
    · exact .wording (.inr h)
    · exact .across (.inr h)
    · exact .across (.inl h)
  · rintro ((h | h) | h | (h | h))
    · exact .inl h
    · exact .inr (.inl (.inr (.inl h)))
    · exact .inr (.inl (.inl h))
    · exact .inr (.inr h)
    · exact .inr (.inl (.inr (.inr h)))

theorem JobContext.Reads.exists_mem_texts_iff (h : c.Reads stop front middle back) :
    (∃ text ∈ (c.outcome stop).texts, mark <:+: text.toList) ↔ ShowsAround mark front middle back := by
  -- the other texts stand in the message, so a mark shows in one of them only if it shows there
  have hmessage : (∃ text ∈ (c.outcome stop).texts, mark <:+: text.toList) ↔
      mark <:+: (c.outcome stop).message.toList := by
    constructor
    · rintro ⟨text, hm, hi⟩
      exact hi.trans ((c.outcome stop).infix_message hm)
    · exact fun hi => ⟨_, List.mem_cons_self, hi⟩
  rw [hmessage, h.message_eq, infix_iff_showsAround]

namespace Stop

/-- What has brought the steps of a job to their end: nothing but their number, or a reply of the runner to one of
them. -/
inductive IsCaused (c : JobContext) (plan : Plan) (may : Invocation → Reply → Prop) : Stop → Prop
  | completed : IsCaused c plan may .completed
  | failed {s : PlannedStep} {lines : List OutputLine} {code : Option Int} {errors : String} (planned : s ∈ plan)
      (answered : may (c.invocation s) ⟨lines, .exited code errors⟩) (failure : isSuccess code = false) :
      IsCaused c plan may (.failed s.step.name code)
  | crashed {s : PlannedStep} {lines : List OutputLine} {message : Option String} (planned : s ∈ plan)
      (answered : may (c.invocation s) ⟨lines, .crashed message⟩) : IsCaused c plan may (.crashed message)

end Stop

def Outcome.IsCaused (outcome : Outcome) (c : JobContext) (plan : Plan) (may : Invocation → Reply → Prop) : Prop :=
  ∃ stop : Stop, c.outcome stop = outcome ∧ stop.IsCaused c plan may

def Phase.IsCaused (c : JobContext) (plan : Plan) (may : Invocation → Reply → Prop) : Phase → Prop
  | .waiting | .admitted | .gone => True
  | .ready _ ahead => ahead ⊆ plan
  | .asked _ s ahead reply => (s ∈ plan ∧ ahead ⊆ plan) ∧ ∃ lines, may (c.invocation s) ⟨lines, reply.ending⟩
  | .stopped _ stop => stop.IsCaused c plan may
  | .told report => report.job = c.job ∧ report.outcome.IsCaused c plan may

theorem JobContext.Moves.isCaused (h : c.Moves plan reply phase next events)
    (given : ∀ call, c.nextCall? phase = some call → may call reply) (caused : phase.IsCaused c plan may) :
    next.IsCaused c plan may ∧ ∀ outcome, .completed outcome ∈ events → outcome.IsCaused c plan may := by
  cases h with
  | begins => exact ⟨List.Subset.refl _, by simp⟩
  | skips excluded => exact ⟨(List.cons_subset.mp caused).2, by simp⟩
  | @asks done s ahead applies =>
    -- the one move with which the runner comes in; later moves use up the lines and keep the ending
    have hreply := given (c.invocation s) (by simp [nextCall?, applies])
    exact ⟨⟨List.cons_subset.mp caused, reply.lines, hreply⟩, by simp⟩
  | writes => exact ⟨caused, by simp [outputEvents]⟩
  | succeeds success => exact ⟨caused.1.2, by simp⟩
  | fails failure =>
    obtain ⟨⟨planned, -⟩, lines, answered⟩ := caused
    exact ⟨.failed planned answered failure, by simp⟩
  | crashes =>
    obtain ⟨⟨planned, -⟩, lines, answered⟩ := caused
    exact ⟨.crashed planned answered, by simp⟩
  | ends => exact ⟨.completed, by simp⟩
  | @tells steps stop =>
    refine ⟨⟨c.job_report plan steps stop, stop, (c.outcome_report plan steps stop).symm, caused⟩, ?_⟩
    intro outcome told
    obtain rfl : outcome = c.outcome stop := by simpa using told
    exact ⟨stop, rfl, caused⟩

namespace Build

/-- Every outcome that has come up in a run is caused by the steps of its job and the runner's answers to them. -/
structure IsCaused (b : Build) (tasks : Tasks) (trigger : Trigger) (jobs : List Job)
    (may : Invocation → Reply → Prop) (s : RunState) : Prop where
  lanes : ∀ lane ∈ s.lanes, lane.job ∈ jobs ∧ lane.phase.IsCaused (b.context tasks lane.job trigger) b.plan may
  reports : ∀ report ∈ s.reports,
    report.job ∈ jobs ∧ report.outcome.IsCaused (b.context tasks report.job trigger) b.plan may
  log : ∀ index name outcome, .job index name (.completed outcome) ∈ s.log →
    ∃ job ∈ jobs, job.index = index ∧ job.name = name ∧ outcome.IsCaused (b.context tasks job trigger) b.plan may

theorem isCaused_start (b : Build) (tasks : Tasks) (trigger : Trigger) (jobs : List Job)
    (may : Invocation → Reply → Prop) :
    b.IsCaused tasks trigger jobs may (b.startingState trigger jobs) where
  lanes := by
    intro lane hl
    obtain ⟨job, hj, rfl⟩ := List.mem_map.mp hl
    exact ⟨hj, trivial⟩
  reports := by simp [startingState]
  log := by simp [startingState]

theorem IsCaused.turn (h : b.IsCaused tasks trigger jobs may s) {before after : List Lane} {job : Job}
    (lane : s.lanes = before ++ ⟨job, phase⟩ :: after) :
    (job ∈ jobs ∧ phase.IsCaused (b.context tasks job trigger) b.plan may) ∧
      ∀ next : Phase, next.IsCaused (b.context tasks job trigger) b.plan may → ∀ lane ∈ before ++ ⟨job, next⟩ :: after,
        lane.job ∈ jobs ∧ lane.phase.IsCaused (b.context tasks lane.job trigger) b.plan may := by
  have hlanes := h.lanes
  rw [lane] at hlanes
  simp only [List.forall_mem_append, List.forall_mem_cons] at hlanes ⊢
  obtain ⟨hbefore, hown, hafter⟩ := hlanes
  exact ⟨hown, fun next hnext => ⟨hbefore, ⟨hown.1, hnext⟩, hafter⟩⟩

theorem IsCaused.step (h : b.IsCaused tasks trigger jobs may s) (goes : b.Step tasks trigger s move t)
    (given : ∀ call ∈ b.callOf? tasks trigger s move, ∀ reply ∈ move.reply?, may call reply) :
    b.IsCaused tasks trigger jobs may t := by
  cases goes with
  | acquire lane permit =>
    obtain ⟨-, hlanes⟩ := h.turn lane
    exact ⟨hlanes .admitted trivial, h.reports, h.log⟩
  | @work before after job phase next reply events lane goes =>
    obtain ⟨⟨hj, hphase⟩, hlanes⟩ := h.turn lane
    have hcall : ∀ call, (b.context tasks job trigger).nextCall? phase = some call → may call reply := by
      intro call hc
      exact given call (by rw [callOf?_work lane]; exact hc) reply rfl
    obtain ⟨hnext, htold⟩ := goes.isCaused hcall hphase
    refine ⟨hlanes next hnext, h.reports, ?_⟩
    intro index name outcome hm
    rcases List.mem_append.mp hm with hm | hm
    · exact h.log index name outcome hm
    · obtain ⟨event, he, heq⟩ := List.mem_map.mp hm
      cases heq
      exact ⟨job, hj, rfl, rfl, htold outcome he⟩
  | @release before after job report lane =>
    obtain ⟨⟨hj, hown, hcaused⟩, hlanes⟩ := h.turn lane
    have hjob : report.job = job := hown
    have hreport : report.job ∈ jobs ∧ report.outcome.IsCaused (b.context tasks report.job trigger) b.plan may := by
      rw [hjob]
      exact ⟨hj, hcaused⟩
    refine ⟨hlanes .gone trivial, ?_, h.log⟩
    simp only [List.forall_mem_append, List.forall_mem_singleton]
    exact ⟨h.reports, hreport⟩
  | close gone unclosed =>
    refine ⟨h.lanes, h.reports, ?_⟩
    intro index name outcome hm
    refine h.log index name outcome ?_
    simpa [Summary.closing] using hm

theorem isCaused_of_reachable (h : b.Reachable tasks trigger jobs may s) : b.IsCaused tasks trigger jobs may s := by
  induction h with
  | start => exact b.isCaused_start tasks trigger jobs may
  | step move before comes given ih => exact ih.step (step_of_step? comes) given

end Build

/-- The outcomes that a run publishes, each with the number and the name of its job: in an event or in the summary. -/
inductive RunState.Publishes (s : RunState) : Nat → String → Outcome → Prop
  | event {index : Nat} {name : String} {outcome : Outcome} (told : .job index name (.completed outcome) ∈ s.log) :
      s.Publishes index name outcome
  | result {summary : Summary} {report : JobReport} (closed : s.summary = some summary)
      (known : report ∈ summary.jobs) : s.Publishes report.job.index report.job.name report.outcome

theorem Build.isCaused_of_publishes (reaches : b.Reachable tasks trigger jobs may s) {index : Nat} {name : String}
    (published : s.Publishes index name outcome) :
    ∃ job ∈ jobs, job.index = index ∧ job.name = name ∧ outcome.IsCaused (b.context tasks job trigger) b.plan may := by
  have hcaused := isCaused_of_reachable reaches
  cases published with
  | event told => exact hcaused.log _ _ _ told
  | @result summary report closed known =>
    obtain ⟨-, rfl⟩ := (inHand_of_reachable reaches).closed summary closed
    obtain ⟨hj, hreport⟩ := hcaused.reports report ((b.perm_summaryOf trigger s.reports).mem_iff.mp known)
    exact ⟨report.job, hj, rfl, rfl, hreport⟩

theorem Text.quotedChar_eq_self {c : Char} (visible : 32 ≤ c.toNat ∧ c.toNat < 127) (unmarked : c ≠ '"' ∧ c ≠ '\\') :
    quotedChar c = [c] := by
  -- the table has one range in front of the visible characters and the next one behind them
  have htable : unprintableRanges = (0, 0x1F) :: (0x7F, 0xA0) :: unprintableRanges.drop 2 := rfl
  have hcovers : covers unprintableRanges c.toNat = false := by
    have hbehind : ¬ c.toNat ≤ 0x1F := by omega
    rw [htable, covers, if_neg (Nat.not_lt_zero _), covers, if_pos visible.2, Bool.or_false]
    exact decide_eq_false hbehind
  have hzero : c.toNat ≠ 0 := by omega
  unfold quotedChar
  split
  · exact absurd visible.1 (by decide)
  · exact absurd visible.1 (by decide)
  · exact absurd visible.1 (by decide)
  · exact absurd rfl unmarked.1
  · exact absurd rfl unmarked.2
  · rw [if_neg hzero, hcovers, if_neg Bool.false_ne_true]

theorem Text.infix_quoted {token text : String} (plain : ∀ c ∈ token.toList, quotedChar c = [c])
    (h : token.toList <:+: text.toList) : token.toList <:+: (quoted text).toList := by
  obtain ⟨before, after, heq⟩ := h
  have hself : token.toList.flatMap quotedChar = token.toList := by
    rw [List.flatMap_congr plain]
    exact List.flatMap_singleton' _
  refine ⟨'"' :: before.flatMap quotedChar, after.flatMap quotedChar ++ ['"'], ?_⟩
  rw [quoted, String.toList_ofList, ← heq]
  simp [hself]

/-- An outcome that a run publishes names a failed step of its job's plan or tells of a crash that the runner answered
one of these steps with, and nothing of it is masked. A token shows in its texts exactly if it is in the name or in
the message as it is quoted, in the wording, or where these meet; so it does show when the runner quotes it in a crash. -/
theorem published_outcome_shows_iff (quotes : tasks.QuotesMessages) (reaches : b.Reachable tasks trigger jobs may s)
    {index : Nat} {name : String} (published : s.Publishes index name outcome) :
    ∃ job ∈ jobs, job.index = index ∧ job.name = name ∧ ∃ stop front middle back,
      (b.context tasks job trigger).outcome stop = outcome ∧
      stop.IsCaused (b.context tasks job trigger) b.plan may ∧
      (b.context tasks job trigger).Reads stop front middle back ∧
      (∀ token : String, (∃ text ∈ outcome.texts, token.toList <:+: text.toList) ↔
        ShowsAround token.toList front middle back) ∧
      ∀ message, stop = .crashed (some message) → ∀ token : String, (∀ c ∈ token.toList, quotedChar c = [c]) →
        token.toList <:+: message.toList → ∃ text ∈ outcome.texts, token.toList <:+: text.toList := by
  obtain ⟨job, hj, hindex, hname, stop, rfl, caused⟩ := Build.isCaused_of_publishes reaches published
  obtain ⟨front, middle, back, reads⟩ :=
    (b.context tasks job trigger).exists_reads (quotes (tasks.ofJob job)) stop
  refine ⟨job, hj, hindex, hname, stop, front, middle, back, rfl, caused, reads,
    fun token => reads.exists_mem_texts_iff, ?_⟩
  rintro message rfl token plain inMessage
  cases reads with
  | crashed told => exact (JobContext.Reads.crashed told).exists_mem_texts_iff.mpr (.subject (infix_quoted plain inMessage))

def crashesOnUpload (_ : Invocation) : Reply := ⟨[], .crashed (some "cannot run upload --token s3cret")⟩

def linuxJob : Job := ⟨0, .ofList [("os", "linux")], .stable⟩

theorem exists_publishes_crash : ∃ s, (tokenBuild "s3cret").Reachable .numbered .push [linuxJob]
      (fun call reply => reply = crashesOnUpload call) s ∧
    s.Publishes 0 "os=linux" (.aborted (panicText 1 (some "cannot run upload --token s3cret"))) := by
  have closes : (tokenBuild "s3cret").Closes .numbered .push _ :=
    ((tokenBuild "s3cret").inHand_start .push [linuxJob]).closes (by decide)
  obtain ⟨s, summary, hs, hsum⟩ := closes.exists_closed crashesOnUpload .start
  refine ⟨s, hs, ?_⟩
  have hcourse := Build.onCourse_of_reachable hs
  obtain ⟨gone, rfl⟩ := hcourse.closed summary hsum
  rw [hcourse.summaryOf_delivered gone (by simp) (List.Perm.refl _)] at hsum
  have hreport : (tokenBuild "s3cret").loneReport .numbered .push crashesOnUpload linuxJob =
      ⟨linuxJob, .aborted (panicText 1 (some "cannot run upload --token s3cret")), [.idle "report" .notRun]⟩ := rfl
  have hpublished := RunState.Publishes.result hsum List.mem_cons_self
  rw [hreport] at hpublished
  exact hpublished

theorem quotedChar_token : ∀ c ∈ "s3cret".toList, quotedChar c = [c] := by
  have hvisible : "s3cret".toList.all (fun c => (32 ≤ c.toNat ∧ c.toNat < 127) ∧ c ≠ '"' ∧ c ≠ '\\') = true := by
    decide
  intro c hc
  obtain ⟨visible, unmarked⟩ := of_decide_eq_true (List.all_eq_true.mp hvisible c hc)
  exact quotedChar_eq_self visible unmarked

theorem crash_shows_plain_token : Tasks.numbered.QuotesMessages ∧
    ∃ s, (tokenBuild "s3cret").Reachable .numbered .push [linuxJob]
      (fun call reply => reply = crashesOnUpload call) s ∧
    ∃ outcome, s.Publishes 0 "os=linux" outcome ∧ ∃ text ∈ outcome.texts, "s3cret".toList <:+: text.toList := by
  obtain ⟨s, reaches, published⟩ := exists_publishes_crash
  obtain ⟨job, -, -, -, stop, front, middle, back, houtcome, caused, -, -, hshows⟩ :=
    published_outcome_shows_iff quotesMessages_numbered reaches published
  refine ⟨quotesMessages_numbered, s, reaches, _, published, ?_⟩
  cases caused with
  | completed => cases houtcome
  | failed planned answered failure => cases houtcome
  | @crashed step lines message planned answered =>
    obtain rfl : message = some "cannot run upload --token s3cret" := by
      cases answered
      rfl
    exact hshows _ rfl "s3cret" quotedChar_token (by decide)

/-- Not every outcome keeps the token to itself: a crash shows it although it is neither in the name of a step nor in
the wording, that of the join error included. -/
theorem not_outcomes_hide_token : ¬ ∀ (b : Build) (tasks : Tasks) (trigger : Trigger) (jobs : List Job)
    (answer : Invocation → Reply) (s : RunState) (token : String), tasks.QuotesMessages →
    b.settings.token = some token → token ≠ "" → IsErasable token →
    b.Reachable tasks trigger jobs (fun call reply => reply = answer call) s →
    ∀ index name outcome, s.Publishes index name outcome → ∀ text ∈ outcome.texts,
      token.toList <:+: text.toList → (∃ step ∈ outcome.failedStep?, token.toList <:+: step.toList) ∨
        token.toList <:+: outcome.opening.toList ∨ token.toList <:+: outcome.closing.toList ∨
        ∃ job ∈ jobs, token.toList <:+: (tasks.crashText job (some "")).toList := by
  intro h
  obtain ⟨s, reaches, published⟩ := exists_publishes_crash
  have erasable : IsErasable "s3cret" := ⟨by decide, by decide, by decide⟩
  have hshown : ∃ text ∈ (Outcome.aborted (panicText 1 (some "cannot run upload --token s3cret"))).texts,
      "s3cret".toList <:+: text.toList := by
    refine ⟨_, List.mem_cons_self, ?_⟩
    rw [Outcome.message_aborted, panicText, String.toList_append, String.toList_append]
    exact (infix_quoted quotedChar_token (by decide)).trans
      ((List.suffix_append _ _).trans (List.suffix_append _ _)).isInfix
  obtain ⟨text, hm, hi⟩ := hshown
  have hhidden := h _ _ _ _ _ s "s3cret" quotesMessages_numbered rfl (by decide) erasable reaches _ _ _ published text
    hm hi
  revert hhidden
  decide +kernel

end JobMatrix
