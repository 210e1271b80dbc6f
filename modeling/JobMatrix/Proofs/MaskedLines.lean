import JobMatrix.Proofs.StepEvents
import JobMatrix.Proofs.TokenMask

/-!
Masking line by line. A token without a line break never reaches from one line into the next, so a masked text is
its masked lines put together; a token with a line break stands in a text of several lines and in none of them. So
the error text in the report about a step is what the step has told of its error lines, if the token is on one line.
-/
namespace JobMatrix
open Text
variable {token : String}

theorem exists_lines (text : List Char) : ∃ lines : List String, lines ≠ [] ∧
    (∀ line ∈ lines, '\n' ∉ line.toList) ∧ (joinWith "\n" lines).toList = text := by
  induction text with
  | nil => exact ⟨[""], by simp, by simp, rfl⟩
  | cons c text ih =>
    obtain ⟨lines, hne, hlines, rfl⟩ := ih
    obtain ⟨first, rest, rfl⟩ := List.exists_cons_of_ne_nil hne
    obtain ⟨hfirst, hrest⟩ := List.forall_mem_cons.mp hlines
    by_cases hc : c = '\n'
    · subst hc
      refine ⟨"" :: first :: rest, by simp, List.forall_mem_cons.mpr ⟨by simp, hlines⟩, ?_⟩
      simp [joinWith]
    · refine ⟨(String.ofList [c] ++ first) :: rest, by simp, List.forall_mem_cons.mpr ⟨?_, hrest⟩, ?_⟩
      · simp [Ne.symm hc, hfirst]
      · rw [joinWith_eq_intercalate, String.intercalate_cons_append, ← joinWith_eq_intercalate]
        simp

theorem maskWith_append_line (nonempty : token ≠ "") (single : '\n' ∉ token.toList) (line rest : String) :
    maskWith token (line ++ "\n" ++ rest) = maskWith token line ++ "\n" ++ maskWith token rest := by
  have hne : token.toList ≠ [] := by simpa using nonempty
  have hparts : (line ++ "\n" ++ rest).toList = line.toList ++ '\n' :: rest.toList := by simp
  rw [← String.toList_inj, toList_maskWith nonempty, hparts, replaceAll_append_cons hne single]
  simp [toList_maskWith nonempty]

theorem maskWith_joinWith (nonempty : token ≠ "") (single : '\n' ∉ token.toList) (lines : List String) :
    maskWith token (joinWith "\n" lines) = joinWith "\n" (lines.map (maskWith token)) := by
  induction lines with
  | nil => simp [joinWith, maskWith, replaceAll, replaceFrom]
  | cons line rest ih =>
    cases rest with
    | nil => rfl
    | cons next later =>
      rw [joinWith, maskWith_append_line nonempty single, ih]
      rfl

/-- The lines of a token with a line break stay as they are, and the token itself does not. -/
theorem exists_maskWith_joinWith_ne (nonempty : token ≠ "") (broken : '\n' ∈ token.toList) :
    ∃ lines : List String, (∀ line ∈ lines, '\n' ∉ line.toList) ∧
      maskWith token (joinWith "\n" lines) ≠ joinWith "\n" (lines.map (maskWith token)) := by
  have hne : token.toList ≠ [] := by simpa using nonempty
  -- the token's own lines: it stands in none of them, since none of them has its line break
  obtain ⟨lines, -, hlines, hjoin⟩ := exists_lines token.toList
  have hwhole : joinWith "\n" lines = token := String.toList_inj.mp hjoin
  have hline : ∀ line ∈ lines, maskWith token line = line := by
    intro line hl
    have habsent : ¬ token.toList <:+: line.toList := fun hi => hlines line hl (hi.subset broken)
    rw [← String.toList_inj, toList_maskWith nonempty, replaceAll_eq_self habsent]
  have hsame : lines.map (maskWith token) = lines := (List.map_congr_left hline).trans (List.map_id lines)
  refine ⟨lines, hlines, fun h => ?_⟩
  rw [hsame, hwhole, ← String.toList_inj, toList_maskWith nonempty] at h
  have hstars : token.toList ≠ stars := by
    intro heq
    rw [heq] at broken
    exact absurd broken (by decide)
  exact replaceAll_ne_self hne hstars (List.infix_refl _) h

def JobEvent.errorText? : JobEvent → Option String
  | stepOutput _ line true => some line
  | _ => none

def errorTextsAt (place : Nat) (events : List JobEvent) : List String :=
  (eventsAt place events).filterMap JobEvent.errorText?

theorem errorTextsAt_later {index : Nat} {now later : List JobEvent} (hn : ∀ e ∈ now, e.place? = some index) (i : Nat) :
    errorTextsAt (index + (i + 1)) (now ++ later) = errorTextsAt (index + 1 + i) later := by
  have hplace : index + (i + 1) = index + 1 + i := by omega
  rw [hplace, errorTextsAt, eventsAt_later hn (by omega), errorTextsAt]

def Reply.told (reply : Reply) (isError : Bool) : List String :=
  (reply.lines.filter (·.isError == isError)).map (·.text)

section Steps
variable {σ : Type} {c : JobContext} {runner : Runner σ} {plan : Plan} {index place : Nat} {state : σ}
  {trace : Trace σ}

/-- A runner whose error text is its error lines, put together. -/
def Runner.JoinsErrors (runner : Runner σ) : Prop :=
  ∀ state call code errors, (runner state call).1.ending = .exited code errors →
    errors = joinWith "\n" ((runner state call).1.told true)

namespace JobContext

theorem errorText?_outputEvents (c : JobContext) (place : Nat) (lines : List OutputLine) :
    (c.outputEvents place lines).filterMap JobEvent.errorText? =
      ((lines.filter (·.isError == true)).map (·.text)).map c.settings.mask := by
  induction lines with
  | nil => rfl
  | cons line lines ih =>
    obtain ⟨text, isError⟩ := line
    cases isError with
    | false => exact ih
    | true => exact congrArg (_ :: ·) ih

theorem errorText?_stepEvents (c : JobContext) (place : Nat) (s : PlannedStep) (lines : List OutputLine)
    (code : Option Int) : (c.stepEvents place s lines code).filterMap JobEvent.errorText? =
      ((lines.filter (·.isError == true)).map (·.text)).map c.settings.mask := by
  have hstarted : (JobEvent.stepStarted place s.step.name (c.shownCommand s)).errorText? = none := rfl
  rw [stepEvents, List.cons_append, List.filterMap_cons_none hstarted, List.filterMap_append,
    errorText?_outputEvents]
  exact List.append_nil _

structure FailsOn (c : JobContext) (runner : Runner σ) (state : σ) (trace : Trace σ) (place : Nat) (r : StepReport)
    (reply : Reply) (errors : String) : Prop where
  last : (runner.answers state trace.calls).getLast? = some reply
  exited : ∃ code, reply.ending = .exited code errors
  reported : r.error = if errors = "" then none else some (c.settings.mask errors)
  told : errorTextsAt place trace.events = (reply.told true).map c.settings.mask

theorem Leaves.exists_failsOn (h : c.Leaves runner plan index state trace) {i : Nat} {r : StepReport}
    (hr : trace.steps[i]? = some r) (failed : r.status = .failed) :
    ∃ reply errors, c.FailsOn runner state trace (index + i) r reply errors := by
  -- a derivation ends with the step that failed, and no step in front of it tells anything at its place
  induction h generalizing i with
  | nil => cases hr
  | @skipped s rest index state reason later excluded goes ih =>
    cases i with
    | zero =>
      cases hr
      cases failed
    | succ i =>
      obtain ⟨reply, errors, h⟩ := ih hr
      have hfirst : ∀ e ∈ [JobEvent.stepSkipped index s.step.name reason.message], e.place? = some index := by
        simp [JobEvent.place?]
      exact ⟨reply, errors, h.last, h.exited, h.reported, (errorTextsAt_later hfirst i).trans h.told⟩
  | @succeeded s rest index state next lines code errors later applies answered success goes ih =>
    cases i with
    | zero =>
      cases hr
      simp [stepReport, success] at failed
    | succ i =>
      obtain ⟨reply, errors, h⟩ := ih hr
      have hlast : (runner.answers state (c.invocation s :: later.calls)).getLast? = some reply := by
        rw [Runner.answers, answered, List.getLast?_cons, h.last]
        rfl
      have hfirst : ∀ e ∈ c.stepEvents index s lines code, e.place? = some index := fun e he =>
        place?_of_mem_stepEvents he
      exact ⟨reply, errors, hlast, h.exited, h.reported, (errorTextsAt_later hfirst i).trans h.told⟩
  | @failed s rest index state next lines code errors applies answered failure =>
    cases i with
    | zero =>
      cases hr
      refine ⟨⟨lines, .exited code errors⟩, errors, ?_, ⟨code, rfl⟩, ?_, ?_⟩
      · simp [Runner.answers, answered]
      · simp [stepReport, failure]
      · rw [errorTextsAt, Nat.add_zero, ← List.append_nil (c.stepEvents index s lines code),
          eventsAt_first (fun e he => place?_of_mem_stepEvents he) (by simp), errorText?_stepEvents]
        rfl
    | succ i =>
      obtain ⟨t, -, rfl⟩ : ∃ t, rest[i]? = some t ∧ .idle t.step.name .notRun = r := by simpa using hr
      cases failed

end JobContext

theorem Runner.exists_of_mem_answers {reply : Reply} {calls : List Invocation}
    (h : reply ∈ runner.answers state calls) : ∃ asked call, (runner asked call).1 = reply := by
  induction calls generalizing state with
  | nil => cases h
  | cons call calls ih =>
    rcases List.mem_cons.mp h with rfl | h
    · exact ⟨state, call, rfl⟩
    · exact ih h

theorem JobContext.leaves_of_failed {r : StepReport} (hr : r ∈ (c.run plan runner state).report.steps)
    (failed : r.status = .failed) : c.Leaves runner plan 0 state (c.runSteps runner plan 0 state) := by
  rcases c.leaves_or_crashes runner plan 0 state with h | ⟨-, -, message, -, hstop⟩
  · exact h
  · simp only [run, report, hstop] at hr
    obtain ⟨s, -, rfl⟩ := List.mem_map.mp hr
    cases failed

end Steps

/-- For a token that is not empty, the masked lines of every text make up the masked text exactly if the token has no
line break. A runner that gives its error lines as its error text, all in one, is then reported with the error lines
that were told: they are the error of each failed step that has one. -/
theorem masks_by_lines_iff {settings : Settings} (given : settings.token = some token) (nonempty : token ≠ "") :
    ((∀ lines : List String, (∀ line ∈ lines, '\n' ∉ line.toList) →
        settings.mask (joinWith "\n" lines) = joinWith "\n" (lines.map settings.mask)) ↔ '\n' ∉ token.toList) ∧
      ('\n' ∉ token.toList → ∀ (σ : Type) (c : JobContext) (plan : Plan) (runner : Runner σ) (state : σ),
        c.settings = settings → runner.JoinsErrors → ∀ place r,
          (c.run plan runner state).report.steps[place]? = some r → r.status = .failed →
            ∃ reply code errors,
              (runner.answers state (c.run plan runner state).calls).getLast? = some reply ∧
              reply.ending = .exited code errors ∧
              (errors ≠ "" →
                r.error = some (joinWith "\n" (errorTextsAt place (c.run plan runner state).events)))) := by
  have hmask : settings.mask = maskWith token := by
    funext text
    rw [Settings.mask, given]
  rw [hmask]
  refine ⟨⟨fun h broken => ?_, fun single lines _ => maskWith_joinWith nonempty single lines⟩, ?_⟩
  · obtain ⟨lines, hlines, hne⟩ := exists_maskWith_joinWith_ne nonempty broken
    exact hne (h lines hlines)
  · intro single σ c plan runner state hsettings joins place r hr failed
    have leaves := JobContext.leaves_of_failed (List.mem_of_getElem? hr) failed
    have hreport : (c.run plan runner state).report = ⟨c.job, _, _⟩ := JobContext.report_of_leaves leaves
    rw [hreport] at hr
    obtain ⟨reply, errors, fails⟩ := leaves.exists_failsOn hr failed
    obtain ⟨code, hexited⟩ := fails.exited
    refine ⟨reply, code, errors, fails.last, hexited, fun hne => ?_⟩
    obtain ⟨asked, call, rfl⟩ := Runner.exists_of_mem_answers (List.mem_of_getLast? fails.last)
    have htold := fails.told
    rw [Nat.zero_add] at htold
    rw [fails.reported, if_neg hne, errorTextsAt, JobContext.eventsAt_run, ← errorTextsAt, htold, hsettings, hmask,
      ← maskWith_joinWith nonempty single, ← joins asked call code errors hexited]

def deniesBuild : Runner Unit := .ofFunction fun call =>
  if call.step = "Build" then
    ⟨[⟨"token: s3cret", true⟩, ⟨"retrying", false⟩, ⟨"", true⟩, ⟨"denied", true⟩],
      .exited (some 22) "token: s3cret\n\ndenied"⟩
  else ⟨[], .exited (some 0) ""⟩

theorem deniesBuild_masks_by_lines :
    let c : JobContext := ⟨(Settings.initial "/work").withToken "s3cret", ⟨0, .ofList [("os", "linux")], .stable⟩, .push,
      panicText 1⟩
    c.settings.token = some "s3cret" ∧ "s3cret" ≠ "" ∧ deniesBuild.JoinsErrors ∧
      ∃ r, (c.run toolchainPlan deniesBuild ()).report.steps[2]? = some r ∧ r.status = .failed ∧
        r.error = some "token: ***\n\ndenied" := by
  intro c
  have joins : deniesBuild.JoinsErrors := by
    intro state call code errors h
    by_cases hb : call.step = "Build"
    · simp only [deniesBuild, Runner.ofFunction, hb, if_true] at h ⊢
      cases h
      decide
    · simp only [deniesBuild, Runner.ofFunction, hb, if_false] at h ⊢
      cases h
      decide
  have given : c.settings.token = some "s3cret" := rfl
  obtain ⟨-, htold⟩ := masks_by_lines_iff given (by decide)
  obtain ⟨r, hr, failed⟩ : ∃ r, (c.run toolchainPlan deniesBuild ()).report.steps[2]? = some r ∧ r.status = .failed :=
    ⟨_, rfl, by decide⟩
  obtain ⟨reply, code, errors, hlast, hexited, herror⟩ :=
    htold (by decide) Unit c toolchainPlan deniesBuild () rfl joins 2 r hr failed
  have hreply : (deniesBuild.answers () (c.run toolchainPlan deniesBuild ()).calls).getLast? =
      some (deniesBuild () (c.invocation toolchainPlan[2])).1 := by decide
  obtain rfl := Option.some.inj (hreply.symm.trans hlast)
  cases hexited
  refine ⟨given, by decide, joins, r, hr, failed, ?_⟩
  rw [herror (by decide)]
  decide

end JobMatrix
