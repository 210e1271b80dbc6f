import JobMatrix.Proofs.LaneMoves
import Mathlib.Data.List.Nodup

/-!
What one move does to a whole run. The lane at one place changes its phase and all other lanes stay as they
are, or the run is closed.
-/
namespace JobMatrix
variable {b : Build} {tasks : Tasks} {trigger : Trigger} {s t : RunState} {move : Move}

inductive Build.Step (b : Build) (tasks : Tasks) (trigger : Trigger) (s : RunState) : Move → RunState → Prop
  | acquire {before after : List Lane} {job : Job} {free : Option Nat}
      (lane : s.lanes = before ++ ⟨job, .waiting⟩ :: after)
      (permit : RunState.takePermit? s.free = some free) :
      Step b tasks trigger s (.acquire before.length)
        { s with lanes := before ++ ⟨job, .admitted⟩ :: after, free := free }
  | work {before after : List Lane} {job : Job} {phase next : Phase} {reply : Reply} {events : List JobEvent}
      (lane : s.lanes = before ++ ⟨job, phase⟩ :: after)
      (goes : (b.context tasks job trigger).Moves b.plan reply phase next events) :
      Step b tasks trigger s (.work before.length reply)
        { s with
          lanes := before ++ ⟨job, next⟩ :: after
          log := s.log ++ events.map (.job job.index job.name) }
  | release {before after : List Lane} {job : Job} {report : JobReport}
      (lane : s.lanes = before ++ ⟨job, .told report⟩ :: after) :
      Step b tasks trigger s (.release before.length)
        { s with
          lanes := before ++ ⟨job, .gone⟩ :: after
          free := s.free.map (· + 1)
          reports := s.reports ++ [report] }
  | close (gone : s.allGone = true) (unclosed : s.summary = none) :
      Step b tasks trigger s .close
        { s with
          summary := some (b.summaryOf trigger s.reports)
          log := s.log ++ [(b.summaryOf trigger s.reports).closing] }

theorem exists_append_of_getElem? {α : Type} {l : List α} {i : Nat} {a : α} (h : l[i]? = some a) :
    ∃ before after, l = before ++ a :: after ∧ before.length = i ∧
      ∀ x, l.set i x = before ++ x :: after := by
  obtain ⟨hi, rfl⟩ := List.getElem?_eq_some_iff.mp h
  refine ⟨l.take i, l.drop (i + 1), ?_, by simp [Nat.le_of_lt hi], fun x => ?_⟩
  · rw [List.getElem_cons_drop, List.take_append_drop]
  · rw [List.set_eq_take_append_cons_drop, if_pos hi]

theorem Build.step_of_step? (h : b.step? tasks trigger s move = some t) : b.Step tasks trigger s move t := by
  cases move with
  | acquire place =>
    simp only [step?] at h
    split at h
    · next job free hl hp =>
      obtain ⟨before, after, hs, rfl, hset⟩ := exists_append_of_getElem? hl
      cases h
      simpa only [RunState.moveTo, hset, List.map_nil, List.append_nil] using .acquire hs hp
    · cases h
  | work place reply =>
    simp only [step?] at h
    split at h
    · next job phase hl =>
      obtain ⟨before, after, hs, rfl, hset⟩ := exists_append_of_getElem? hl
      obtain ⟨⟨next, events⟩, hn, rfl⟩ := Option.map_eq_some_iff.mp h
      simpa only [RunState.moveTo, hset] using .work hs (JobContext.moves_of_next? hn)
    · cases h
  | release place =>
    simp only [step?] at h
    split at h
    · next job report hl =>
      obtain ⟨before, after, hs, rfl, hset⟩ := exists_append_of_getElem? hl
      cases h
      simpa only [RunState.moveTo, hset, List.map_nil, List.append_nil] using .release hs
    · cases h
  | close =>
    simp only [step?, Bool.and_eq_true] at h
    split at h
    · next hc =>
      cases h
      exact .close hc.1 (by simpa using hc.2)
    · cases h

theorem Build.step?_of_step (h : b.Step tasks trigger s move t) : b.step? tasks trigger s move = some t := by
  cases h with
  | acquire lane permit => simp [step?, lane, permit, RunState.moveTo]
  | work lane goes => simp [step?, lane, JobContext.next?_of_moves goes, RunState.moveTo]
  | release lane => simp [step?, lane, RunState.moveTo]
  | close gone unclosed => simp [step?, gone, unclosed]

theorem Build.callOf?_work {before after : List Lane} {job : Job} {phase : Phase}
    (lane : s.lanes = before ++ ⟨job, phase⟩ :: after) (reply : Reply) :
    b.callOf? tasks trigger s (.work before.length reply) = (b.context tasks job trigger).nextCall? phase := by
  simp [callOf?, lane]

theorem RunState.phase_of_allGone (gone : s.allGone = true) {lane : Lane} (hl : lane ∈ s.lanes) :
    lane.phase = .gone := beq_iff_eq.mp (List.all_eq_true.mp gone lane hl)

theorem RunState.filter_of_allGone (gone : s.allGone = true) : s.lanes.filter (·.phase == .gone) = s.lanes :=
  List.filter_eq_self.mpr fun lane hl => List.all_eq_true.mp gone lane hl

theorem Build.Step.perm_reports {α : Type} (of : JobReport → α) (due : Job → α) (goes : b.Step tasks trigger s move t)
    (told : ∀ job report, (⟨job, .told report⟩ : Lane) ∈ s.lanes → of report = due job)
    (h : (s.reports.map of).Perm ((s.lanes.filter (·.phase == .gone)).map fun lane => due lane.job)) :
    (t.reports.map of).Perm ((t.lanes.filter (·.phase == .gone)).map fun lane => due lane.job) := by
  cases goes with
  | @acquire before after job free lane permit =>
    simpa [lane, List.filter_append, List.filter_cons] using h
  | @work before after job phase next reply events lane goes =>
    obtain ⟨hphase, hnext⟩ := goes.ne_gone
    simpa [lane, List.filter_append, List.filter_cons, hphase, hnext] using h
  | @release before after job report lane =>
    -- The told report goes to the end of the reports, and its lane into the middle of those that are gone.
    have hown := told job report (by simp [lane])
    simp only [lane, List.filter_append, List.filter_cons, List.map_append] at h
    rw [List.map_append, List.map_singleton, hown]
    simpa [List.filter_append, List.filter_cons] using
      (List.perm_append_singleton _ _).trans ((h.cons _).trans List.perm_middle.symm)
  | close gone unclosed => exact h

theorem eq_of_perm_of_ordered {α : Type} {key : α → Nat} {l m : List α} (h : l.Perm m)
    (hl : l.Pairwise (key · ≤ key ·)) (hm : m.Pairwise (key · < key ·)) : l = m := by
  have hdistinct : (m.map key).Nodup := List.pairwise_map.mpr (hm.imp Nat.ne_of_lt)
  refine h.eq_of_pairwise ?_ hl (hm.imp Nat.le_of_lt)
  intro a c ha hc hac hca
  exact List.inj_on_of_nodup_map hdistinct (h.mem_iff.mp ha) hc (Nat.le_antisymm hac hca)

theorem Build.perm_summaryOf (b : Build) (trigger : Trigger) (reports : List JobReport) :
    (b.summaryOf trigger reports).jobs.Perm reports := List.mergeSort_perm ..

theorem Build.pairwise_summaryOf (b : Build) (trigger : Trigger) (reports : List JobReport) :
    (b.summaryOf trigger reports).jobs.Pairwise (·.job.index ≤ ·.job.index) := by
  let before (r t : JobReport) : Bool := r.job.index ≤ t.job.index
  have htrans : ∀ r t u, before r t → before t u → before r u := by
    intro r t u hrt htu
    simp only [before, decide_eq_true_eq] at *
    omega
  have htotal : ∀ r t, before r t || before t r := by
    intro r t
    simp only [before, Bool.or_eq_true, decide_eq_true_eq]
    omega
  exact (List.pairwise_mergeSort htrans htotal reports).imp of_decide_eq_true

end JobMatrix
